import ShardAtlas.Refresh.Scope

namespace ShardAtlas.Refresh

/-!
# The refresh clock

The clock says when the next refresh is due and gives every refresh and every
finished fetch a tick of its own. Ticks are readings of the time in
milliseconds, moved on where a reading would not be later than the last tick.

After a refresh starts, the clock counts as refreshing until a short window is
over. That the window is over is noticed at the next look at the clock.
-/

/-- What a clock is set up with. -/
structure ClockSettings where
  defaultInterval : Int := 15000
  settleWindow : Int := 500
  preferenceKey : String := "clusterview-refresh-interval"
  deriving Repr, DecidableEq

/-- What a clock is doing. -/
inductive Phase
  | idle
  | scheduled
  | refreshing
  deriving Repr, DecidableEq

namespace Phase

/-- All phases. -/
def all : List Phase :=
  [.idle, .scheduled, .refreshing]

/-- The name of a phase. -/
def name :
    Phase →
    String
  | .idle => "idle"
  | .scheduled => "scheduled"
  | .refreshing => "refreshing"

end Phase

/-- When a timer started at some time fires; never without an interval. -/
def firingTime
    (interval start : Int) :
    Option Int :=
  if interval = 0 then
    none
  else
    some (start + interval)

/--
The times that are read in one refresh: when it starts, and for its tick once the
caches are told.
-/
structure RefreshTimes where
  started : Int
  told : Int
  deriving Repr, DecidableEq

/-- A refresh during which no time passes. -/
def RefreshTimes.still
    (now : Int) :
    RefreshTimes :=
  { started := now
    told := now }

/-- The clock of a refresh cycle. -/
structure Clock where
  settings : ClockSettings
  interval : Int
  settleDeadline : Option Int := none
  lastTick : Option Int := none
  nextFiring : Option Int
  deriving Repr, DecidableEq

namespace Clock

/-- A clock that starts to run at some time. -/
def started
    (settings : ClockSettings)
    (interval now : Int) :
    Clock :=
  { settings := settings
    interval := interval
    nextFiring := firingTime interval now }

/-- Notice that the window after a refresh is over. -/
def settled
    (clock : Clock)
    (now : Int) :
    Clock :=
  match clock.settleDeadline with
  | some deadline =>
      if deadline ≤ now then
        { clock with settleDeadline := none }
      else
        clock
  | none =>
      clock

/-- What a clock is doing, as noted at the last look at it. -/
def phase
    (clock : Clock) :
    Phase :=
  if clock.settleDeadline.isSome then
    .refreshing
  else if clock.interval = 0 then
    .idle
  else
    .scheduled

/-- The next tick: the time, or the first one after the last tick. -/
def nextTick
    (clock : Clock)
    (now : Int) :
    Int :=
  match clock.lastTick with
  | some last =>
      max now (last + 1)
  | none =>
      now

/-- Give out the next tick. -/
def stamped
    (clock : Clock)
    (now : Int) :
    Clock × Int :=
  ({ clock with lastTick := some (clock.nextTick now) },
    clock.nextTick now)

/-- Start the timer again with another interval. -/
def withInterval
    (clock : Clock)
    (interval now : Int) :
    Clock :=
  { clock with
    interval := interval
    nextFiring := firingTime interval now }

/-- Open the window of a refresh, even if an earlier one is not over. -/
def opened
    (clock : Clock)
    (now : Int) :
    Clock :=
  { clock with
    settleDeadline := some (now + clock.settings.settleWindow) }

/--
Start a refresh: tell the caches, give out a tick and start the timer again.

Where a cache fails there is no tick and the timer goes on, but the window of the
refresh is open. Whether an earlier window is over makes no difference, since the
new one takes its place.
-/
def trigger
    (clock : Clock)
    (times : RefreshTimes)
    (scope : Scope)
    (caches : List (Announce σ ε))
    (state : σ) :
    Clock × σ × Except ε Int :=
  match announceAll scope caches state with
  | (told, .ok ()) =>
      let (stamped, tick) := (clock.opened times.started).stamped times.told
      ({ stamped with
          nextFiring := firingTime clock.interval times.started },
        told, .ok tick)
  | (told, .error cause) =>
      (clock.opened times.started, told, .error cause)

/-- Whether the timer is due. -/
def isDue
    (clock : Clock)
    (now : Int) :
    Bool :=
  clock.nextFiring.any fun time => time ≤ now

/--
Start a refresh if the timer is due, and say whether it was.

The time is read for a look at the clock, for the timer, and for the refresh.
-/
def tick
    (clock : Clock)
    (looked due : Int)
    (times : RefreshTimes)
    (caches : List (Announce σ ε))
    (state : σ) :
    Clock × σ × Except ε Bool :=
  if clock.isDue due then
    match (clock.settled looked).trigger times .everything caches state with
    | (after, told, outcome) =>
        (after, told, outcome.map fun _ => true)
  else
    (clock.settled looked, state, .ok false)

end Clock

end ShardAtlas.Refresh
