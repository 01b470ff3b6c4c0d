import ShardAtlas.Publication
import ShardAtlas.Refresh.Interval

namespace ShardAtlas

/-!
# Publications that share a clock

An ensemble is a clock with the publications that take their ticks from it. Its
clock announces refreshes to hearers: publications of the ensemble, or anything else,
which may fail whenever it is told. A run is any list of calls to the clock and to
the publications, and every call comes with the times that are read in it, so time
may stand still or go back between calls and within one.

What a call does to the clock is said once here. A call attempts a refresh, or it
ends a fetch, or it does neither, and only the first two give out ticks.
-/

namespace Refresh.Clock

/-- The end of the window of a refresh, while it is not over. -/
def openUntil?
    (clock : Clock)
    (now : Int) :
    Option Int :=
  clock.settleDeadline.filter fun deadline => now < deadline

/-- A look at a clock closes a window that is over, and changes nothing else. -/
theorem settled_eq
    (clock : Clock)
    (now : Int) :
    clock.settled now =
      { clock with settleDeadline := clock.openUntil? now } := by
  rcases clock with ⟨settings, interval, deadline?, lastTick, nextFiring⟩
  cases deadline? with
  | none =>
      rfl
  | some deadline =>
      by_cases ended : deadline ≤ now
      · simp [settled, openUntil?, Option.filter, ended]
      · have isOpen : now < deadline :=
          Int.not_le.mp ended
        simp [settled, openUntil?, Option.filter, ended, isOpen]

/-- The next tick is not before the time it is made from. -/
theorem le_nextTick
    (clock : Clock)
    (now : Int) :
    now ≤ clock.nextTick now := by
  unfold nextTick
  split <;> omega

/-- The next tick is later than the last one. -/
theorem lt_nextTick
    {clock : Clock}
    {last : Int}
    (isLast : clock.lastTick = some last)
    (now : Int) :
    last < clock.nextTick now := by
  simp only [nextTick, isLast]
  omega

/--
A refresh that every cache was told about: the window is open, the next tick is
given out, and the timer starts again.
-/
def refreshed
    (clock : Clock)
    (times : RefreshTimes) :
    Clock :=
  { clock.opened times.started with
    lastTick := some (clock.nextTick times.told)
    nextFiring := firingTime clock.interval times.started }

/-- A refresh is completed with a tick, or its window is opened and a cache has failed. -/
theorem trigger_cases
    (clock : Clock)
    (times : RefreshTimes)
    (scope : Scope)
    (caches : List (Announce σ ε))
    (state : σ) :
    (∃ told,
      clock.trigger times scope caches state =
        (clock.refreshed times, told, .ok (clock.nextTick times.told))) ∨
      ∃ told cause,
        clock.trigger times scope caches state =
          (clock.opened times.started, told, .error cause) := by
  rcases heard : announceAll scope caches state with ⟨told, outcome⟩
  cases outcome with
  | ok done =>
      exact .inl ⟨told, by simp only [trigger, heard]; rfl⟩
  | error cause =>
      exact .inr ⟨told, cause, by simp only [trigger, heard]⟩

/-- A refresh leaves the caches as announcing it does, whatever becomes of its tick. -/
theorem told_trigger
    (clock : Clock)
    (times : RefreshTimes)
    (scope : Scope)
    (caches : List (Announce σ ε))
    (state : σ) :
    (clock.trigger times scope caches state).2.1 =
      (announceAll scope caches state).1 := by
  unfold trigger
  split
  · next heard =>
      rw [heard]
  · next heard =>
      rw [heard]

/-- A refresh that every cache is told about gives out the next tick. -/
theorem trigger_of_told
    (clock : Clock)
    (times : RefreshTimes)
    {scope : Scope}
    {caches : List (Announce σ ε)}
    {state : σ}
    (heard : (announceAll scope caches state).2 = .ok ()) :
    (clock.trigger times scope caches state).2.2 =
      .ok (clock.nextTick times.told) := by
  rcases announced : announceAll scope caches state with ⟨told, outcome⟩
  rw [announced] at heard
  cases heard
  simp only [trigger, announced]
  rfl

/-- A look before a refresh makes no difference to it. -/
theorem trigger_settled
    (clock : Clock)
    (now : Int)
    (times : RefreshTimes)
    (scope : Scope)
    (caches : List (Announce σ ε))
    (state : σ) :
    (clock.settled now).trigger times scope caches state =
      clock.trigger times scope caches state := by
  rw [settled_eq]
  rfl

/-- A timer that is due starts a refresh, and one that is not only has a look. -/
theorem tick_eq
    (clock : Clock)
    (looked due : Int)
    (times : RefreshTimes)
    (caches : List (Announce σ ε))
    (state : σ) :
    clock.tick looked due times caches state =
      if clock.isDue due then
        ((clock.trigger times .everything caches state).1,
          (clock.trigger times .everything caches state).2.1,
          (clock.trigger times .everything caches state).2.2.map
            fun _ => true)
      else
        (clock.settled looked, state, .ok false) := by
  simp only [tick, trigger_settled]

end Refresh.Clock

/-- Something that is told about refreshes: a publication by its place, or anything else. -/
inductive Hearer
    (σ : Type u)
    (ε : Type v)
  | publication (place : Nat)
  | other (announce : Refresh.Announce σ ε)

/-- How a hearer is told about a refresh; a publication never fails. -/
def Hearer.announce :
    Hearer σ ε →
    Refresh.Announce (List Publication × σ) ε
  | .publication place, scope, (publications, others) =>
      ((publications.modify place (·.invalidate scope), others), .ok ())
  | .other announce, scope, (publications, others) =>
      let (told, outcome) := announce scope others
      ((publications, told), outcome)

/-- A clock with the publications that take their ticks from it, and who hears of refreshes. -/
structure Ensemble
    (σ : Type u)
    (ε : Type v) where
  clock : Refresh.Clock
  publications : List Publication
  hearers : List (Hearer σ ε)
  others : σ

namespace Ensemble

/-- What is asked of an ensemble, with the times that are read meanwhile. -/
inductive Call
    (σ : Type u)
    (ε : Type v)
  | look (now : Int)
  | setInterval
      (value : Json)
      (now : Int)
  | join (hearer : Hearer σ ε)
  | trigger
      (scope : Refresh.Scope)
      (times : Refresh.RefreshTimes)
  | tick
      (looked due : Int)
      (times : Refresh.RefreshTimes)
  | markFetched (now : Int)
  | invalidate
      (place : Nat)
      (scope : Refresh.Scope)
  | beginFetch (place : Nat)
  | succeed
      (place : Nat)
      (token now : Int)
      (inventory : Inventory)
  | fail
      (place : Nat)
      (token : Int)
      (failure : FetchFailure)

/-- The time of a look at the clock, if a call takes one. -/
def Call.look? :
    Call σ ε →
    Option Int
  | .look now => some now
  | .tick looked _ _ => some looked
  | _ => none

/-- A new clock with new publications of some clusters. -/
def start
    (settings : Refresh.ClockSettings)
    (interval now : Int)
    (clusters : List String)
    (hearers : List (Hearer σ ε))
    (others : σ) :
    Ensemble σ ε :=
  { clock := .started settings interval now
    publications := clusters.map fun cluster => { cluster := cluster }
    hearers := hearers
    others := others }

/-- How the hearers are told about a refresh. -/
def announcements
    (ensemble : Ensemble σ ε) :
    List (Refresh.Announce (List Publication × σ) ε) :=
  ensemble.hearers.map Hearer.announce

/-- What a refresh is announced to, as it is now. -/
def told
    (ensemble : Ensemble σ ε) :
    List Publication × σ :=
  (ensemble.publications, ensemble.others)

/-- A refresh that is started now. -/
def triggered
    (ensemble : Ensemble σ ε)
    (scope : Refresh.Scope)
    (times : Refresh.RefreshTimes) :
    Refresh.Clock × (List Publication × σ) × Except ε Int :=
  ensemble.clock.trigger times scope ensemble.announcements ensemble.told

/-- A look at the timer now. -/
def ticked
    (ensemble : Ensemble σ ε)
    (looked due : Int)
    (times : Refresh.RefreshTimes) :
    Refresh.Clock × (List Publication × σ) × Except ε Bool :=
  ensemble.clock.tick looked due times ensemble.announcements ensemble.told

/-- Take one call. -/
def step
    (ensemble : Ensemble σ ε) :
    Call σ ε →
    Ensemble σ ε
  | .look now =>
      { ensemble with clock := ensemble.clock.settled now }
  | .setInterval value now =>
      match Refresh.checkInterval value with
      | .ok interval =>
          { ensemble with
            clock := ensemble.clock.withInterval interval now }
      | .error _ =>
          ensemble
  | .join hearer =>
      { ensemble with hearers := ensemble.hearers ++ [hearer] }
  | .trigger scope times =>
      let (clock, (publications, others), _) :=
        ensemble.triggered scope times
      { ensemble with
        clock := clock
        publications := publications
        others := others }
  | .tick looked due times =>
      let (clock, (publications, others), _) :=
        ensemble.ticked looked due times
      { ensemble with
        clock := clock
        publications := publications
        others := others }
  | .markFetched now =>
      { ensemble with clock := (ensemble.clock.stamped now).1 }
  | .invalidate place scope =>
      { ensemble with
        publications :=
          ensemble.publications.modify place (·.invalidate scope) }
  | .beginFetch place =>
      { ensemble with
        publications :=
          ensemble.publications.modify place (·.beginFetch.1) }
  | .succeed place token now inventory =>
      match ensemble.publications[place]? with
      | some publication =>
          let (after, clock, _) :=
            publication.apply (some ensemble.clock) now token inventory
          { ensemble with
            clock := clock.getD ensemble.clock
            publications := ensemble.publications.set place after }
      | none =>
          ensemble
  | .fail place token failure =>
      { ensemble with
        publications :=
          ensemble.publications.modify place
            (·.recordFailure token failure |>.1) }

/-- Take calls in turn. -/
def run
    (ensemble : Ensemble σ ε)
    (calls : List (Call σ ε)) :
    Ensemble σ ε :=
  calls.foldl step ensemble

/-- The first call of a run is taken before the others. -/
@[simp] theorem run_cons
    (ensemble : Ensemble σ ε)
    (call : Call σ ε)
    (rest : List (Call σ ε)) :
    ensemble.run (call :: rest) = (ensemble.step call).run rest :=
  rfl

/-- A refresh that was started, with what came of it. -/
structure Attempt
    (ε : Type v) where
  times : Refresh.RefreshTimes
  outcome : Except ε Int

/-- The refresh that a call starts: an asked one, or one for which the timer was due. -/
def attempt?
    (ensemble : Ensemble σ ε) :
    Call σ ε →
    Option (Attempt ε)
  | .trigger scope times =>
      some
        { times := times
          outcome := (ensemble.triggered scope times).2.2 }
  | .tick _ due times =>
      if ensemble.clock.isDue due then
        some
          { times := times
            outcome := (ensemble.triggered .everything times).2.2 }
      else
        none
  | _ =>
      none

/-- What a call publishes, with the place of the publication. -/
def publishes?
    (ensemble : Ensemble σ ε) :
    Call σ ε →
    Option (Nat × Published)
  | .succeed place token now inventory =>
      match ensemble.publications[place]? with
      | some publication =>
          let (_, _, outcome) :=
            publication.apply (some ensemble.clock) now token inventory
          if outcome.status = .ok then
            some (place, outcome.published)
          else
            none
      | none =>
          none
  | _ =>
      none

/-- A tick that was given out, with the time that it was made from. -/
structure Stamp where
  reading : Int
  tick : Int
  deriving Repr, DecidableEq

/-- The tick of a refresh, if no hearer failed. -/
def Attempt.stamp?
    (attempt : Attempt ε) :
    Option Stamp :=
  attempt.outcome.toOption.map fun tick =>
    { reading := attempt.times.told
      tick := tick }

/-- The tick that a call gives out, as it is told to those who asked. -/
def stamp?
    (ensemble : Ensemble σ ε) :
    Call σ ε →
    Option Stamp
  | .markFetched now =>
      some
        { reading := now
          tick := (ensemble.clock.stamped now).2 }
  | .succeed place token now inventory =>
      (ensemble.publishes? (.succeed place token now inventory)).bind
        fun (_, published) =>
          published.refreshedAt.map fun tick =>
            { reading := now
              tick := tick }
  | call =>
      (ensemble.attempt? call).bind Attempt.stamp?

/-- A fetch is published just if its token is current, at the next tick of the clock. -/
theorem publishes?_succeed
    (ensemble : Ensemble σ ε)
    (place : Nat)
    (token now : Int)
    (inventory : Inventory) :
    ensemble.publishes? (.succeed place token now inventory) =
      (ensemble.publications[place]?.filter (·.accepts token)).map
        fun _ =>
          (place,
            { snapshot := .ofInventory inventory
              refreshedAt := some (ensemble.clock.nextTick now) }) := by
  simp only [publishes?]
  cases ensemble.publications[place]? with
  | none =>
      rfl
  | some publication =>
      cases current : publication.accepts token with
      | false =>
          simp [Publication.apply, Publication.superseded, current,
            Option.filter]
      | true =>
          simp [Publication.apply, publicationTick,
            Refresh.Clock.stamped, current, Option.filter]

/--
What a call does to a clock, with the refresh that it starts, the tick that it gives
out, and the time of its look.
-/
inductive Effect
    (clock : Refresh.Clock) :
    Refresh.Clock →
    Option (Attempt ε) →
    Option Stamp →
    Option Int →
    Prop
  | completed
      (times : Refresh.RefreshTimes)
      (look : Option Int) :
      Effect clock (clock.refreshed times)
        (some
          { times := times
            outcome := .ok (clock.nextTick times.told) })
        (some
          { reading := times.told
            tick := clock.nextTick times.told })
        look
  | failed
      (times : Refresh.RefreshTimes)
      (cause : ε)
      (look : Option Int) :
      Effect clock (clock.opened times.started)
        (some
          { times := times
            outcome := .error cause })
        none
        look
  | stamped (now : Int) :
      Effect clock (clock.stamped now).1 none
        (some
          { reading := now
            tick := clock.nextTick now })
        none
  | looked (now : Int) :
      Effect clock (clock.settled now) none none (some now)
  | chosen (interval now : Int) :
      Effect clock (clock.withInterval interval now) none none none
  | untouched :
      Effect clock clock none none none

/-- A refresh that is started is completed, or it fails. -/
theorem effect_triggered
    (ensemble : Ensemble σ ε)
    (scope : Refresh.Scope)
    (times : Refresh.RefreshTimes)
    (look : Option Int) :
    let attempt : Attempt ε :=
      { times := times
        outcome := (ensemble.triggered scope times).2.2 }
    Effect ensemble.clock (ensemble.triggered scope times).1
      (some attempt) attempt.stamp? look := by
  rcases ensemble.clock.trigger_cases times scope
      ensemble.announcements ensemble.told with
    ⟨told, completed⟩ | ⟨told, cause, failed⟩
  · simp only [triggered, completed]
    exact .completed times look
  · simp only [triggered, failed]
    exact .failed times cause look

/-- Every call has one of these effects on the clock. -/
theorem effect_step
    (ensemble : Ensemble σ ε)
    (call : Call σ ε) :
    Effect ensemble.clock (ensemble.step call).clock
      (ensemble.attempt? call) (ensemble.stamp? call) call.look? := by
  cases call with
  | look now =>
      exact .looked now
  | setInterval value now =>
      simp only [step]
      split
      · exact .chosen _ now
      · exact .untouched
  | trigger scope times =>
      exact ensemble.effect_triggered scope times none
  | tick looked due times =>
      simp only [step, stamp?, attempt?, ticked, Refresh.Clock.tick_eq]
      by_cases isDue : ensemble.clock.isDue due = true
      · simp only [isDue, if_true, Option.bind_some]
        exact ensemble.effect_triggered .everything times (some looked)
      · simp only [isDue, Bool.false_eq_true, if_false]
        exact .looked looked
  | markFetched now =>
      exact .stamped now
  | succeed place token now inventory =>
      simp only [step, stamp?, publishes?_succeed]
      cases ensemble.publications[place]? with
      | none =>
          exact .untouched
      | some publication =>
          cases current : publication.accepts token with
          | false =>
              simp only [Publication.apply, current, Option.filter,
                Bool.false_eq_true, if_false]
              exact .untouched
          | true =>
              simp only [Publication.apply, publicationTick, current,
                Option.filter, if_true]
              exact .stamped now
  | join hearer =>
      exact .untouched
  | invalidate place scope =>
      exact .untouched
  | beginFetch place =>
      exact .untouched
  | fail place token failure =>
      exact .untouched

/-- What is given by the calls of a run, each asked of the ensemble that it finds. -/
def gathered
    (given? : Ensemble σ ε → Call σ ε → Option α) :
    Ensemble σ ε →
    List (Call σ ε) →
    List α
  | _, [] =>
      []
  | ensemble, call :: rest =>
      (given? ensemble call).toList ++
        gathered given? (ensemble.step call) rest

/-- The refreshes that are started in a run. -/
def attempts
    (ensemble : Ensemble σ ε) :
    List (Call σ ε) →
    List (Attempt ε) :=
  gathered attempt? ensemble

/-- The ticks that are given out in a run. -/
def stamps
    (ensemble : Ensemble σ ε) :
    List (Call σ ε) →
    List Stamp :=
  gathered stamp? ensemble

/-- What is published in a run, with the places of the publications. -/
def publishes
    (ensemble : Ensemble σ ε) :
    List (Call σ ε) →
    List (Nat × Published) :=
  gathered publishes? ensemble

/-- What the calls of two runs give, one after the other. -/
theorem gathered_append
    (given? : Ensemble σ ε → Call σ ε → Option α)
    (ensemble : Ensemble σ ε)
    (before later : List (Call σ ε)) :
    gathered given? ensemble (before ++ later) =
      gathered given? ensemble before ++
        gathered given? (ensemble.run before) later := by
  induction before generalizing ensemble with
  | nil =>
      rfl
  | cons call rest inductionHypothesis =>
      simp [gathered, inductionHypothesis]

/-- A look at the timer fires just if it completes a refresh. -/
theorem ticked_eq_ok_true_iff
    (ensemble : Ensemble σ ε)
    (looked due : Int)
    (times : Refresh.RefreshTimes) :
    (ensemble.ticked looked due times).2.2 = .ok true ↔
      (ensemble.stamp? (.tick looked due times)).isSome = true := by
  simp only [ticked, Refresh.Clock.tick_eq, stamp?, attempt?, triggered]
  by_cases isDue : ensemble.clock.isDue due = true
  · rcases ensemble.clock.trigger_cases times .everything
        ensemble.announcements ensemble.told with
      ⟨told, completed⟩ | ⟨told, cause, failed⟩
    · simp [isDue, completed, Attempt.stamp?, Except.map, Except.toOption]
    · simp [isDue, failed, Attempt.stamp?, Except.map, Except.toOption]
  · simp [isDue]

end Ensemble

end ShardAtlas
