import ShardAtlas.Preferences
import ShardAtlas.Refresh.Clock
import ShardAtlas.Refresh.Interval

namespace ShardAtlas.Refresh

/-!
# Remembered intervals

An interval on offer that is chosen is put among the preferences and taken up
again when a clock starts. Where preferences cannot be used there is a warning,
and the clock goes on without them.

What a call gives comes with its messages. It is handed over when they can be
written: a warning that names a default interval with too many digits ends the
start of a clock, and the note about such an interval ends the call that sets it,
although the clock has it then.

A clock knows its preferences only by two uses, getting and setting a text. So
whatever has these uses can take their place, and may answer them as it likes.
-/

/--
What a clock keeps its interval with: how a text under a key is got and set.

A use may change what the texts are kept in, and may fail with a message.
-/
structure Keeper
    (κ : Type u) where
  get :
    String →
    κ →
    κ × Except String (Option String)
  set :
    String →
    String →
    κ →
    κ × Except String Unit

/-- Preferences keep texts, and stay as they are where they fail. -/
def Keeper.ofPreferences : Keeper Preferences where
  get key preferences :=
    (preferences,
      (preferences.get key).mapError PreferenceFault.message)
  set key text preferences :=
    match preferences.set key (some text) with
    | .ok changed => (changed, .ok ())
    | .error fault => (preferences, .error fault.message)

/-- The warning about an interval that cannot be read. -/
def unreadWarning
    (cause : String) :
    String :=
  "Could not read refresh interval, using default: " ++ cause

/-- The warning about a remembered text that is no interval on offer. -/
def ignoredWarning
    (text : String)
    (interval : Int) :
    Message :=
  Message.naming interval fun number =>
    "Ignoring invalid stored refresh interval " ++ Text.quoted text ++
      ", using " ++ number ++ "ms"

/-- The warning about an interval that cannot be remembered. -/
def unwrittenWarning
    (interval : Int)
    (cause : String) :
    Message :=
  Message.naming interval fun number =>
    "Could not persist refresh interval " ++ number ++ "ms: " ++ cause

/-- The interval that the answer of a keeper gives. -/
def chosen
    (settings : ClockSettings) :
    Except String (Option String) →
    Int × List Message
  | .error cause =>
      (settings.defaultInterval, [.ok (unreadWarning cause)])
  | .ok none =>
      (settings.defaultInterval, [])
  | .ok (some text) =>
      match (readRemembered? text).filter isOffered with
      | some interval =>
          (interval, [])
      | none =>
          (settings.defaultInterval,
            [ignoredWarning text settings.defaultInterval])

/-- The interval that is chosen is the remembered one, if it is on offer, or the default one. -/
theorem fst_chosen
    (settings : ClockSettings)
    (answer : Except String (Option String)) :
    (chosen settings answer).1 =
      ((answer.toOption.join.bind readRemembered?).filter isOffered).getD
        settings.defaultInterval := by
  rcases answer with cause | text?
  · rfl
  · cases text? with
    | none =>
        rfl
    | some text =>
        simp only [chosen, Except.toOption, Option.join_some,
          Option.bind_some]
        cases (readRemembered? text).filter isOffered <;> rfl

section

variable (keeper : Keeper κ)

/-- The remembered interval, if there is a keeper and it is on offer, or else the default one. -/
def remembered
    (settings : ClockSettings)
    (place : Option κ) :
    Option κ × Int × List Message :=
  match place with
  | none =>
      (none, settings.defaultInterval, [])
  | some kept =>
      let (after, answer) := keeper.get settings.preferenceKey kept
      (some after, chosen settings answer)

/-- Remember an interval, if there is a keeper and it is on offer. -/
def remember
    (settings : ClockSettings)
    (place : Option κ)
    (interval : Int) :
    Option κ × List Message :=
  match place with
  | none =>
      (none, [])
  | some kept =>
      if isOffered interval then
        match
          keeper.set settings.preferenceKey (Text.integer interval) kept
        with
        | (after, .ok ()) => (some after, [])
        | (after, .error cause) =>
            (some after, [unwrittenWarning interval cause])
      else
        (some kept, [])

/-- A clock that starts with the remembered interval. -/
def Clock.startedFrom
    (settings : ClockSettings)
    (place : Option κ)
    (now : Int) :
    Option κ × Clock × List Message :=
  let (after, interval, warnings) := remembered keeper settings place
  (after, .started settings interval now, warnings)

/-- Choose the interval of a clock and remember it; what is no interval changes nothing. -/
def Clock.choose
    (clock : Clock)
    (place : Option κ)
    (value : Json)
    (now : Int) :
    Except IntervalFault (Clock × Option κ × List Message) :=
  (checkInterval value).map fun interval =>
    let (after, warnings) := remember keeper clock.settings place interval
    (clock.withInterval interval now, after, warnings)

/-- What a call that chooses an interval ends with; the note comes behind the warnings. -/
def Clock.settingOutcome
    (clock : Clock)
    (place : Option κ)
    (value : Json)
    (now : Int) :
    Except SettingFault Unit := do
  let (_, _, warnings) ←
    (clock.choose keeper place value now).mapError IntervalFault.raised
  (Message.given warnings ()).mapError .longInteger
  Refresh.settingOutcome value

end

/-- The interval among preferences, if it is on offer, or else the default one. -/
def rememberedInterval
    (settings : ClockSettings)
    (preferences : Option Preferences) :
    Int × List Message :=
  (remembered .ofPreferences settings preferences).2

/-- A clock that starts with the interval among preferences. -/
def Clock.recalled
    (settings : ClockSettings)
    (preferences : Option Preferences)
    (now : Int) :
    Clock × List Message :=
  (Clock.startedFrom .ofPreferences settings preferences now).2

end ShardAtlas.Refresh
