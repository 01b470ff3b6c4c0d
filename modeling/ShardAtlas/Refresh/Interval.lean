import ShardAtlas.Json.Literal
import ShardAtlas.Message

namespace ShardAtlas.Refresh

/-!
# Refresh intervals

The time between two refreshes in milliseconds, where zero means that nothing is
refreshed by itself. Some intervals are offered under a label, and only those
are remembered.

An interval of any length can be set. But what is said about it has its digits,
and fails where there are too many.
-/

/-- An interval on offer. -/
structure Choice where
  label : String
  interval : Int
  deriving Repr, DecidableEq

/-- The intervals on offer, from none to five minutes. -/
def choices : List Choice :=
  [ ⟨"off", 0⟩, ⟨"5s", 5000⟩, ⟨"10s", 10000⟩, ⟨"15s", 15000⟩,
    ⟨"30s", 30000⟩, ⟨"1m", 60000⟩, ⟨"2m", 120000⟩, ⟨"5m", 300000⟩ ]

/-- Whether an interval is on offer. -/
def isOffered
    (interval : Int) :
    Bool :=
  choices.any fun choice => choice.interval == interval

/-- The label of an interval, or its milliseconds if it is not on offer. -/
def label
    (interval : Int) :
    Except Text.LongInteger String :=
  match choices.find? fun choice => choice.interval == interval with
  | some choice => .ok choice.label
  | none => (Text.printed interval).map fun number => number ++ "ms"

/-- The interval that a remembered text stands for. -/
def readRemembered?
    (text : String) :
    Option Int :=
  match Text.readInteger (Text.withoutBlanks text) with
  | .ok interval =>
      if interval < 0 then
        none
      else
        some interval
  | .error _ =>
      none

/-- A value that is no interval. -/
structure IntervalFault where
  value : Json
  deriving Repr

/-- The text about a value that is no interval. -/
def IntervalFault.message
    (fault : IntervalFault) :
    Message :=
  fault.value.literal.map fun text =>
    "Invalid refresh interval " ++ text ++
      ": expected a non-negative integer (ms)"

/-- The note about an interval that is set. -/
def settingNote
    (interval : Int) :
    Message :=
  Message.naming interval fun number =>
    "Refresh interval set to " ++ number ++ "ms"

/--
Why a call that sets an interval fails.

Either a value is refused, with a text about it, or an integer is too long for
what is said. The second may come after the interval is set.
-/
inductive SettingFault
  | refused (fault : IntervalFault) (text : String)
  | longInteger (cause : Text.LongInteger)
  deriving Repr

/-- The text about a call that failed. -/
def SettingFault.message :
    SettingFault →
    String
  | .refused _ text => text
  | .longInteger cause => cause.message

/-- The failure for a value that is no interval. -/
def IntervalFault.raised
    (fault : IntervalFault) :
    SettingFault :=
  match fault.message with
  | .ok text => .refused fault text
  | .error cause => .longInteger cause

/-- The interval of a value that is one. -/
def checkInterval
    (value : Json) :
    Except IntervalFault Int :=
  match value with
  | .integer interval =>
      if interval < 0 then
        .error { value := value }
      else
        .ok interval
  | _ =>
      .error { value := value }

/-- An interval is taken just if it is a whole number that is not negative. -/
theorem checkInterval_eq_ok_iff
    {value : Json}
    {interval : Int} :
    checkInterval value = .ok interval ↔
      value = .integer interval ∧ 0 ≤ interval := by
  cases value with
  | integer number =>
      by_cases negative : number < 0
      · simp only [checkInterval, negative, if_true]
        constructor
        · rintro ⟨⟩
        · rintro ⟨same, notNegative⟩
          cases same
          omega
      · simp only [checkInterval, negative, if_false]
        constructor
        · rintro ⟨⟩
          exact ⟨rfl, Int.not_lt.mp negative⟩
        · rintro ⟨⟨⟩, _⟩
          rfl
  | _ =>
      simp [checkInterval]

/-- What a call that sets an interval ends with, where there is nothing to remember it. -/
def settingOutcome
    (value : Json) :
    Except SettingFault Unit := do
  let interval ← (checkInterval value).mapError IntervalFault.raised
  (Message.given [settingNote interval] ()).mapError .longInteger

/-- The number that an operator names by a label or by its milliseconds. -/
def readChoice
    (text : String) :
    Except IntervalFault Int :=
  match choices.find? fun choice => choice.label == text with
  | some choice =>
      .ok choice.interval
  | none =>
      match Text.readInteger text with
      | .ok interval => .ok interval
      | .error _ => .error { value := .text text }

end ShardAtlas.Refresh
