import ShardAtlas.Json
import ShardAtlas.Payload.Checked
import ShardAtlas.Text.StrictNumeral
import ShardAtlas.Text.UpperCase

namespace ShardAtlas.Payload

/-!
# Checking single values

Texts are taken as they are. Integers and booleans are taken in several
spellings: as numbers of either kind, as booleans, and as texts.
-/

/-- A check of a JSON value. -/
abbrev Check
    (α : Type u) :=
  Json →
  Checked α

/-- A text. -/
def text :
    Check Text
  | .text content => .passed content
  | _ => .fault .notText

/-- The string that a text is. -/
def whole
    (content : Text) :
    Checked String :=
  match content.whole? with
  | some found => .passed found
  | none => .fault .unpairedText

/-- A text without unpaired halves of surrogate pairs. -/
def wholeText
    (value : Json) :
    Checked String :=
  (text value).andThen whole

/-- A text without unpaired halves and with at least one character. -/
def filledText
    (value : Json) :
    Checked String :=
  (wholeText value).andThen fun content =>
    if content = "" then
      .fault .emptyText
    else
      .passed content

/-- A value that may be null. -/
def nullable
    (check : Check α) :
    Check (Option α)
  | .null => .passed none
  | value => (check value).map some

/-- The first integer that a double is not turned into. -/
def doubleIntegerLimit : Int :=
  9223372036854775808

/-- The integer a double is equal to. -/
def integerOfDouble
    (value : Binary64) :
    Checked Int :=
  match value with
  | .finite .. =>
      match value.toInt? with
      | some whole =>
          if -doubleIntegerLimit < whole ∧ whole < doubleIntegerLimit then
            .passed whole
          else
            .fault .oversizedInteger
      | none =>
          .fault .fractionalInteger
  | _ =>
      .fault .notFinite

/-- The integer written by a text. -/
def integerOfText
    (content : String) :
    Checked Int :=
  match Text.readStrictInteger content with
  | .ok value => .passed value
  | .error (.tooLong _) => .fault .oversizedInteger
  | .error .unreadable => .fault .unreadableInteger

/-- An integer, in any of its spellings. -/
def integer :
    Check Int
  | .integer value => .passed value
  | .boolean value => .passed value.toInt
  | .float value => integerOfDouble value
  | .text content => (whole content).andThen integerOfText
  | _ => .fault .notInteger

/-- An integer that is not below a minimum. -/
def integerFrom
    (minimum : Int)
    (value : Json) :
    Checked Int :=
  (integer value).andThen fun whole =>
    if minimum ≤ whole then
      .passed whole
    else
      .fault (.belowMinimum minimum)

/-- A number of things: an integer from zero on. -/
def count :
    Check Int :=
  integerFrom 0

/-- The texts that stand for false. -/
def falseTexts : List String :=
  ["0", "off", "f", "false", "n", "no"]

/-- The texts that stand for true. -/
def trueTexts : List String :=
  ["1", "on", "t", "true", "y", "yes"]

/-- The boolean that a text stands for, in any ASCII case. -/
def booleanOfText
    (content : String) :
    Checked Bool :=
  let lowered := String.ofList (content.toList.map Char.toLower)
  if lowered ∈ falseTexts then
    .passed false
  else if lowered ∈ trueTexts then
    .passed true
  else
    .fault .unreadableBoolean

/-- The boolean that a whole number of ordinary size stands for. -/
def booleanOfInteger
    (value : Int) :
    Checked Bool :=
  if value = 0 then
    .passed false
  else if value = 1 then
    .passed true
  else if -doubleIntegerLimit ≤ value ∧ value < doubleIntegerLimit then
    .fault .unreadableBoolean
  else
    .fault .notBoolean

/--
The boolean that a double stands for.

A double that is turned into no integer is no boolean of any spelling.
-/
def booleanOfDouble
    (value : Binary64) :
    Checked Bool :=
  match integerOfDouble value with
  | .passed whole => booleanOfInteger whole
  | .failed .. => .fault .notBoolean

/-- A boolean, in any of its spellings. -/
def boolean :
    Check Bool
  | .boolean value => .passed value
  | .integer value => booleanOfInteger value
  | .float value => booleanOfDouble value
  | .text content => (whole content).andThen booleanOfText
  | _ => .fault .notBoolean

/-- One of some choices by its exact name. -/
def choice
    (choices : List String)
    (ofName? : String → Option α) :
    Check α
  | .text content =>
      (whole content).andThen fun name =>
        match ofName? name with
        | some value => .passed value
        | none => .fault (.noChoice choices)
  | _ => .fault (.noChoice choices)

end ShardAtlas.Payload
