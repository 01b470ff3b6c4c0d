import ShardAtlas.Json.Literal
import ShardAtlas.Payload.Issue

namespace ShardAtlas.Payload

/-!
# Details given as JSON

The report on a malformed document can be written for faults that were found
elsewhere. Each is given by an object with a place and a message, either of which
may be left out.
-/

/--
Why a report cannot be written: a fault or a place has the wrong form, or a number
in it has too many digits.
-/
inductive DetailFault
  | noObject (value : Json)
  | noPlace (value : Json)
  | longInteger (cause : Text.LongInteger)
  deriving Repr

/-- A value as it stands in a report: a text as it is, another one as a literal. -/
def shownValue :
    Json →
    Except DetailFault String
  | .text content => .ok content.shown
  | value => value.literal.mapError .longInteger

/-- The steps of a place; those of a text are its characters. -/
def placeSteps :
    Json →
    Except DetailFault (List String)
  | .text content => .ok (content.shown.toList.map Char.toString)
  | .array items => items.mapM shownValue
  | .object members => .ok (members.map Prod.fst)
  | value => .error (.noPlace value)

/-- The line about one fault. -/
def detailOf :
    Json →
    Except DetailFault String
  | .object members => do
      let place ← placeSteps ((members.lookup "loc").getD (.array []))
      let text ← shownValue ((members.lookup "msg").getD (.text ""))
      pure (detailLine place text)
  | value =>
      .error (.noObject value)

/-- The report on a document with some faults. -/
def reportOf
    (source : String)
    (details : List Json) :
    Except DetailFault String := do
  let lines ← details.mapM detailOf
  pure (malformedReport source lines)

end ShardAtlas.Payload
