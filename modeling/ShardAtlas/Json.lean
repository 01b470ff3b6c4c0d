import ShardAtlas.Binary64
import ShardAtlas.OrderedMap
import ShardAtlas.Text

namespace ShardAtlas

/-!
# JSON values

Decoded JSON. Whole numbers and doubles are different values, and the members of
an object keep their order and have different names.

A name of a member is a string of characters. An unpaired surrogate is no character,
and so there are texts that are values here but name no member.
-/

/-- A decoded JSON value. -/
inductive Json
  | null
  | boolean (value : Bool)
  | integer (value : Int)
  | float (value : Binary64)
  | text (value : Text)
  | array (items : List Json)
  | object (members : List (String × Json))
  deriving Repr, Inhabited

namespace Json

/-- The value of a member of an object. -/
def member?
    (name : String) :
    Json →
    Option Json
  | .object members =>
      members.lookup name
  | _ =>
      none

/-- The text that a value is. -/
def text? :
    Json →
    Option Text
  | .text value => some value
  | _ => none

/-- The integer that a value is; a boolean counts as zero or one. -/
def integer? :
    Json →
    Option Int
  | .integer value => some value
  | .boolean value => some value.toInt
  | _ => none

/-- The items of an array; another value has none. -/
def items :
    Json →
    List Json
  | .array values => values
  | _ => []

/-- The members of an object; another value has none. -/
def members :
    Json →
    List (String × Json)
  | .object entries => entries
  | _ => []

end Json

end ShardAtlas
