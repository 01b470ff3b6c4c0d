import ShardAtlas.Binary64.Decimal
import ShardAtlas.Json
import ShardAtlas.Text.Numeral
import ShardAtlas.Text.Quoted

namespace ShardAtlas.Json

/-!
# Writing JSON

The text of a value on one line. A double is written by its shortest digits, so
reading gives it back.
-/

/-- Written doubles have an exponent below `1e-4` and from `1e16` on. -/
def writtenLayout : Binary64.DecimalLayout :=
  { leastPositional := -4
    greatestPositional := 15
    infinity := "Infinity"
    notANumber := "NaN" }

/-- A character as it stands in a written text. -/
def writtenChar
    (char : Char) :
    List Char :=
  if char = '"' ∨ char = '\\' then
    ['\\', char]
  else if char.toNat < 0x20 then
    '\\' :: 'u' :: Text.hexDigits 4 char.toNat
  else
    [char]

/-- A string as it stands in a written text. -/
def writtenPiece
    (piece : String) :
    List Char :=
  piece.toList.flatMap writtenChar

/-- A half of a surrogate pair as it stands in a written text. -/
def writtenHalf
    (half : Surrogate) :
    List Char :=
  '\\' :: 'u' :: Text.hexDigits 4 half.code

/-- A written text. -/
def writtenText
    (content : Text) :
    String :=
  String.ofList
    ('"' :: writtenPiece content.lead ++
      (content.behind.flatMap fun (half, following) =>
        writtenHalf half ++ writtenPiece following) ++
      ['"'])

mutual

/-- A value as JSON. -/
def write :
    Json →
    String
  | .null => "null"
  | .boolean true => "true"
  | .boolean false => "false"
  | .integer value => Text.integer value
  | .float value => value.shortest writtenLayout
  | .text value => writtenText value
  | .array items =>
      "[" ++ ", ".intercalate (writeItems items) ++ "]"
  | .object members =>
      "\x7b" ++ ", ".intercalate (writeMembers members) ++ "\x7d"

/-- Some values as JSON. -/
def writeItems :
    List Json →
    List String
  | [] => []
  | item :: rest => item.write :: writeItems rest

/-- Some members as JSON. -/
def writeMembers :
    List (String × Json) →
    List String
  | [] => []
  | (name, value) :: rest =>
      (writtenText name ++ ": " ++ value.write) :: writeMembers rest

end

end ShardAtlas.Json
