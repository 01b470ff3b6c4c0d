import ShardAtlas.Binary64.Decimal
import ShardAtlas.Json
import ShardAtlas.Text.Numeral
import ShardAtlas.Text.Quoted

namespace ShardAtlas.Json

/-!
# Values in messages

Messages show a value as a literal: texts between quotes, words with a capital,
and doubles by their shortest digits. A value with an integer that is too long to
be printed has no literal.
-/

/-- Doubles have an exponent below `1e-4` and from `1e16` on. -/
def literalLayout : Binary64.DecimalLayout :=
  { leastPositional := -4
    greatestPositional := 15
    infinity := "inf"
    notANumber := "nan" }

mutual

/-- A value as a literal. -/
def literal :
    Json →
    Except Text.LongInteger String
  | .null => pure "None"
  | .boolean true => pure "True"
  | .boolean false => pure "False"
  | .integer value => Text.printed value
  | .float value => pure (value.shortest literalLayout)
  | .text value => pure value.quoted
  | .array items => do
      let shown ← literalItems items
      pure ("[" ++ ", ".intercalate shown ++ "]")
  | .object members => do
      let shown ← literalMembers members
      pure ("\x7b" ++ ", ".intercalate shown ++ "\x7d")

/-- The literals of some values. -/
def literalItems :
    List Json →
    Except Text.LongInteger (List String)
  | [] => pure []
  | item :: rest => do
      let first ← item.literal
      let others ← literalItems rest
      pure (first :: others)

/-- The literals of some members. -/
def literalMembers :
    List (String × Json) →
    Except Text.LongInteger (List String)
  | [] => pure []
  | (name, value) :: rest => do
      let first ← value.literal
      let others ← literalMembers rest
      pure ((Text.quoted name ++ ": " ++ first) :: others)

end

end ShardAtlas.Json
