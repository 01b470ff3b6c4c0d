namespace ShardAtlas.Console

/-!
# Markup

Printed lines hold tags in square brackets, which set a style up to the closing
tag. A text that looks like a tag is escaped by a backslash, and backslashes in
front of it are doubled.
-/

/-- A text in a style. -/
def styled
    (style text : String) :
    String :=
  "[" ++ style ++ "]" ++ text ++ "[/" ++ style ++ "]"

/-- Whether a character can stand at the start of a tag. -/
def startsTag
    (char : Char) :
    Bool :=
  ('a' ≤ char && char ≤ 'z') || char == '#' || char == '/' || char == '@'

/-- Whether the characters behind an opening bracket make it a tag. -/
def isTag :
    List Char →
    Bool
  | [] =>
      false
  | char :: rest =>
      startsTag char &&
        (rest.dropWhile fun inner => inner != '[' && inner != ']').head? ==
          some ']'

/-- Escape tags, given the number of backslashes that stand in front. -/
def escapeTags :
    Nat →
    List Char →
    List Char
  | backslashes, [] =>
      List.replicate backslashes '\\'
  | backslashes, '\\' :: rest =>
      escapeTags (backslashes + 1) rest
  | backslashes, '[' :: rest =>
      List.replicate
          (if isTag rest then 2 * backslashes + 1 else backslashes) '\\' ++
        '[' :: escapeTags 0 rest
  | backslashes, char :: rest =>
      List.replicate backslashes '\\' ++ char :: escapeTags 0 rest

/-- Whether characters end in exactly one backslash. -/
def endsInBackslash
    (chars : List Char) :
    Bool :=
  match chars.reverse with
  | '\\' :: '\\' :: _ => false
  | '\\' :: _ => true
  | _ => false

/-- A text whose tags are escaped; a single backslash at its end is doubled. -/
def escaped
    (text : String) :
    String :=
  let chars := escapeTags 0 text.toList
  String.ofList
    (if endsInBackslash chars then
      chars ++ ['\\']
    else
      chars)

end ShardAtlas.Console
