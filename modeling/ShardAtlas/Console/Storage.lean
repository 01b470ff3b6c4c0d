import ShardAtlas.Files
import ShardAtlas.Json.Reader
import ShardAtlas.Json.Writer

namespace ShardAtlas.Console

/-!
# Stored databases

A database is stored as a file with a line that tells it from other files and a
JSON object on the next line.
-/

/-- The first line of a stored database. -/
def storageMark : String :=
  "shard atlas preferences"

/-- The text that a database is stored as. -/
def storedText
    (values : OrderedMap String String) :
    String :=
  storageMark ++ "\n" ++
    (Json.object
      (values.entries.map fun (key, value) => (key, .text value))).write ++
    "\n"

/-- The entry of a database that a member stands for. -/
def storedEntry? :
    String × Json →
    Option (String × String)
  | (key, .text value) => value.whole?.map (key, ·)
  | _ => none

/-- The values of a stored database. -/
def storedValues?
    (content : String) :
    Option (OrderedMap String String) :=
  match content.splitOn "\n" with
  | mark :: rest =>
      if mark = storageMark then
        match Json.read ("\n".intercalate rest) with
        | .ok (.object members) =>
            (members.mapM storedEntry?).map OrderedMap.ofList
        | _ => none
      else
        none
  | [] =>
      none

/-- What a file with some text holds. -/
def contentOf
    (content : String) :
    FileContent :=
  match storedValues? content with
  | some values => .database values
  | none => .text content

end ShardAtlas.Console
