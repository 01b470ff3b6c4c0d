import ShardAtlas.Console.Screen
import ShardAtlas.Payload.Flat
import ShardAtlas.Snapshot.Placement

namespace ShardAtlas.Console

/-!
# Reading a dump

A dump is a file with the flat document of a cluster. A file that cannot be read,
or is no such document, is reported on one line. A database is read like any other
file, and is no text.
-/

/-- Characters with every line ending in a single newline. -/
def plainLineEnds :
    List Char →
    List Char
  | [] =>
      []
  | '\r' :: '\n' :: rest =>
      '\n' :: plainLineEnds rest
  | '\r' :: rest =>
      '\n' :: plainLineEnds rest
  | char :: rest =>
      char :: plainLineEnds rest

/-- Report a dump that cannot be read. -/
def refuseDump
    (path : Path)
    (reason : String) :
    Deed α :=
  refuse
    (styled "red" ("Cannot read " ++ path.text ++ ": " ++ escaped reason))

/-- The JSON value that a dump holds as text. -/
def readContent
    (path : Path)
    (content : String) :
    Deed Json :=
  match
    Json.readLimited (String.ofList (plainLineEnds content.toList))
  with
  | .ok value =>
      pure value
  | .error fault =>
      if fault.isMalformed then
        refuseDump path fault.message
      else
        throw (.byCrash (.unreadableDocument fault))

/--
What is wrong with a database that is read as a text.

Behind its head of 100 bytes stands the type of its first page and then, in two
bytes, where the first unused piece of that page begins. Under the one table of
preferences that is 0x0ff8, and no character begins with the second byte.
-/
def databaseCrash : Crash :=
  .unreadableByte 0xf8 102

/-- The JSON value in a file. -/
def readJson
    (path : Path) :
    Deed Json := do
  match (← get).files.read path with
  | .error fault =>
      refuseDump path fault.message
  | .ok (.database _) =>
      throw (.byCrash databaseCrash)
  | .ok .sink =>
      readContent path ""
  | .ok (.text content) =>
      readContent path content

/-- The snapshot of a dump. -/
def loadSnapshot
    (path : Path) :
    Deed Snapshot := do
  match Payload.readFlat (← readJson path) with
  | .error fault =>
      refuse (styled "red" (escaped fault.message))
  | .ok inventory =>
      warn (Snapshot.warnings inventory)
      pure (.ofInventory inventory)

end ShardAtlas.Console
