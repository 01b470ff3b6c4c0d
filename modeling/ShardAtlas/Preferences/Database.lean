import ShardAtlas.Preferences

namespace ShardAtlas

/-!
# The file of a database

A database is a file, unless its name is that of a database in memory, which is
empty whenever it is opened. It is made when it is opened first.

Two files beside it are used while it is changed: a journal and a log. They have
its name with an ending of their own. What they hold is no part of it here: one
that is left over is put away when the database is opened, and a directory in its
stead is in the way.
-/

/-- The place beside another one whose name goes on with some text. -/
def Place.beside
    (place : Place)
    (ending : String) :
    Place :=
  place.dropLast ++ [place.getLastD "" ++ ending]

namespace FileTree

/-- Take away what is at a place. -/
def erase
    (tree : FileTree)
    (place : Place) :
    FileTree :=
  { tree with entries := tree.entries.filterKeys (· ≠ place) }

/-- The greatest number of bytes of a file that a new database may take over. -/
def unusedSize : Nat :=
  1

/-- The name of a database that is kept in memory and forgotten. -/
def memoryName : String :=
  ":memory:"

/-- Whether a path is that of a database in memory. -/
def isInMemory
    (path : Path) :
    Bool :=
  path == { root := .working, names := [memoryName] }

/-- The ending of the name of a journal. -/
def journalEnding : String :=
  "-journal"

/-- The ending of the name of a log. -/
def logEnding : String :=
  "-wal"

/-- The number of bytes that there is room for in a place and its end mark. -/
def placeRoom : Nat :=
  512

/-- The number of bytes of that room that are kept for the ending of a name. -/
def endingSize : Nat :=
  8

/-- Number of bytes of a place. -/
def placeSize
    (place : Place) :
    Nat :=
  (Path.ofPlace place).text.utf8ByteSize

/--
The place of a database.

No place on the way may be too long, and that of the database must leave room for
the names of the files beside it.
-/
def databasePlace?
    (tree : FileTree)
    (path : Path) :
    Option Place := do
  let place ←
    path.names.foldlM
      (fun place name => do
        let next ← (tree.enter place name).toOption
        if placeSize next < placeRoom then
          some next
        else
          none)
      (tree.start path)
  if placeSize place + endingSize ≤ placeRoom then
    some place
  else
    none

/-- Whether a place can have a journal beside it: it must be free and not too long. -/
def hasJournalRoom
    (tree : FileTree)
    (place : Place) :
    Bool :=
  let journal := place.beside journalEnding
  tree.entry? journal != some .directory &&
    (journal.getLastD "").utf8ByteSize ≤ nameLimit

/-- Take away a file that is left over at a place; an empty one may stay. -/
def putAway
    (tree : FileTree)
    (place : Place) :
    FileTree :=
  match tree.entry? place with
  | none | some .directory | some (.file (.text "")) => tree
  | some (.file _) => tree.erase place

/-- Write a database; its journal goes away with that. -/
def writeDatabase
    (tree : FileTree)
    (place : Place)
    (values : OrderedMap String String) :
    FileTree :=
  (tree.put place (.file (.database values))).erase
    (place.beside journalEnding)

/--
Make a database at a place.

Files that are left over beside it are put away first. The journal is needed after
the file is there, so the file stays empty where it cannot be had.
-/
def makeDatabase
    (tree : FileTree)
    (place : Place) :
    FileTree × Except PreferenceDefect (OrderedMap String String) :=
  let log := place.beside logEnding
  let touched :=
    if (tree.entry? place).isNone then
      tree.put place (.file (.text ""))
    else
      tree
  let restored := touched.putAway (place.beside journalEnding)
  if tree.entry? log = some .directory then
    (restored, .error .disk)
  else
    let cleared := restored.putAway log
    if hasJournalRoom tree place then
      (cleared.writeDatabase place .empty, .ok .empty)
    else
      (cleared, .error .unopenable)

/--
Look into a file that is there.

The journal is put away before the log is looked at. A log stays beside a file that
is no database.
-/
def enterDatabase
    (tree : FileTree)
    (place : Place)
    (values? : Option (OrderedMap String String)) :
    FileTree × Except PreferenceDefect (OrderedMap String String) :=
  let journal := place.beside journalEnding
  let log := place.beside logEnding
  if tree.entry? journal = some .directory then
    (tree, .error .disk)
  else
    let restored := tree.putAway journal
    if tree.entry? log = some .directory then
      (restored, .error .unopenable)
    else
      match values? with
      | some values => (restored.putAway log, .ok values)
      | none => (restored, .error .notDatabase)

/-- Open the database at a place. -/
def openPlace
    (tree : FileTree)
    (place : Place) :
    FileTree × Except PreferenceDefect (OrderedMap String String) :=
  match tree.entry? place with
  | none =>
      tree.makeDatabase place
  | some .directory =>
      (tree, .error .unopenable)
  | some (.file .sink) =>
      (tree, .error .disk)
  | some (.file (.database values)) =>
      tree.enterDatabase place (some values)
  | some (.file (.text content)) =>
      if content.utf8ByteSize ≤ unusedSize then
        tree.makeDatabase place
      else
        tree.enterDatabase place none

/--
Open the database at a path and give its values.

The directories above it are made, and stay if it cannot be opened.
-/
def openDatabase
    (tree : FileTree)
    (path : Path) :
    FileTree × Except PreferenceDefect (OrderedMap String String) :=
  match tree.makeDirectory path.parent with
  | (made, .error fault) =>
      (made, .error (.file fault))
  | (made, .ok ()) =>
      if isInMemory path then
        (made, .ok .empty)
      else
        match made.databasePlace? path with
        | some place => made.openPlace place
        | none => (made, .error .unopenable)

/-- Put the values of a database into its file; one in memory has none. -/
def storeDatabase
    (tree : FileTree)
    (path : Path)
    (values : OrderedMap String String) :
    FileTree :=
  if isInMemory path then
    tree
  else
    match tree.databasePlace? path with
    | some place => tree.writeDatabase place values
    | none => tree

end FileTree

end ShardAtlas
