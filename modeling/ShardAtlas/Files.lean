import ShardAtlas.OrderedMap
import ShardAtlas.Path
import ShardAtlas.Text.Quoted

namespace ShardAtlas

/-!
# Files

A tree of directories and files with a working directory in it, from which
relative paths start. The working directory and those above it are always there.

Names are taken in turn: a name is looked up in the directory that was reached,
so a path through a name for the parent directory needs what stands before it.
-/

/-- Why a file cannot be used. -/
inductive FileCause
  | missing
  | taken
  | notDirectory
  | isDirectory
  | nameTooLong
  deriving Repr, DecidableEq

namespace FileCause

/-- The number of a cause. -/
def number :
    FileCause →
    Nat
  | .missing => 2
  | .taken => 17
  | .notDirectory => 20
  | .isDirectory => 21
  | .nameTooLong => 36

/-- What is said about a cause. -/
def description :
    FileCause →
    String
  | .missing => "No such file or directory"
  | .taken => "File exists"
  | .notDirectory => "Not a directory"
  | .isDirectory => "Is a directory"
  | .nameTooLong => "File name too long"

end FileCause

/-- A file that cannot be used. -/
structure FileFault where
  cause : FileCause
  path : Path
  deriving Repr, DecidableEq

/-- The text about a file that cannot be used. -/
def FileFault.message
    (fault : FileFault) :
    String :=
  "[Errno " ++ Nat.repr fault.cause.number ++ "] " ++
    fault.cause.description ++ ": " ++ Text.quoted fault.path.text

/--
What a file holds.

A sink keeps nothing that is written to it and reads as the empty text.
-/
inductive FileContent
  | text (content : String)
  | database (values : OrderedMap String String)
  | sink
  deriving Repr, DecidableEq

/-- What a name in a directory stands for. -/
inductive FileEntry
  | directory
  | file (content : FileContent)
  deriving Repr, DecidableEq

/-- Where something is: the names on the way to it from the top. -/
abbrev Place :=
  List String

/-- The path from the top to a place. -/
def Path.ofPlace
    (place : Place) :
    Path :=
  { root := .top
    names := place }

/-- The directories and files that are known, and the working directory. -/
structure FileTree where
  working : Place := []
  entries : OrderedMap Place FileEntry := .empty
  deriving Repr, DecidableEq

namespace FileTree

/-- The name for the parent directory. -/
def parentName : String :=
  ".."

/-- The greatest number of bytes of a name. -/
def nameLimit : Nat :=
  255

/-- The greatest number of bytes of the text of a path. -/
def pathLimit : Nat :=
  4095

/-- What is at a place. -/
def entry?
    (tree : FileTree)
    (place : Place) :
    Option FileEntry :=
  if place.isPrefixOf tree.working then
    some .directory
  else
    tree.entries.get? place

/-- Put something at a place. -/
def put
    (tree : FileTree)
    (place : Place)
    (entry : FileEntry) :
    FileTree :=
  { tree with entries := tree.entries.insert place entry }

/-- The place that the names of a path start from. -/
def start
    (tree : FileTree)
    (path : Path) :
    Place :=
  match path.root with
  | .working => tree.working
  | .top | .alternateTop => []

/-- Go on by one name; the top is its own parent. -/
def enter
    (tree : FileTree)
    (place : Place)
    (name : String) :
    Except FileCause Place :=
  match tree.entry? place with
  | none =>
      .error .missing
  | some (.file _) =>
      .error .notDirectory
  | some .directory =>
      if name = parentName then
        .ok place.dropLast
      else if nameLimit < name.utf8ByteSize then
        .error .nameTooLong
      else
        .ok (place ++ [name])

/-- The place that a path leads to; there need not be anything at it. -/
def locate
    (tree : FileTree)
    (path : Path) :
    Except FileCause Place :=
  if pathLimit < path.text.utf8ByteSize then
    .error .nameTooLong
  else
    path.names.foldlM tree.enter (tree.start path)

/-- Whether a path leads to a directory. -/
def isDirectory
    (tree : FileTree)
    (path : Path) :
    Bool :=
  match tree.locate path with
  | .ok place => tree.entry? place == some .directory
  | .error _ => false

/-- What a file holds. -/
def read
    (tree : FileTree)
    (path : Path) :
    Except FileFault FileContent := do
  let place ←
    (tree.locate path).mapError fun cause =>
      { cause := cause, path := path }
  match tree.entry? place with
  | none =>
      .error { cause := .missing, path := path }
  | some .directory =>
      .error { cause := .isDirectory, path := path }
  | some (.file content) =>
      .ok content

/-- Make one directory, in one that is there. -/
def makeNew
    (tree : FileTree)
    (path : Path) :
    Except FileCause FileTree := do
  let place ← tree.locate path
  match tree.entry? place with
  | some _ => .error .taken
  | none => .ok (tree.put place .directory)

/-- Make one directory unless it is there. -/
def makeOne
    (tree : FileTree)
    (path : Path) :
    FileTree × Except FileFault Unit :=
  match tree.makeNew path with
  | .ok changed =>
      (changed, .ok ())
  | .error cause =>
      if tree.isDirectory path then
        (tree, .ok ())
      else
        (tree, .error { cause := cause, path := path })

/--
Make a directory, given its names from the last to the first.

The directory above it is made first if something on the way is missing.
-/
def makeFrom
    (root : PathRoot) :
    List String →
    FileTree →
    FileTree × Except FileFault Unit
  | [], tree =>
      tree.makeOne { root := root, names := [] }
  | last :: above, tree =>
      let path : Path :=
        { root := root, names := (last :: above).reverse }
      match tree.makeNew path with
      | .error .missing =>
          match makeFrom root above tree with
          | (changed, .ok ()) => changed.makeOne path
          | (changed, .error fault) => (changed, .error fault)
      | _ =>
          tree.makeOne path

/--
Make a directory and those above it, unless they are there.

Directories that were made before a failure stay.
-/
def makeDirectory
    (tree : FileTree)
    (path : Path) :
    FileTree × Except FileFault Unit :=
  makeFrom path.root path.names.reverse tree

/-- Write a file in a directory that is there. -/
def write
    (tree : FileTree)
    (path : Path)
    (content : FileContent) :
    Except FileFault FileTree := do
  let place ←
    (tree.locate path).mapError fun cause =>
      { cause := cause, path := path }
  match tree.entry? place with
  | some .directory =>
      .error { cause := .isDirectory, path := path }
  | _ =>
      .ok (tree.put place (.file content))

/-- Put a file at a path, and the directories above it. -/
def addFile
    (tree : FileTree)
    (path : Path)
    (content : FileContent) :
    FileTree :=
  let (made, _) := tree.makeDirectory path.parent
  match made.write path content with
  | .ok changed => changed
  | .error _ => made

/-- The directories near the top of an ordinary system. -/
def ordinaryDirectories : List Place :=
  [ ["bin"], ["dev"], ["etc"], ["home"], ["lib"], ["mnt"], ["opt"],
    ["proc"], ["root"], ["run"], ["sbin"], ["srv"], ["sys"], ["tmp"],
    ["usr"], ["usr", "bin"], ["usr", "lib"], ["usr", "local"], ["var"],
    ["var", "lib"], ["var", "log"], ["var", "tmp"] ]

/-- The tree of an ordinary system, with a sink, and without other files. -/
def ordinary
    (working : Place) :
    FileTree :=
  let bare : FileTree := { working := working }
  (ordinaryDirectories.foldl (fun tree place => tree.put place .directory)
      bare).put
    ["dev", "null"] (.file .sink)

end FileTree

end ShardAtlas
