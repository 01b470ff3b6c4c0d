namespace ShardAtlas

/-!
# Paths

A path is a root and the names behind it. Repeated separators and names for the
same directory are left out, and a name for the parent directory is kept, since
what it stands for depends on links. A relative path whose first name begins with
a tilde starts in a home directory.
-/

/-- What a path is relative to. -/
inductive PathRoot
  | working
  | top
  | alternateTop
  deriving Repr, DecidableEq

/-- The text of a root. -/
def PathRoot.text :
    PathRoot →
    String
  | .working => ""
  | .top => "/"
  | .alternateTop => "//"

/-- The names on the way to a file. -/
structure Path where
  root : PathRoot
  names : List String
  deriving Repr, DecidableEq

namespace Path

/-- The root that a number of leading separators stands for. -/
def rootOf
    (separators : Nat) :
    PathRoot :=
  match separators with
  | 0 => .working
  | 2 => .alternateTop
  | _ => .top

/-- The path that a text stands for. -/
def parse
    (text : String) :
    Path :=
  { root := rootOf (text.toList.takeWhile (· == '/')).length
    names :=
      (text.splitOn "/").filter fun name => name != "" && name != "." }

/-- A path as text; the working directory is a dot. -/
def text
    (path : Path) :
    String :=
  match path.root, path.names with
  | .working, [] => "."
  | root, names => root.text ++ "/".intercalate names

/-- The directory that holds a file. -/
def parent
    (path : Path) :
    Path :=
  { path with names := path.names.dropLast }

/-- The home directories that are known, by the names behind the tilde. -/
abbrev Homes :=
  List (String × Path)

/--
The home directory that a text names.

A text without a name stands for the top, and one that begins with a tilde names
no directory.
-/
def homeNamed?
    (text : String) :
    Option Path :=
  match text.toList with
  | '~' :: _ =>
      none
  | chars =>
      if chars.all (· == '/') then
        some { root := .top, names := [] }
      else
        some (.parse text)

/-- The path with a home directory in place of its tilde, if that one is known. -/
def atHome?
    (homes : Homes)
    (path : Path) :
    Option Path :=
  match path.root, path.names with
  | .working, first :: rest =>
      match first.toList with
      | '~' :: user =>
          (homes.lookup (String.ofList user)).map fun home =>
            { home with names := home.names ++ rest }
      | _ =>
          some path
  | _, _ =>
      some path

end Path

end ShardAtlas
