import ShardAtlas.Console.Layout
import ShardAtlas.Console.Program
import ShardAtlas.Console.Storage

/-!
# The command line program

The files that the command line may be about are read, the program runs on them,
and what it printed and stored is put out.
-/

namespace ShardAtlas.Console

/-- The name of a setting in the environment. -/
def variableName
    (setting : String) :
    String :=
  Settings.variableStart ++ Text.upperCase setting

/-- The variables of the environment that hold settings. -/
def readVariables :
    IO (List (String × String)) :=
  Settings.names.filterMapM fun setting => do
    let value ← IO.getEnv (variableName setting)
    pure (value.map (variableName setting, ·))

/-- The home directory of the operator, if it is known. -/
def readHomes :
    IO Path.Homes := do
  let home ← IO.getEnv "HOME"
  pure ((home.bind Path.homeNamed?).map ("", ·)).toList

/-- The files that are known before one is read. -/
def readWorking :
    IO FileTree := do
  let working ← IO.currentDir
  pure (.ordinary (Path.parse working.toString).names)

/-- Take a file up into a tree, if it can be read. -/
def addFile
    (files : FileTree)
    (path : Path) :
    IO FileTree := do
  let content ←
    tryCatch (some <$> IO.FS.readFile path.text) fun _ => pure none
  match content with
  | some text => pure (files.addFile path (contentOf text))
  | none => pure files

/-- Put a stored database out. -/
def putDatabase
    (place : Place)
    (entry : FileEntry) :
    IO Unit := do
  match entry with
  | .file (.database values) =>
      let path := Path.ofPlace place
      IO.FS.createDirAll path.parent.text
      IO.FS.writeFile path.text (storedText values)
  | _ =>
      pure ()

end ShardAtlas.Console

open ShardAtlas ShardAtlas.Console in
/-- Run the program on the words of the command line. -/
def main
    (given : List String) :
    IO UInt32 := do
  let environment ← readVariables
  let homes ← readHomes
  let candidates :=
    homeDatabase ::
      (given.flatMap (·.splitOn "=") ++ environment.map Prod.snd).map
        Path.parse
  let files ←
    (candidates.filterMap (·.atHome? homes)).foldlM addFile
      (← readWorking)
  let run :=
    Console.run files { environment := environment, homes := homes } given
  for printed in run.screen.printed do
    for line in printed.lines do
      IO.println line
  for message in run.screen.log do
    IO.eprintln message
  match run.crash? with
  | some crash => IO.eprintln crash.message
  | none => pure ()
  for (place, entry) in run.screen.files.entries.entries do
    if files.entry? place ≠ some entry then
      putDatabase place entry
  pure run.status.toUInt32
