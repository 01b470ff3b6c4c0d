import ShardAtlas.Console.Markup
import ShardAtlas.Files
import ShardAtlas.Json.Reader
import ShardAtlas.Message
import ShardAtlas.Payload.Issue

namespace ShardAtlas.Console

/-!
# What a command does

A command reads and writes files, prints lines and tables, and gives warnings. It
runs through, or it stops early: with a status after it has said why, or by a
crash. What was done before it stops stays done.
-/

/-- A table as it is handed to the screen. -/
structure Table where
  title : String
  columns : List String
  rows : List (List String) := []
  deriving Repr, DecidableEq

/-- Something that is printed. -/
inductive Printed
  | line (markup : String)
  | table (table : Table)
  deriving Repr, DecidableEq

/-- What was done so far, and whether warnings are logged. -/
structure Screen where
  files : FileTree := {}
  printed : List Printed := []
  log : List String := []
  logsWarnings : Bool := true
  deriving Repr, DecidableEq

/-- A failure that no command reports by itself. -/
inductive Crash
  | settings (first : Payload.Issue) (rest : List Payload.Issue)
  | unknownLevel (name : String)
  | unreadableByte (byte position : Nat)
  | unreadableDocument (fault : Json.ReadFault)
  | nullInPath
  | homeless
  | overflow (cause : Overflow)
  | longInteger (cause : Text.LongInteger)
  deriving Repr, DecidableEq

/-- The two digits of a byte in base sixteen. -/
def byteText
    (byte : Nat) :
    String :=
  String.ofList [Nat.digitChar (byte / 16), Nat.digitChar (byte % 16)]

/-- The text about a crash. -/
def Crash.message :
    Crash →
    String
  | .settings first rest =>
      "; ".intercalate
        ((first :: rest).map fun issue =>
          Payload.detailLine (issue.path.map Payload.Step.text)
            issue.fault.message)
  | .unknownLevel name =>
      "Unknown level: " ++ Text.quoted name
  | .unreadableByte byte position =>
      "'utf-8' codec can't decode byte 0x" ++ byteText byte ++
        " in position " ++ Nat.repr position ++ ": invalid start byte"
  | .unreadableDocument fault =>
      fault.message
  | .nullInPath =>
      "embedded null byte"
  | .homeless =>
      "Could not determine home directory."
  | .overflow cause =>
      cause.message
  | .longInteger cause =>
      cause.message

/-- Why a command stops early. -/
inductive Stopped
  | withStatus (status : Nat)
  | byCrash (crash : Crash)
  deriving Repr, DecidableEq

/-- The status of a command that fails or is refused. -/
def failureStatus : Nat :=
  1

/-- The status that a command ends with when it stops early. -/
def Stopped.status :
    Stopped →
    Nat
  | .withStatus status => status
  | .byCrash _ => failureStatus

/-- Something that a command does. -/
abbrev Deed :=
  ExceptT Stopped (StateM Screen)

/--
Print a line or a table.

What is printed is kept as it is handed over. Nothing is said here about the tags
in it, nor about what a terminal does with them.
-/
def print
    (printed : Printed) :
    Deed Unit :=
  modify fun screen =>
    { screen with printed := screen.printed ++ [printed] }

/-- Print a line. -/
def printLine
    (markup : String) :
    Deed Unit :=
  print (.line markup)

/-- Log texts, if warnings are logged. -/
def Screen.withLogged
    (screen : Screen)
    (texts : List String) :
    Screen :=
  if screen.logsWarnings then
    { screen with log := screen.log ++ texts }
  else
    screen

/-- Print a line and stop with a failure. -/
def refuse
    (markup : String) :
    Deed α := do
  printLine markup
  throw (.withStatus failureStatus)

/-- What is needed, or the crash in which it ends. -/
def needComputed :
    Except Crash α →
    Deed α
  | .ok value => pure value
  | .error crash => throw (.byCrash crash)

/-- Log warnings up to one that cannot be written, which is a crash even if none is logged. -/
def warn
    (warnings : List Message) :
    Deed Unit := do
  let (texts, outcome) := Message.logged warnings
  modify (·.withLogged texts)
  needComputed (outcome.mapError .longInteger)

end ShardAtlas.Console
