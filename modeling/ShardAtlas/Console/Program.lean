import ShardAtlas.Console.Checks
import ShardAtlas.Console.Interval
import ShardAtlas.Console.Overview

namespace ShardAtlas.Console

/-!
# The program

One run of the program reads the command line up to the group, sets up the log,
reads the rest and carries the command out. So a bad setting is noticed before a
bad word behind the group, and after one in front of it.
-/

/-- The names of log levels, with how severe they are. -/
def logLevels : List (String × Nat) :=
  [ ("CRITICAL", 50), ("FATAL", 50), ("ERROR", 40), ("WARN", 30),
    ("WARNING", 30), ("INFO", 20), ("DEBUG", 10), ("NOTSET", 0) ]

/-- The level of warnings. -/
def warningLevel : Nat :=
  30

/-- What one run of the program leaves behind, and whether it stopped early. -/
structure Run where
  screen : Screen
  stopped : Option Stopped := none
  deriving Repr, DecidableEq

namespace Run

/-- The status of a run. -/
def status
    (run : Run) :
    Nat :=
  (run.stopped.map Stopped.status).getD 0

/-- The crash that a run ended in. -/
def crash?
    (run : Run) :
    Option Crash :=
  match run.stopped with
  | some (.byCrash crash) => some crash
  | _ => none

end Run

/-- What is around a run: variables of the environment, and home directories. -/
structure Surroundings where
  environment : List (String × String) := []
  homes : Path.Homes := []
  deriving Repr, DecidableEq

/-- The settings in an environment, or a crash. -/
def needSettings
    (environment : List (String × String)) :
    Deed Settings :=
  match Settings.load [] environment with
  | .passed settings => pure settings
  | .failed first rest => throw (.byCrash (.settings first rest))

/-- The level from which on messages are logged. -/
def logLevel
    (verbose : Bool)
    (environment : List (String × String)) :
    Deed Nat := do
  if verbose then
    pure 10
  else
    let settings ← needSettings environment
    let name := Text.upperCase settings.logLevel
    match logLevels.lookup name with
    | some level => pure level
    | none => throw (.byCrash (.unknownLevel name))

/-- Log from a level on. -/
def logFrom
    (level : Nat) :
    Deed Unit :=
  modify fun screen =>
    { screen with logsWarnings := level ≤ warningLevel }

/-- Carry out a command. -/
def carryOut
    (surroundings : Surroundings)
    (command : Command) :
    Deed Unit :=
  match command with
  | .showTopology dump =>
      showTopology dump
  | .checkRelocation request =>
      checkRelocation request
  | .checkBulk dump names operation =>
      checkBulk dump names operation
  | .refreshInterval choice database listsChoices => do
      let settings ← needSettings surroundings.environment
      if listsChoices then
        print (.table choiceTable)
      else
        showInterval surroundings.homes settings choice database

/-- The status that a misused command line ends with. -/
def misuseStatus : Nat :=
  2

/-- The status that a request for help ends with. -/
def helpStatus : Nat :=
  0

/-- What is read, or the stop that an unread command line ends in. -/
def needRead :
    Except Unread α →
    Deed α
  | .ok value => pure value
  | .error .misused => throw (.withStatus misuseStatus)
  | .error .helpAsked => throw (.withStatus helpStatus)
  | .error .nullInPath => throw (.byCrash .nullInPath)

/-- Carry out what a command line asks for. -/
def obey
    (surroundings : Surroundings)
    (given : List String) :
    Deed Unit := do
  let opening ← needRead (readOpening given)
  logFrom (← logLevel opening.verbose surroundings.environment)
  let command ← needRead (readCommand opening.group opening.rest)
  carryOut surroundings command

/-- One run of the program in some surroundings with some files. -/
def run
    (files : FileTree)
    (surroundings : Surroundings)
    (given : List String) :
    Run :=
  let (outcome, screen) :=
    (obey surroundings given).run.run { files := files }
  { screen := screen
    stopped :=
      match outcome with
      | .ok () => none
      | .error stopped => some stopped }

end ShardAtlas.Console
