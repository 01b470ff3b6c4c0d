import ShardAtlas.Bulk
import ShardAtlas.Console.Options
import ShardAtlas.Path
import ShardAtlas.Text.StrictNumeral

namespace ShardAtlas.Console

/-!
# The command line

A command belongs to a group and is named behind it. The options of the program
stand in front of the group, those of a command among its arguments. A word that
cannot be read ends the reading, and so does a request for help.
-/

/-- A request to know whether a shard copy may be moved. -/
structure RelocationRequest where
  dump : Path
  index : String
  number : Int
  primary : Bool
  source : String
  destination : String
  deriving Repr, DecidableEq

/-- What an operator can ask for. -/
inductive Command
  | showTopology (dump : Path)
  | checkRelocation (request : RelocationRequest)
  | checkBulk
      (dump : Path)
      (names : List Text)
      (operation : BulkOperation)
  | refreshInterval
      (choice : Option String)
      (database : Option Path)
      (listsChoices : Bool)
  deriving Repr, DecidableEq

/-- Why a command line gives no command. -/
inductive Unread
  | misused
  | helpAsked
  | nullInPath
  deriving Repr, DecidableEq

/-- The groups of commands. -/
inductive CommandGroup
  | topology
  | relocate
  | bulk
  | refresh
  deriving Repr, DecidableEq

namespace CommandGroup

/-- All groups. -/
def all : List CommandGroup :=
  [.topology, .relocate, .bulk, .refresh]

/-- The name of a group. -/
def name :
    CommandGroup →
    String
  | .topology => "topology"
  | .relocate => "relocate"
  | .bulk => "bulk"
  | .refresh => "refresh"

/-- The name of the only command of a group. -/
def commandName :
    CommandGroup →
    String
  | .topology => "show"
  | .relocate => "check"
  | .bulk => "check"
  | .refresh => "interval"

end CommandGroup

/-- The option that asks for help. -/
def helpOption : OptionName :=
  { key := "help"
    long := "help"
    takesValue := false }

/-- Sort words by some options, of which help is always one. -/
def readWords
    (names : List OptionName)
    (interspersed : Bool)
    (given : List String) :
    Except Unread Words :=
  match sortWords (names ++ [helpOption]) interspersed given with
  | none =>
      .error .misused
  | some words =>
      if words.has "help" then
        .error .helpAsked
      else
        .ok words

/-- A value that must be there. -/
def needed :
    Option α →
    Except Unread α
  | some value => .ok value
  | none => .error .misused

/-- The path that a word stands for; it holds no null character. -/
def readPath
    (word : String) :
    Except Unread Path :=
  if word.toList.contains '\x00' then
    .error .nullInPath
  else
    .ok (.parse word)

/-- Nothing may be left over. -/
def finished :
    List String →
    Except Unread Unit
  | [] => .ok ()
  | _ :: _ => .error .misused

/-- The words up to the group of a command. -/
structure Opening where
  verbose : Bool
  group : CommandGroup
  rest : List String
  deriving Repr, DecidableEq

/-- Read the options of the program and the group of the command. -/
def readOpening
    (given : List String) :
    Except Unread Opening := do
  let words ←
    readWords
      [ { key := "verbose"
          long := "verbose"
          short := some 'v'
          takesValue := false } ]
      false given
  match words.arguments with
  | [] =>
      .error .misused
  | name :: rest =>
      let group ←
        needed (CommandGroup.all.find? fun group => group.name == name)
      pure
        { verbose := words.has "verbose"
          group := group
          rest := rest }

/-- Read the arguments of the command that shows a cluster. -/
def readShow
    (given : List String) :
    Except Unread Command := do
  let words ← readWords [] true given
  match words.arguments with
  | [] =>
      .error .misused
  | word :: rest =>
      let dump ← readPath word
      finished rest
      pure (.showTopology dump)

/-- The options of the command that checks a move. -/
def relocationOptions : List OptionName :=
  [ { key := "index", long := "index" },
    { key := "number", long := "shard" },
    { key := "source", long := "from" },
    { key := "destination", long := "to" },
    { key := "primary", long := "primary", takesValue := false },
    { key := "replica", long := "replica", takesValue := false } ]

/-- Whether the primary is meant; the last word about it counts. -/
def choosesPrimary
    (words : Words) :
    Bool :=
  (words.options.reverse.find? fun option =>
    option.key == "primary" || option.key == "replica").all
      fun option => option.key == "primary"

/-- The number that a word stands for, spelled as in a document. -/
def readNumber
    (word : String) :
    Except Unread Int :=
  (Text.readStrictInteger word).mapError fun _ => .misused

/--
Read the arguments of the command that checks a move.

A word that is given is read before one that is missing is noticed.
-/
def readRelocation
    (given : List String) :
    Except Unread Command := do
  let words ← readWords relocationOptions true given
  let number? ← (words.value? "number").mapM readNumber
  match words.arguments with
  | [] =>
      .error .misused
  | word :: rest =>
      let dump ← readPath word
      let index ← needed (words.value? "index")
      let number ← needed number?
      let source ← needed (words.value? "source")
      let destination ← needed (words.value? "destination")
      finished rest
      pure
        (.checkRelocation
          { dump := dump
            index := index
            number := number
            primary := choosesPrimary words
            source := source
            destination := destination })

/-- The operation that a word stands for. -/
def readOperation
    (word : String) :
    Except Unread BulkOperation :=
  needed (BulkOperation.ofCode? word)

/-- Read the arguments of the command that checks an operation on indices. -/
def readBulk
    (given : List String) :
    Except Unread Command := do
  let words ←
    readWords
      [ { key := "operation"
          long := "operation"
          short := some 'o' } ]
      true given
  let operation? ← (words.value? "operation").mapM readOperation
  match words.arguments with
  | [] =>
      .error .misused
  | word :: names =>
      let dump ← readPath word
      let operation ← needed operation?
      if names.isEmpty then
        .error .misused
      else
        let selection := names.map fun (name : String) => (name : Text)
        pure (.checkBulk dump selection operation)

/-- Read the arguments of the command for the refresh interval. -/
def readInterval
    (given : List String) :
    Except Unread Command := do
  let words ←
    readWords
      [ { key := "choice", long := "set" },
        { key := "database", long := "db" },
        { key := "choices", long := "choices", takesValue := false } ]
      true given
  let database ← (words.value? "database").mapM readPath
  finished words.arguments
  pure
    (.refreshInterval (words.value? "choice") database
      (words.has "choices"))

/-- Read the words behind the group of a command. -/
def readCommand
    (group : CommandGroup)
    (given : List String) :
    Except Unread Command := do
  let words ← readWords [] false given
  match words.arguments with
  | [] =>
      .error .misused
  | name :: rest =>
      if name = group.commandName then
        match group with
        | .topology => readShow rest
        | .relocate => readRelocation rest
        | .bulk => readBulk rest
        | .refresh => readInterval rest
      else
        .error .misused

end ShardAtlas.Console
