import ShardAtlas.Command
import ShardAtlas.Message
import ShardAtlas.Relocation

namespace ShardAtlas

/-!
# Sending moves

An admitted move becomes one command to the cluster, which names both nodes by
their ids. A refused one sends nothing.

A command that breaks off gives a warning with the number of the copy. Where that
number is too long to be printed, the command was sent, but no outcome is handed
back.
-/

/-- The command to move one shard copy. -/
structure MoveCommand where
  index : Text
  number : Int
  source : String
  destination : String
  deriving Repr, DecidableEq

/-- What came of a request to move a shard copy. -/
structure MoveOutcome where
  verdict : Verdict
  command : Option MoveCommand := none
  result : Option CommandResult := none
  sent : List MoveCommand := []
  warnings : List Message := []
  deriving Repr

/-- Whether the cluster accepted the move. -/
def MoveOutcome.succeeded
    (outcome : MoveOutcome) :
    Bool :=
  outcome.result.any CommandResult.success

/-- The warning about a move that failed. -/
def MoveCommand.failureWarning
    (command : MoveCommand)
    (message : String) :
    Message :=
  Message.naming command.number fun number =>
    "Relocation of " ++ command.index.shown ++ "[" ++ number ++
      "] failed: " ++ message

namespace Snapshot

/-- The command for a move between two known nodes. -/
def moveCommand?
    (snapshot : Snapshot)
    (shard : Option Shard)
    (source destination : Option Text) :
    Option MoveCommand := do
  let copy ← shard
  let sourceHost ← snapshot.findNode? source
  let destinationHost ← snapshot.findNode? destination
  pure
    { index := copy.index
      number := copy.number
      source := sourceHost.node.id
      destination := destinationHost.node.id }

/--
Judge a move and send it if it is admitted.

The outcome is the one that is handed back, when its warning can be written.
-/
def relocate
    (snapshot : Snapshot)
    (mover : MoveCommand → Reply)
    (shard : Option Shard)
    (source destination : Option Text) :
    MoveOutcome :=
  let verdict := snapshot.judgeRelocation shard source destination
  match verdict, snapshot.moveCommand? shard source destination with
  | .approved, some command =>
      { verdict := verdict
        command := some command
        result := some (mover command).result
        sent := [command]
        warnings :=
          (mover command).failure?.toList.map command.failureWarning }
  | _, _ =>
      { verdict := verdict }

end Snapshot

/-- The outcome that is handed back to the one who asked for a move. -/
def MoveOutcome.handedBack
    (outcome : MoveOutcome) :
    Except Text.LongInteger MoveOutcome :=
  Message.given outcome.warnings outcome

end ShardAtlas
