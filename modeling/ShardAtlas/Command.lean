namespace ShardAtlas

/-!
# Commands and replies

The cluster replies to a command with a result, or the attempt breaks off with a
message. A broken attempt counts as a result without success.
-/

/-- What the cluster says about one command. -/
structure CommandResult where
  success : Bool
  message : Option String := none
  deriving Repr, DecidableEq

/-- The reply to one command. -/
inductive Reply
  | answered (result : CommandResult)
  | brokenOff (message : String)
  deriving Repr, DecidableEq

namespace Reply

/-- The result that a reply counts as. -/
def result :
    Reply →
    CommandResult
  | .answered result =>
      result
  | .brokenOff message =>
      { success := false
        message := some message }

/-- The message of an attempt that broke off. -/
def failure? :
    Reply →
    Option String
  | .answered _ =>
      none
  | .brokenOff message =>
      some message

end Reply

end ShardAtlas
