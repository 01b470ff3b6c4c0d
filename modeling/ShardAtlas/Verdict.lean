namespace ShardAtlas

/-!
# Verdicts

A request to move a shard or to change an index is admitted or refused for one
reason. A refusal is an answer and not a failure.
-/

/-- The reasons for refusing a request. -/
inductive Refusal
  | shardMissing
  | sourceNotFound
  | destinationNotFound
  | sameNode
  | unassignedCopy
  | relocatingCopy
  | initializingCopy
  | duplicateOnDestination
  | destinationWithoutData
  | indexNotFound
  | alreadyOpen
  | alreadyClosed
  | closedForRefresh
  | closedForSettings
  | alreadyReadOnly
  | alreadyWritable
  deriving Repr, DecidableEq

namespace Refusal

/-- All reasons: those of a move, then those of a change to an index. -/
def all : List Refusal :=
  [ .shardMissing, .sourceNotFound, .destinationNotFound, .sameNode,
    .unassignedCopy, .relocatingCopy, .initializingCopy,
    .duplicateOnDestination, .destinationWithoutData, .indexNotFound,
    .alreadyOpen, .alreadyClosed, .closedForRefresh, .closedForSettings,
    .alreadyReadOnly, .alreadyWritable ]

/-- The code of a reason. -/
def code :
    Refusal →
    String
  | .shardMissing => "shard_missing"
  | .sourceNotFound => "source_not_found"
  | .destinationNotFound => "dest_not_found"
  | .sameNode => "same_node"
  | .unassignedCopy => "cannot_relocate_unassigned"
  | .relocatingCopy => "cannot_relocate_relocating"
  | .initializingCopy => "cannot_relocate_initializing"
  | .duplicateOnDestination => "duplicate_on_destination"
  | .destinationWithoutData => "dest_not_data_node"
  | .indexNotFound => "not_found"
  | .alreadyOpen => "already_open"
  | .alreadyClosed => "already_closed"
  | .closedForRefresh => "cannot_refresh_closed"
  | .closedForSettings => "cannot_modify_closed"
  | .alreadyReadOnly => "already_read_only"
  | .alreadyWritable => "already_writable"

/-- What is said about a reason. -/
def description :
    Refusal →
    String
  | .shardMissing => "No shard selected"
  | .sourceNotFound => "Source node not found"
  | .destinationNotFound => "Destination node not found"
  | .sameNode => "Source and destination are the same node"
  | .unassignedCopy => "Cannot relocate unassigned shards"
  | .relocatingCopy => "Shard is already relocating"
  | .initializingCopy => "Cannot relocate initializing shards"
  | .duplicateOnDestination =>
      "Destination already hosts a copy of this shard"
  | .destinationWithoutData => "Destination is not a data node"
  | .indexNotFound => "Index not found"
  | .alreadyOpen => "Already open"
  | .alreadyClosed => "Already closed"
  | .closedForRefresh => "Cannot refresh closed index"
  | .closedForSettings => "Cannot modify settings on closed index"
  | .alreadyReadOnly => "Already read-only"
  | .alreadyWritable => "Already writable"

end Refusal

/-- The answer to a request. -/
inductive Verdict
  | approved
  | refused (reason : Refusal)
  deriving Repr, DecidableEq

namespace Verdict

/-- Whether a request is admitted. -/
def isApproved :
    Verdict →
    Bool
  | .approved => true
  | .refused _ => false

/-- Of all verdicts, just the one without a reason admits. -/
theorem isApproved_eq_true_iff
    (verdict : Verdict) :
    verdict.isApproved = true ↔ verdict = .approved := by
  cases verdict <;> simp [isApproved]

/-- The reason of a refusal. -/
def reason? :
    Verdict →
    Option Refusal
  | .approved => none
  | .refused reason => some reason

/-- A verdict in words. -/
def text :
    Verdict →
    String
  | .approved => "Approved"
  | .refused reason => "Rejected(" ++ reason.code ++ ")"

end Verdict

end ShardAtlas
