import ShardAtlas.Snapshot
import ShardAtlas.Verdict

namespace ShardAtlas

/-!
# Admitting moves

A request to move a shard copy is held against seven rules in a fixed order, and
the first one that fails is the reason of the refusal. So a copy that is sent to
its own node is refused for that, whatever its state is.
-/

/-- Why a copy in some state cannot be moved. -/
def ShardState.immovable? :
    ShardState →
    Option Refusal
  | .started => none
  | .unassigned => some .unassignedCopy
  | .relocating => some .relocatingCopy
  | .initializing => some .initializingCopy

namespace Snapshot

/-- The verdict on moving a copy between two known nodes. -/
def judgeBetween
    (shard : Shard)
    (source destination : HostedNode) :
    Verdict :=
  if source.node.id = destination.node.id then
    .refused .sameNode
  else
    match shard.state.immovable? with
    | some reason =>
        .refused reason
    | none =>
        if destination.hosts shard.index shard.number then
          .refused .duplicateOnDestination
        else if destination.node.holdsData then
          .approved
        else
          .refused .destinationWithoutData

/-- The verdict on moving a shard copy from one node to another. -/
def judgeRelocation
    (snapshot : Snapshot)
    (shard : Option Shard)
    (source destination : Option Text) :
    Verdict :=
  match shard with
  | none =>
      .refused .shardMissing
  | some copy =>
      match snapshot.findNode? source with
      | none =>
          .refused .sourceNotFound
      | some sourceHost =>
          match snapshot.findNode? destination with
          | none =>
              .refused .destinationNotFound
          | some destinationHost =>
              judgeBetween copy sourceHost destinationHost

/-- The nodes to which a copy may be moved from where it is. -/
def destinationsFor
    (snapshot : Snapshot)
    (shard : Shard) :
    List HostedNode :=
  snapshot.nodes.filter fun host =>
    (snapshot.judgeRelocation (some shard) shard.node
      (some host.node.id)).isApproved

end Snapshot

end ShardAtlas
