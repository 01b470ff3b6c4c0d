import ShardAtlas.Snapshot

namespace ShardAtlas

/-!
# Counting and sorting

The views that an overview of a cluster shows: nodes with the masters first,
copies by index and by state, moves under way, and totals.
-/

/-- Copies by index, in the order in which the indices first appear. -/
def groupByIndex
    (shards : List Shard) :
    ShardsByIndex :=
  shards.foldl
    (fun groups shard =>
      groups.alter shard.index fun copies => copies.getD [] ++ [shard])
    .empty

/-- Number of copies in each state that appears, in order of appearance. -/
def countByState
    (shards : List Shard) :
    OrderedMap ShardState Nat :=
  shards.foldl
    (fun counts shard =>
      counts.alter shard.state fun count => count.getD 0 + 1)
    .empty

/-- The states of copies that are not settled on a node. -/
def ShardState.unsettled : List ShardState :=
  [.unassigned, .relocating, .initializing]

/-- Whether a copy is not settled on a node. -/
def Shard.isUnsettled
    (shard : Shard) :
    Bool :=
  decide (shard.state ∈ ShardState.unsettled)

/-- Whether some copy of an index is not settled on a node. -/
def indexHasProblems
    (index : Text)
    (shards : List Shard) :
    Bool :=
  shards.any fun shard => shard.index == index && shard.isUnsettled

/-- Whether a node is the master or may become it by its roles. -/
def HostedNode.leads
    (host : HostedNode) :
    Bool :=
  host.node.isMaster || host.node.roles.contains .master

/-- The order of an overview: leading nodes first, then by name. -/
def HostedNode.shownBefore
    (first second : HostedNode) :
    Bool :=
  if first.leads = second.leads then
    first.node.name.noLater second.node.name
  else
    first.leads

/-- Nodes in the order of an overview. -/
def mastersFirst
    (hosts : List HostedNode) :
    List HostedNode :=
  hosts.mergeSort HostedNode.shownBefore

/-- The nodes that can hold shards. -/
def dataNodes
    (hosts : List HostedNode) :
    List HostedNode :=
  hosts.filter fun host => host.node.holdsData

/-- Totals over all copies of a snapshot. -/
structure ShardTotals where
  total : Nat
  primary : Nat
  replica : Nat
  unassigned : Nat
  relocating : Nat
  initializing : Nat
  deriving Repr, DecidableEq

namespace Snapshot

/-- The copies on the move, each with the known node it moves to. -/
def pendingRelocations
    (snapshot : Snapshot) :
    List (Shard × Option HostedNode) :=
  (snapshot.shards.filter fun shard => shard.state == .relocating).map
    fun shard => (shard, snapshot.findNode? shard.relocatingTo)

/-- The totals of a snapshot. -/
def totals
    (snapshot : Snapshot) :
    ShardTotals :=
  let counts := countByState snapshot.shards
  let primary := snapshot.shards.countP Shard.primary
  { total := snapshot.shards.length
    primary := primary
    replica := snapshot.shards.length - primary
    unassigned := (counts.get? .unassigned).getD 0
    relocating := (counts.get? .relocating).getD 0
    initializing := (counts.get? .initializing).getD 0 }

end Snapshot

end ShardAtlas
