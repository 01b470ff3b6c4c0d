import ShardAtlas.Inventory
import ShardAtlas.OrderedMap

namespace ShardAtlas

/-!
# Snapshots of a cluster

A snapshot shows where every reported shard copy is: on a known node, on a node
that nobody knows, or nowhere. It is built at once and never changed.
-/

/-- The shard copies in one place, by index and in the order of their numbers. -/
abbrev ShardsByIndex :=
  OrderedMap Text (List Shard)

namespace ShardsByIndex

/-- All copies, index after index. -/
def shards
    (placed : ShardsByIndex) :
    List Shard :=
  placed.values.flatten

/-- The copies of one index. -/
def ofIndex
    (placed : ShardsByIndex)
    (index : Text) :
    List Shard :=
  (placed.get? index).getD []

end ShardsByIndex

/-- A node with the shard copies on it. -/
structure HostedNode where
  node : Node
  placed : ShardsByIndex := .empty
  deriving Repr, DecidableEq

namespace HostedNode

/-- All copies on a node. -/
def shards
    (host : HostedNode) :
    List Shard :=
  ShardsByIndex.shards host.placed

/-- Number of copies on a node. -/
def shardCount
    (host : HostedNode) :
    Nat :=
  host.shards.length

/-- The copies of one index on a node. -/
def shardsOf
    (host : HostedNode)
    (index : Text) :
    List Shard :=
  ShardsByIndex.ofIndex host.placed index

/-- Whether a node holds a copy of a shard. -/
def hosts
    (host : HostedNode)
    (index : Text)
    (number : Int) :
    Bool :=
  (host.shardsOf index).any fun shard => shard.number == number

end HostedNode

/-- The node that stands for every node nobody knows. -/
def Node.unknown : Node :=
  { id := "__unknown__"
    name := "unknown" }

/-- A complete view of a cluster at one moment. -/
structure Snapshot where
  nodes : List HostedNode
  unknown : HostedNode
  unassigned : List Shard
  indices : List IndexSummary
  deriving Repr, DecidableEq

namespace Snapshot

/-- The snapshot of a cluster of which nothing is reported. -/
def empty : Snapshot :=
  { nodes := []
    unknown := { node := .unknown }
    unassigned := []
    indices := [] }

instance : Inhabited Snapshot :=
  ⟨empty⟩

/--
The node that an identifier stands for.

An id comes before a name or address, and the first node comes before the
others. The empty identifier stands for no node, and none for the unknown one.
-/
def findNode?
    (snapshot : Snapshot)
    (identifier : Option Text) :
    Option HostedNode :=
  match identifier with
  | none =>
      none
  | some text =>
      if text = "" then
        none
      else
        (snapshot.nodes.find? fun host => (host.node.id : Text) == text).or
          (snapshot.nodes.find? fun host => host.node.isCalled text)

/--
The node that an identifier stands for, or the unknown node by its own id.
-/
def findHost?
    (snapshot : Snapshot)
    (identifier : Option Text) :
    Option HostedNode :=
  if identifier = some (Node.unknown.id : Text) then
    some snapshot.unknown
  else
    snapshot.findNode? identifier

/-- The first summary of an index. -/
def findIndex?
    (snapshot : Snapshot)
    (name : Text) :
    Option IndexSummary :=
  snapshot.indices.find? fun index => index.name == name

/-- Every copy: on the nodes, on unknown nodes, and the unassigned ones. -/
def shards
    (snapshot : Snapshot) :
    List Shard :=
  snapshot.nodes.flatMap HostedNode.shards ++
    snapshot.unknown.shards ++
    snapshot.unassigned

/-- Number of copies. -/
def shardCount
    (snapshot : Snapshot) :
    Nat :=
  snapshot.shards.length

/--
The copy of a shard that a request is about.

A copy on the source node comes before the others.
-/
def findCopy?
    (snapshot : Snapshot)
    (index : Text)
    (number : Int)
    (primary : Bool)
    (source : Option Text) :
    Option Shard :=
  let isMeant (shard : Shard) : Bool :=
    shard.index == index && shard.number == number &&
      shard.primary == primary
  let onSource :=
    match snapshot.findNode? source with
    | some host =>
        (host.shardsOf index).find? isMeant
    | none =>
        none
  onSource.or (snapshot.shards.find? isMeant)

end Snapshot

end ShardAtlas
