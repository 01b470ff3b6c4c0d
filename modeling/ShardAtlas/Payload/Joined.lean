import ShardAtlas.Payload.Flat
import ShardAtlas.Payload.Raw

namespace ShardAtlas.Payload

/-!
# Joining the raw documents

The four raw documents are joined to one inventory: nodes with their statistics,
shard copies with the statistics of the same copy, and indices with the number of
their copies in the routing table.
-/

/-- The documents that one fetch of raw documents gives. -/
structure RawDocuments where
  nodes : Json
  nodesStats : Json
  routing : Json
  indicesStats : Json

/-- The raw documents after their checks. -/
structure RawInventory where
  nodes : OrderedMap String RawNode
  nodesStats : OrderedMap String RawNodeStats
  routing : RawRouting
  indicesStats : OrderedMap String RawIndexStats
  deriving Repr, DecidableEq

/-- Why raw documents give no inventory. -/
inductive RawFault
  | malformed (fault : ShapeFault)
  | longShardNumber (digits : Nat)
  deriving Repr, DecidableEq

/-- Check the raw documents in turn; the first malformed one is reported. -/
def RawDocuments.check
    (documents : RawDocuments) :
    Except ShapeFault RawInventory := do
  let nodes ← (rawNodes documents.nodes).toShape "_nodes"
  let nodesStats ←
    (rawNodesStats documents.nodesStats).toShape "_nodes/stats"
  let routing ← (rawRouting documents.routing).toShape "_cluster/state"
  let indicesStats ←
    (rawIndicesStats documents.indicesStats).toShape "_stats"
  pure
    { nodes := nodes
      nodesStats := nodesStats
      routing := routing
      indicesStats := indicesStats }

/-- A node with its statistics, which are zero where there are none. -/
def joinNode
    (raw : RawInventory)
    (id : String)
    (node : RawNode) :
    Node :=
  let stats := (raw.nodesStats.get? id).getD {}
  let roles := RoleSet.read node.roles
  { id := id
    name :=
      if node.name = "" then
        id
      else
        node.name
    roles := roles
    address := node.address
    heapUsed := stats.heapUsed
    heapMax := stats.heapMax
    diskUsed := max (stats.diskTotal - stats.diskAvailable) 0
    diskTotal := stats.diskTotal
    isMaster := raw.routing.master == some id
    isMasterEligible := roles.contains .master }

/-- Whether statistics are about a copy. -/
def RawCopyStats.areAbout
    (stats : RawCopyStats)
    (copy : RawCopy) :
    Bool :=
  stats.place == some { primary := copy.primary, node := copy.node }

/--
The statistics of a copy among those under its shard number.

Where no statistics say which copy they are about, the first ones are taken. A
copy without a node has none.
-/
def matchStats?
    (candidates : List RawCopyStats)
    (copy : RawCopy) :
    Option RawCopyStats :=
  if namesNode copy.node then
    match candidates.find? fun stats => stats.areAbout copy with
    | some stats =>
        some stats
    | none =>
        if candidates.all fun stats => stats.place.isNone then
          candidates.head?
        else
          none
  else
    none

/-- The statistics under a shard number of an index. -/
def candidatesFor
    (raw : RawInventory)
    (index key : String) :
    List RawCopyStats :=
  ((raw.indicesStats.get? index).bind (·.shards.get? key)).getD []

/-- A copy with its statistics, which are zero where there are none. -/
def joinCopy
    (candidates : List RawCopyStats)
    (index : String)
    (number : Int)
    (copy : RawCopy) :
    Shard :=
  let stats := matchStats? candidates copy
  { index := index
    number := number
    primary := copy.primary
    state := copy.state
    node := copy.node
    documents := (stats.map RawCopyStats.documents).getD 0
    bytes := (stats.map RawCopyStats.bytes).getD 0
    relocatingTo := copy.relocatingTo }

/-- The number that a key of the routing table stands for. -/
def shardNumber
    (key : String) :
    Except RawFault Int :=
  match Text.readInteger key with
  | .ok number => .ok number
  | .error _ => .error (.longShardNumber key.length)

/-- The copies under one shard number; the number is read if there is a copy. -/
def joinCopies
    (raw : RawInventory)
    (index key : String)
    (copies : List RawCopy) :
    Except RawFault (List Shard) :=
  copies.mapM fun copy => do
    let number ← shardNumber key
    pure (joinCopy (candidatesFor raw index key) index number copy)

/-- All copies, in the order of the routing table. -/
def joinShards
    (raw : RawInventory) :
    Except RawFault (List Shard) := do
  let shards ←
    raw.routing.indices.entries.mapM fun (index, routing) =>
      routing.entries.mapM fun (key, copies) =>
        joinCopies raw index key copies
  pure shards.flatten.flatten

/--
Numbers of primaries and replicas of an index.

An index without a place in the routing table has as many primaries as shard
numbers in its statistics.
-/
def copyCounts
    (raw : RawInventory)
    (index : String)
    (stats : RawIndexStats) :
    Nat × Nat :=
  match raw.routing.indices.get? index with
  | some routing =>
      let copies := routing.values.flatten
      let primaries := copies.countP RawCopy.primary
      (primaries, copies.length - primaries)
  | none =>
      (stats.shards.size, 0)

/-- The summary of an index. -/
def joinIndex
    (raw : RawInventory)
    (index : String)
    (stats : RawIndexStats) :
    IndexSummary :=
  let (primaries, replicas) := copyCounts raw index stats
  { name := index
    health := stats.health
    status := stats.status
    primaryShards := primaries
    replicaShards := replicas
    documents := stats.documents
    bytes := stats.bytes }

/-- The inventory of checked raw documents. -/
def RawInventory.join
    (raw : RawInventory) :
    Except RawFault Inventory := do
  let shards ← joinShards raw
  pure
    { nodes :=
        raw.nodes.entries.map fun (id, node) => joinNode raw id node
      shards := shards
      indices :=
        raw.indicesStats.entries.map fun (index, stats) =>
          joinIndex raw index stats }

/-- The inventory of raw documents. -/
def RawDocuments.read
    (documents : RawDocuments) :
    Except RawFault Inventory := do
  let raw ← documents.check.mapError .malformed
  raw.join

end ShardAtlas.Payload
