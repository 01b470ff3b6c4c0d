import ShardAtlas.Inventory
import ShardAtlas.Json
import ShardAtlas.Text.Quoted

namespace ShardAtlas

/-!
# Records

Nodes, shard copies and indices are exchanged as JSON objects with a member for
each field. A member that is left out has the default of its field, and only the
names of roles, states and statuses are checked.
-/

/-- A name in a record that stands for nothing. -/
inductive RecordFault
  | role (name : Text)
  | state (name : Text)
  | status (name : Text)
  deriving Repr, DecidableEq

/-- The text about a name that stands for nothing. -/
def RecordFault.message :
    RecordFault →
    String
  | .role name => name.quoted ++ " is not a valid NodeRole"
  | .state name => name.quoted ++ " is not a valid ShardState"
  | .status name => name.quoted ++ " is not a valid IndexStatus"

namespace Record

/-- The text in a member, if there is one. -/
def text?
    (name : String)
    (record : Json) :
    Option Text :=
  (record.member? name).bind Json.text?

/-- The text in a member, or the empty text. -/
def text
    (name : String)
    (record : Json) :
    Text :=
  (text? name record).getD ""

/-- The integer in a member, if there is one. -/
def integer?
    (name : String)
    (record : Json) :
    Option Int :=
  (record.member? name).bind Json.integer?

/-- The integer in a member, or zero. -/
def integer
    (name : String)
    (record : Json) :
    Int :=
  (integer? name record).getD 0

/-- The boolean in a member, or false. -/
def boolean
    (name : String)
    (record : Json) :
    Bool :=
  match record.member? name with
  | some (.boolean value) => value
  | _ => false

/-- The items of the array in a member. -/
def items
    (name : String)
    (record : Json) :
    List Json :=
  ((record.member? name).map Json.items).getD []

/-- What a name stands for, or the fault of a name that stands for nothing. -/
def named
    (ofName? : String → Option α)
    (fault : Text → RecordFault)
    (name : Text) :
    Except RecordFault α :=
  match name.whole?.bind ofName? with
  | some value => .ok value
  | none => .error (fault name)

end Record

open Record

/-- The node of a record. -/
def Node.ofRecord
    (record : Json) :
    Except RecordFault Node := do
  let roles ←
    ((items "roles" record).filterMap Json.text?).mapM
      (named NodeRole.ofName? .role)
  pure
    { id := (text "id" record).shown
      name := text "name" record
      roles := .ofList roles
      address := text? "ip" record
      heapUsed := integer "heap_used" record
      heapMax := integer "heap_max" record
      diskUsed := integer "disk_used" record
      diskTotal := integer "disk_total" record
      isMaster := boolean "is_master" record
      isMasterEligible := boolean "is_master_eligible" record }

/-- The shard copy of a record. -/
def Shard.ofRecord
    (record : Json) :
    Except RecordFault Shard := do
  let state ← named ShardState.ofName? .state (text "state" record)
  pure
    { index := text "index" record
      number := integer "shard_id" record
      primary := boolean "primary" record
      state := state
      node := text? "node" record
      documents := integer "doc_count" record
      bytes := integer "size_bytes" record
      relocatingTo := text? "relocating_node" record }

/-- The index of a record. -/
def IndexSummary.ofRecord
    (record : Json) :
    Except RecordFault IndexSummary := do
  let status ← named IndexStatus.ofName? .status (text "status" record)
  pure
    { name := text "name" record
      health := text "health" record
      status := status
      primaryShards := integer "primary_shard_count" record
      replicaShards := integer "replica_shard_count" record
      documents := integer "docs_count" record
      bytes := integer "store_size_bytes" record }

/-- The inventory of a record with lists of records. -/
def Inventory.ofRecord
    (record : Json) :
    Except RecordFault Inventory := do
  let nodes ← (items "nodes" record).mapM Node.ofRecord
  let shards ← (items "shards" record).mapM Shard.ofRecord
  let indices ← (items "indices" record).mapM IndexSummary.ofRecord
  pure
    { nodes := nodes
      shards := shards
      indices := indices }

/-- A value that may be absent. -/
def Json.ofOption
    (encode : α → Json)
    (value : Option α) :
    Json :=
  (value.map encode).getD .null

/-- The record of a node. -/
def Node.record
    (node : Node) :
    Json :=
  .object
    [ ("id", .text node.id),
      ("name", .text node.name),
      ("roles", .array (node.roles.names.map fun (name : String) => .text name)),
      ("ip", .ofOption .text node.address),
      ("heap_used", .integer node.heapUsed),
      ("heap_max", .integer node.heapMax),
      ("disk_used", .integer node.diskUsed),
      ("disk_total", .integer node.diskTotal),
      ("is_master", .boolean node.isMaster),
      ("is_master_eligible", .boolean node.isMasterEligible) ]

/-- The record of a shard copy. -/
def Shard.record
    (shard : Shard) :
    Json :=
  .object
    [ ("index", .text shard.index),
      ("shard_id", .integer shard.number),
      ("primary", .boolean shard.primary),
      ("state", .text shard.state.name),
      ("node", .ofOption .text shard.node),
      ("doc_count", .integer shard.documents),
      ("size_bytes", .integer shard.bytes),
      ("relocating_node", .ofOption .text shard.relocatingTo) ]

/-- The members of the record of an index. -/
def IndexSummary.recordMembers
    (index : IndexSummary) :
    List (String × Json) :=
  [ ("name", .text index.name),
    ("health", .text index.health),
    ("status", .text index.status.name),
    ("primary_shard_count", .integer index.primaryShards),
    ("replica_shard_count", .integer index.replicaShards),
    ("docs_count", .integer index.documents),
    ("store_size_bytes", .integer index.bytes) ]

/-- The record of an index. -/
def IndexSummary.record
    (index : IndexSummary) :
    Json :=
  .object index.recordMembers

/-- The record of an inventory. -/
def Inventory.record
    (inventory : Inventory) :
    Json :=
  .object
    [ ("nodes", .array (inventory.nodes.map Node.record)),
      ("shards", .array (inventory.shards.map Shard.record)),
      ("indices", .array (inventory.indices.map IndexSummary.record)) ]

end ShardAtlas
