import ShardAtlas.Role

namespace ShardAtlas

/-!
# What a cluster reports

One fetch of a cluster gives its nodes, the copies of its shards and a summary
of each index. The records are taken as reported; no field is checked here.
-/

/-- Allocation state of a shard copy. -/
inductive ShardState
  | started
  | initializing
  | relocating
  | unassigned
  deriving Repr, DecidableEq

namespace ShardState

/-- All states. -/
def all : List ShardState :=
  [.started, .initializing, .relocating, .unassigned]

/-- The name of a state. -/
def name :
    ShardState →
    String
  | .started => "STARTED"
  | .initializing => "INITIALIZING"
  | .relocating => "RELOCATING"
  | .unassigned => "UNASSIGNED"

/-- The state with exactly this name. -/
def ofName?
    (text : String) :
    Option ShardState :=
  all.find? fun state => state.name = text

end ShardState

/-- Whether an index is open. -/
inductive IndexStatus
  | opened
  | closed
  deriving Repr, DecidableEq

namespace IndexStatus

/-- Both statuses. -/
def all : List IndexStatus :=
  [.opened, .closed]

/-- The name of a status. -/
def name :
    IndexStatus →
    String
  | .opened => "open"
  | .closed => "close"

/-- The status with exactly this name. -/
def ofName?
    (text : String) :
    Option IndexStatus :=
  all.find? fun status => status.name = text

end IndexStatus

/--
One copy of a shard.

The node is given by id, name or address. A relocating copy may name the node it
moves to.
-/
structure Shard where
  index : Text
  number : Int
  primary : Bool
  state : ShardState
  node : Option Text := none
  documents : Int := 0
  bytes : Int := 0
  relocatingTo : Option Text := none
  deriving Repr, DecidableEq

/-- Whether a shard copy is assigned to some node. -/
def Shard.isAssigned
    (shard : Shard) :
    Bool :=
  shard.state != .unassigned

/-- A node with its roles and its use of memory and disk, in bytes. -/
structure Node where
  id : String
  name : Text
  roles : RoleSet := .empty
  address : Option Text := none
  heapUsed : Int := 0
  heapMax : Int := 0
  diskUsed : Int := 0
  diskTotal : Int := 0
  isMaster : Bool := false
  isMasterEligible : Bool := false
  deriving Repr, DecidableEq

namespace Node

/-- Whether a node can hold shards. -/
def holdsData
    (node : Node) :
    Bool :=
  node.roles.contains .data

/-- Whether a text names a node by its name or address. -/
def isCalled
    (node : Node)
    (identifier : Text) :
    Bool :=
  node.name == identifier || node.address == some identifier

end Node

/-- The summary of one index. -/
structure IndexSummary where
  name : Text
  health : Text
  status : IndexStatus
  primaryShards : Int := 0
  replicaShards : Int := 0
  documents : Int := 0
  bytes : Int := 0
  deriving Repr, DecidableEq

namespace IndexSummary

/-- Number of shard copies of an index. -/
def shardCount
    (index : IndexSummary) :
    Int :=
  index.primaryShards + index.replicaShards

/-- Whether an index is open. -/
def isOpen
    (index : IndexSummary) :
    Bool :=
  index.status == .opened

end IndexSummary

/-- Everything that one fetch of a cluster gives. -/
structure Inventory where
  nodes : List Node := []
  shards : List Shard := []
  indices : List IndexSummary := []
  deriving Repr, DecidableEq

end ShardAtlas
