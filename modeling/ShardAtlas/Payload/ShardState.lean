import ShardAtlas.Inventory
import ShardAtlas.Payload.Scalar
import ShardAtlas.Text.Blank

namespace ShardAtlas.Payload

/-!
# States of shard copies in documents

A state is written in any case, with blanks around it. A copy names a node
exactly when it is assigned.
-/

/-- The state with a name in any case and with blanks around it. -/
def stateNamed?
    (name : String) :
    Option ShardState :=
  ShardState.ofName? (Text.upperCase (Text.withoutBlanks name))

/-- The state of a shard copy. -/
def shardState :
    Check ShardState :=
  choice (ShardState.all.map ShardState.name) stateNamed?

/-- The status of an index. -/
def indexStatus :
    Check IndexStatus :=
  choice (IndexStatus.all.map IndexStatus.name) IndexStatus.ofName?

/-- Whether a reference names a node; the empty text names none. -/
def namesNode
    (reference : Option Text) :
    Bool :=
  reference.any fun name => name != ("" : Text)

/-- What is wrong with a state and a node reference together. -/
def placementFault?
    (state : ShardState)
    (reference : Option Text) :
    Option Fault :=
  match state, namesNode reference with
  | .unassigned, true =>
      some (.refused "unassigned shard must not reference a node")
  | .unassigned, false =>
      none
  | _, true =>
      none
  | assigned, false =>
      some (.refused (assigned.name ++ " shard must reference a node"))

/-- Let a value pass if its state and node reference fit together. -/
def withFittingNode
    (state : ShardState)
    (reference : Option Text)
    (value : α) :
    Checked α :=
  match placementFault? state reference with
  | some fault => .fault fault
  | none => .passed value

end ShardAtlas.Payload
