import ShardAtlas.Message
import ShardAtlas.Snapshot
import ShardAtlas.Text.Quoted

namespace ShardAtlas

/-!
# Placing shards

A snapshot is built by sending every reported copy to one place: the list of
unassigned copies, a known node, or the unknown node. Copies with the same
number stay in the order in which they were reported.

A copy on a node that nobody knows gives a warning with its number. Where that
number is too long to be printed, no snapshot is built.
-/

/--
The ids that identifiers stand for.

Ids are entered before names and addresses, so no name hides an id, and the first
node with an identifier keeps it.
-/
def identifiers
    (nodes : List Node) :
    OrderedMap Text String :=
  let byId : OrderedMap Text String :=
    nodes.foldl
      (fun known node => known.insertNew node.id node.id)
      .empty
  nodes.foldl
    (fun known node =>
      let named := known.insertNew node.name node.id
      match node.address with
      | some address =>
          if address = "" then
            named
          else
            named.insertNew address node.id
      | none =>
          named)
    byId

/-- The id of the node that a shard copy refers to. -/
def resolveId?
    (known : OrderedMap Text String)
    (reference : Option Text) :
    Option String :=
  match reference with
  | none =>
      none
  | some text =>
      if text = "" then
        none
      else
        known.get? text

/-- Add a copy behind those of its index. -/
def ShardsByIndex.add
    (placed : ShardsByIndex)
    (shard : Shard) :
    ShardsByIndex :=
  placed.alter shard.index fun copies => copies.getD [] ++ [shard]

/-- Put the copies of every index into the order of their numbers. -/
def ShardsByIndex.sorted
    (placed : ShardsByIndex) :
    ShardsByIndex :=
  placed.mapValues fun copies =>
    copies.mergeSort fun first second =>
      decide (first.number ≤ second.number)

/-- The copies placed so far. -/
structure Placement where
  hosted : OrderedMap String ShardsByIndex
  unknown : ShardsByIndex
  unassigned : List Shard
  strays : List Shard
  deriving Repr, DecidableEq

namespace Placement

/-- The places before the first copy: every node is empty. -/
def start
    (nodes : List Node) :
    Placement :=
  { hosted :=
      nodes.foldl
        (fun hosted node => hosted.insert node.id .empty)
        .empty
    unknown := .empty
    unassigned := []
    strays := [] }

/-- Send one copy to its place. -/
def place
    (known : OrderedMap Text String)
    (placement : Placement)
    (shard : Shard) :
    Placement :=
  if shard.isAssigned then
    match resolveId? known shard.node with
    | some id =>
        { placement with
          hosted :=
            placement.hosted.alter id fun placed =>
              (placed.getD .empty).add shard }
    | none =>
        { placement with
          unknown := placement.unknown.add shard
          strays := placement.strays ++ [shard] }
  else
    { placement with
      unassigned := placement.unassigned ++ [shard] }

/-- Send all copies to their places. -/
def ofInventory
    (inventory : Inventory) :
    Placement :=
  inventory.shards.foldl
    (place (identifiers inventory.nodes))
    (start inventory.nodes)

/--
The nodes with their copies.

The copies of an id go to the first node that has it, given the ids of the nodes
before.
-/
def hosts
    (placement : Placement) :
    List String →
    List Node →
    List HostedNode
  | _, [] =>
      []
  | seen, node :: rest =>
      { node := node
        placed :=
          if node.id ∈ seen then
            .empty
          else
            ((placement.hosted.get? node.id).getD .empty).sorted } ::
        placement.hosts (node.id :: seen) rest

end Placement

/-- A text in quotes, or the word for its absence. -/
def quotedReference :
    Option Text →
    String
  | some text =>
      text.quoted
  | none =>
      "None"

/-- The warning about a copy on a node that nobody knows. -/
def strayWarning
    (shard : Shard) :
    Message :=
  Message.naming shard.number fun number =>
    "Shard " ++ shard.index.shown ++ "[" ++ number ++
      "] references unknown node " ++ quotedReference shard.node ++
      ", placing it in the unknown-node bucket"

namespace Snapshot

/-- The snapshot of an inventory, when all of its warnings can be written. -/
def ofInventory
    (inventory : Inventory) :
    Snapshot :=
  let placement := Placement.ofInventory inventory
  { nodes := placement.hosts [] inventory.nodes
    unknown :=
      { node := .unknown
        placed := placement.unknown.sorted }
    unassigned := placement.unassigned
    indices := inventory.indices }

/-- The warnings that building a snapshot gives, in the order of the copies. -/
def warnings
    (inventory : Inventory) :
    List Message :=
  (Placement.ofInventory inventory).strays.map strayWarning

/-- Build the snapshot of an inventory, with a warning for each stray copy. -/
def build
    (inventory : Inventory) :
    Except Text.LongInteger Snapshot :=
  Message.given (warnings inventory) (ofInventory inventory)

end Snapshot

end ShardAtlas
