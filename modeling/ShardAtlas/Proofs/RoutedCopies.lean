import ShardAtlas.Payload.Joined
import ShardAtlas.Proofs.CheckedParts
import ShardAtlas.Proofs.Traversal

namespace ShardAtlas.Payload

/-!
# The copies of a routing table

A routing table has its copies under indices and keys, and reading goes through the levels one
inside the other. Here the copies are one list, in the order of the table, each with the index
and the key that it is under. An inventory has one shard for each of them, made of the copy
alone and of the statistics under its index and key.
-/

/-- A copy in the routing table, with the index and the key that it is under. -/
structure RoutedCopy where
  index : String
  key : String
  copy : RawCopy
  deriving Repr, DecidableEq

/-- The copies of an index, key after key. -/
def routedUnder
    (index : String)
    (numbers : OrderedMap String (List RawCopy)) :
    List RoutedCopy :=
  numbers.entries.flatMap fun (key, copies) =>
    copies.map fun copy => ⟨index, key, copy⟩

namespace RawRouting

/-- All copies of a routing table, index after index and key after key. -/
def copies
    (routing : RawRouting) :
    List RoutedCopy :=
  routing.indices.entries.flatMap fun (index, numbers) =>
    routedUnder index numbers

/-- The names of the indices in a routing table. -/
def indexNames
    (routing : RawRouting) :
    List Text :=
  routing.indices.keys.map fun (index : String) => (index : Text)

end RawRouting

/-- Whether a shard is the record of a routed copy, its statistics apart. -/
structure RoutedCopy.IsRecordedAs
    (routed : RoutedCopy)
    (shard : Shard) : Prop where
  index : shard.index = (routed.index : Text)
  number : Text.readInteger routed.key = .ok shard.number
  primary : shard.primary = routed.copy.primary
  state : shard.state = routed.copy.state
  node : shard.node = routed.copy.node
  relocatingTo : shard.relocatingTo = routed.copy.relocatingTo

namespace RawInventory

/-- The statistics under the index and the key of a routed copy. -/
def statsFor
    (raw : RawInventory)
    (routed : RoutedCopy) :
    List RawCopyStats :=
  candidatesFor raw routed.index routed.key

/-- The shard of one routed copy. -/
def joinRouted
    (raw : RawInventory)
    (routed : RoutedCopy) :
    Except RawFault Shard := do
  let number ← shardNumber routed.key
  pure (joinCopy (raw.statsFor routed) routed.index number routed.copy)

/-- Shards are read copy by copy, in the order of the routing table. -/
theorem joinShards_eq_mapM
    (raw : RawInventory) :
    joinShards raw = raw.routing.copies.mapM raw.joinRouted := by
  have ofKey
      (index key : String)
      (copies : List RawCopy) :
      (copies.map (RoutedCopy.mk index key)).mapM raw.joinRouted =
        joinCopies raw index key copies :=
    List.mapM_map
  have ofIndex
      (index : String)
      (numbers : OrderedMap String (List RawCopy)) :
      (routedUnder index numbers).mapM raw.joinRouted =
        List.flatten <$>
          numbers.entries.mapM fun entry =>
            joinCopies raw index entry.1 entry.2 := by
    rw [routedUnder, mapM_flatMap]
    simp only [ofKey]
  rw [RawRouting.copies, mapM_flatMap]
  simp only [ofIndex, mapM_map_eq, Functor.map_map]
  simp only [joinShards, ← List.flatten_flatten]
  rfl

/-- What is joined of one routed copy is its record, with the statistics found for it. -/
theorem joinRouted_eq_ok_iff
    {raw : RawInventory}
    {routed : RoutedCopy}
    {shard : Shard} :
    raw.joinRouted routed = .ok shard ↔
      routed.IsRecordedAs shard ∧
        let stats := matchStats? (raw.statsFor routed) routed.copy
        shard.documents = (stats.map RawCopyStats.documents).getD 0 ∧
          shard.bytes = (stats.map RawCopyStats.bytes).getD 0 := by
  unfold joinRouted shardNumber
  cases read : Text.readInteger routed.key with
  | error cause =>
      refine iff_of_false nofun ?_
      rintro ⟨recorded, _⟩
      rw [recorded.number] at read
      cases read
  | ok number =>
      constructor
      · rintro ⟨⟩
        exact ⟨⟨rfl, read, rfl, rfl, rfl, rfl⟩, rfl, rfl⟩
      · rintro ⟨recorded, documents, bytes⟩
        obtain rfl : number = shard.number :=
          Except.ok.inj (read.symm.trans recorded.number)
        rcases shard with ⟨_, _, _, _, _, _, _, _⟩
        obtain ⟨rfl, _, rfl, rfl, rfl, rfl⟩ := recorded
        obtain rfl := documents
        obtain rfl := bytes
        rfl

/-- An inventory is joined just if a shard is for each routed copy, in their order. -/
theorem join_eq_ok_iff
    {raw : RawInventory}
    {inventory : Inventory} :
    raw.join = .ok inventory ↔
      inventory.nodes =
          raw.nodes.entries.map (fun entry =>
            joinNode raw entry.1 entry.2) ∧
        List.Forall₂
          (fun routed shard => raw.joinRouted routed = .ok shard)
          raw.routing.copies inventory.shards ∧
        inventory.indices =
          raw.indicesStats.entries.map fun entry =>
            joinIndex raw entry.1 entry.2 := by
  rw [← mapM_eq_ok_iff, ← joinShards_eq_mapM, join, bind_eq_ok_iff]
  constructor
  · rintro ⟨_, shards, ⟨⟩⟩
    exact ⟨rfl, shards, rfl⟩
  · rintro ⟨nodes, shards, indices⟩
    rcases inventory with ⟨_, _, _⟩
    obtain rfl := nodes
    obtain rfl := indices
    exact ⟨_, shards, rfl⟩

/-- An inventory that is joined has one shard for each routed copy, in their order. -/
theorem recorded_of_join
    {raw : RawInventory}
    {inventory : Inventory}
    (joined : raw.join = .ok inventory) :
    List.Forall₂ RoutedCopy.IsRecordedAs raw.routing.copies
      inventory.shards :=
  (join_eq_ok_iff.mp joined).2.1.imp fun _ _ isShard =>
    (joinRouted_eq_ok_iff.mp isShard).1

end RawInventory

/-- The raw documents pass just if each of them does. -/
theorem RawDocuments.check_eq_ok_iff
    {documents : RawDocuments}
    {raw : RawInventory} :
    documents.check = .ok raw ↔
      rawNodes documents.nodes = .passed raw.nodes ∧
        rawNodesStats documents.nodesStats = .passed raw.nodesStats ∧
        rawRouting documents.routing = .passed raw.routing ∧
        rawIndicesStats documents.indicesStats =
          .passed raw.indicesStats := by
  unfold check
  simp only [bind_eq_ok_iff, Checked.toShape_eq_ok_iff]
  constructor
  · rintro ⟨_, nodes, _, nodesStats, _, routing, _, indicesStats, ⟨⟩⟩
    exact ⟨nodes, nodesStats, routing, indicesStats⟩
  · rintro ⟨nodes, nodesStats, routing, indicesStats⟩
    exact
      ⟨_, nodes, _, nodesStats, _, routing, _, indicesStats, rfl⟩

/-- Documents give an inventory just if they pass their checks and are joined to it. -/
theorem RawDocuments.read_eq_ok_iff
    {documents : RawDocuments}
    {inventory : Inventory} :
    documents.read = .ok inventory ↔
      ∃ raw, documents.check = .ok raw ∧ raw.join = .ok inventory := by
  unfold read
  cases documents.check with
  | error fault =>
      exact iff_of_false nofun fun ⟨_, passed, _⟩ => nomatch passed
  | ok raw =>
      constructor
      · intro joined
        exact ⟨raw, rfl, joined⟩
      · rintro ⟨_, ⟨⟩, joined⟩
        exact joined

/-! ## Routing tables written as documents -/

/-- A copy in a routing table. -/
def copyJson
    (state : String)
    (primary : Bool)
    (node : Json) :
    Json :=
  .object
    [ ("state", .text state),
      ("primary", .boolean primary),
      ("node", node) ]

/-- A routing table of some indices, with the copies under each key. -/
def routingJson
    (indices : List (String × List (String × List Json))) :
    Json :=
  let keysJson (keys : List (String × List Json)) : Json :=
    .object (keys.map fun (key, copies) => (key, .array copies))
  let indicesJson : Json :=
    .object
      (indices.map fun (index, keys) =>
        (index, .object [("shards", keysJson keys)]))
  .object [("routing_table", .object [("indices", indicesJson)])]

end ShardAtlas.Payload
