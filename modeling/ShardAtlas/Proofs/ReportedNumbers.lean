import ShardAtlas.Proofs.CopyFigures
import ShardAtlas.Proofs.ShardNumbers

namespace ShardAtlas

/-!
# Numbers below zero

A flat document is refused if a number in it is negative. Raw documents are not: their numbers
are checked to be integers and nothing more. Some numbers of an inventory are counted or cut
off at zero on the way, and cannot be negative. The others are taken over as they are, so they
are not negative just if what was reported is not, as far as anything is made of it.
-/

/-- A node without negative sizes. -/
structure Node.NoneNegative
    (node : Node) :
    Prop where
  heapUsed : 0 ≤ node.heapUsed
  heapMax : 0 ≤ node.heapMax
  diskUsed : 0 ≤ node.diskUsed
  diskTotal : 0 ≤ node.diskTotal

/-- A shard copy without negative numbers. -/
structure Shard.NoneNegative
    (shard : Shard) :
    Prop where
  number : 0 ≤ shard.number
  documents : 0 ≤ shard.documents
  bytes : 0 ≤ shard.bytes

/-- An inventory without negative numbers. -/
structure Inventory.NoneNegative
    (inventory : Inventory) :
    Prop where
  nodes : ∀ node ∈ inventory.nodes, node.NoneNegative
  shards : ∀ shard ∈ inventory.shards, shard.NoneNegative
  indices : ∀ index ∈ inventory.indices, index.WellFormed

/-- Well-formed records have no negative numbers. -/
theorem Inventory.WellFormed.noneNegative
    {inventory : Inventory}
    (wellFormed : inventory.WellFormed) :
    inventory.NoneNegative where
  nodes node member :=
    let ⟨_, heapUsed, heapMax, diskUsed, diskTotal⟩ :=
      wellFormed.nodes node member
    ⟨heapUsed, heapMax, diskUsed, diskTotal⟩
  shards shard member :=
    let ⟨number, documents, bytes, _⟩ := wellFormed.shards shard member
    ⟨number, documents, bytes⟩
  indices := wellFormed.indices

namespace Payload

/--
Checked raw documents without a negative number that is taken over.

These are the numbers of the nodes that there are, the available disk apart, of the entries that
are matched with a copy, and of the indices.
-/
structure RawInventory.NoneNegative
    (raw : RawInventory) :
    Prop where
  nodes :
    ∀ id ∈ raw.nodes.keys,
      ∀ stats ∈ raw.nodesStats.get? id,
        0 ≤ stats.heapUsed ∧ 0 ≤ stats.heapMax ∧ 0 ≤ stats.diskTotal
  copies :
    ∀ routed ∈ raw.routing.copies,
      ∀ entry ∈ matchStats? (raw.statsFor routed) routed.copy,
        0 ≤ entry.documents ∧ 0 ≤ entry.bytes
  indices :
    ∀ stats ∈ raw.indicesStats.values,
      0 ≤ stats.documents ∧ 0 ≤ stats.bytes

/-- The disk that a node uses is cut off at zero. -/
theorem diskUsed_joinNode_nonneg
    (raw : RawInventory)
    (id : String)
    (node : RawNode) :
    0 ≤ (joinNode raw id node).diskUsed :=
  Int.le_max_right ..

/-- The sizes of a node are those of its statistics, which may be missing. -/
theorem noneNegative_joinNode_iff
    (raw : RawInventory)
    (id : String)
    (node : RawNode) :
    (joinNode raw id node).NoneNegative ↔
      ∀ stats ∈ raw.nodesStats.get? id,
        0 ≤ stats.heapUsed ∧ 0 ≤ stats.heapMax ∧ 0 ≤ stats.diskTotal := by
  have diskUsed := diskUsed_joinNode_nonneg raw id node
  cases found : raw.nodesStats.get? id with
  | none =>
      refine iff_of_true ⟨?_, ?_, diskUsed, ?_⟩ nofun <;>
        simp [joinNode, found]
  | some stats =>
      have sizes :
          (joinNode raw id node).heapUsed = stats.heapUsed ∧
            (joinNode raw id node).heapMax = stats.heapMax ∧
            (joinNode raw id node).diskTotal = stats.diskTotal := by
        simp [joinNode, found]
      obtain ⟨heapUsed, heapMax, diskTotal⟩ := sizes
      constructor
      · rintro noneNegative _ ⟨⟩
        exact
          ⟨heapUsed ▸ noneNegative.heapUsed,
            heapMax ▸ noneNegative.heapMax,
            diskTotal ▸ noneNegative.diskTotal⟩
      · intro noneNegative
        obtain ⟨usedStats, maxStats, totalStats⟩ := noneNegative stats rfl
        exact
          ⟨heapUsed ▸ usedStats, heapMax ▸ maxStats, diskUsed,
            diskTotal ▸ totalStats⟩

/-- The numbers of a copy under a shard number are those of the entry that is matched with it. -/
theorem noneNegative_iff_of_joinRouted
    {raw : RawInventory}
    {routed : RoutedCopy}
    {shard : Shard}
    (isNumber : isShardNumber routed.key = true)
    (isShard : raw.joinRouted routed = .ok shard) :
    shard.NoneNegative ↔
      ∀ entry ∈ matchStats? (raw.statsFor routed) routed.copy,
        0 ≤ entry.documents ∧ 0 ≤ entry.bytes := by
  obtain ⟨recorded, documents, bytes⟩ :=
    RawInventory.joinRouted_eq_ok_iff.mp isShard
  have number := nonneg_of_isShardNumber isNumber recorded.number
  cases found : matchStats? (raw.statsFor routed) routed.copy with
  | none =>
      have noDocuments : shard.documents = 0 := by
        simpa [found] using documents
      have noBytes : shard.bytes = 0 := by
        simpa [found] using bytes
      exact
        iff_of_true
          ⟨number, Int.le_of_eq noDocuments.symm,
            Int.le_of_eq noBytes.symm⟩
          nofun
  | some entry =>
      have ofDocuments : shard.documents = entry.documents := by
        simpa [found] using documents
      have ofBytes : shard.bytes = entry.bytes := by
        simpa [found] using bytes
      constructor
      · rintro noneNegative _ ⟨⟩
        exact
          ⟨ofDocuments ▸ noneNegative.documents,
            ofBytes ▸ noneNegative.bytes⟩
      · intro noneNegative
        obtain ⟨documentsStats, bytesStats⟩ := noneNegative entry rfl
        exact
          ⟨number, ofDocuments ▸ documentsStats, ofBytes ▸ bytesStats⟩

/-- The copies of an index are counted, and its other numbers are those of its statistics. -/
theorem wellFormed_joinIndex_iff
    (raw : RawInventory)
    (index : String)
    (stats : RawIndexStats) :
    (joinIndex raw index stats).WellFormed ↔
      0 ≤ stats.documents ∧ 0 ≤ stats.bytes := by
  constructor
  · rintro ⟨_, _, documents, bytes⟩
    exact ⟨documents, bytes⟩
  · rintro ⟨documents, bytes⟩
    exact
      ⟨Int.natCast_nonneg _, Int.natCast_nonneg _, documents, bytes⟩

/-- The records of raw documents are without negative numbers just if the documents are. -/
theorem noneNegative_iff_of_join
    {raw : RawInventory}
    {inventory : Inventory}
    (areNumbers :
      ∀ routed ∈ raw.routing.copies, isShardNumber routed.key = true)
    (joined : raw.join = .ok inventory) :
    inventory.NoneNegative ↔ raw.NoneNegative := by
  obtain ⟨nodes, pairs, indices⟩ := RawInventory.join_eq_ok_iff.mp joined
  have ofNodes :
      (∀ node ∈ inventory.nodes, node.NoneNegative) ↔
        ∀ id ∈ raw.nodes.keys,
          ∀ stats ∈ raw.nodesStats.get? id,
            0 ≤ stats.heapUsed ∧ 0 ≤ stats.heapMax ∧ 0 ≤ stats.diskTotal := by
    simp only [nodes, OrderedMap.keys, List.forall_mem_map,
      noneNegative_joinNode_iff]
  have ofShards :
      (∀ shard ∈ inventory.shards, shard.NoneNegative) ↔
        ∀ routed ∈ raw.routing.copies,
          ∀ entry ∈ matchStats? (raw.statsFor routed) routed.copy,
            0 ≤ entry.documents ∧ 0 ≤ entry.bytes :=
    forall_mem_iff_of_forall₂
      (fun _ _ both => noneNegative_iff_of_joinRouted both.1 both.2)
      ((List.forall₂_and_left _ _).mpr ⟨areNumbers, pairs⟩)
  have ofIndices :
      (∀ index ∈ inventory.indices, index.WellFormed) ↔
        ∀ stats ∈ raw.indicesStats.values,
          0 ≤ stats.documents ∧ 0 ≤ stats.bytes := by
    simp only [indices, OrderedMap.values, List.forall_mem_map,
      wellFormed_joinIndex_iff]
  constructor
  · rintro ⟨ofNode, ofShard, ofIndex⟩
    exact ⟨ofNodes.mp ofNode, ofShards.mp ofShard, ofIndices.mp ofIndex⟩
  · rintro ⟨ofNode, ofCopy, ofIndex⟩
    exact ⟨ofNodes.mpr ofNode, ofShards.mpr ofCopy, ofIndices.mpr ofIndex⟩

/--
A flat document gives no negative numbers, and raw documents only those that they report.

No negative numbers are made of raw documents: the disk that nodes use, the numbers of shards
and those of primaries and replicas are never negative, and the others are not if none of the
reported ones that are taken over is. Raw documents report them under names of members, which
have no unpaired surrogates.
-/
theorem numbers_noneNegative_iff
    (document : Json)
    (documents : RawDocuments)
    (inventory : Inventory) :
    (readFlat document = .ok inventory → inventory.NoneNegative) ∧
      (documents.read = .ok inventory →
        (∀ node ∈ inventory.nodes, 0 ≤ node.diskUsed) ∧
          (∀ shard ∈ inventory.shards, 0 ≤ shard.number) ∧
          (∀ index ∈ inventory.indices,
            0 ≤ index.primaryShards ∧ 0 ≤ index.replicaShards) ∧
          ∃ raw,
            documents.check = .ok raw ∧
              (inventory.NoneNegative ↔ raw.NoneNegative)) := by
  constructor
  · intro isRead
    have passed := Checked.toShape_eq_ok_iff.mp isRead
    exact (ensures_flatDocument document inventory passed).noneNegative
  · intro isRead
    obtain ⟨raw, passed, joined⟩ := RawDocuments.read_eq_ok_iff.mp isRead
    have areNumbers := RawDocuments.isShardNumber_of_check passed
    obtain ⟨nodes, pairs, indices⟩ :=
      RawInventory.join_eq_ok_iff.mp joined
    refine
      ⟨?_, ?_, ?_, raw, passed,
        noneNegative_iff_of_join areNumbers joined⟩
    · rw [nodes, List.forall_mem_map]
      exact fun entry _ => diskUsed_joinNode_nonneg raw entry.1 entry.2
    · refine
        forall_mem_of_forall₂ ?_
          ((List.forall₂_and_left _ _).mpr ⟨areNumbers, pairs⟩)
      rintro routed shard ⟨isNumber, isShard⟩
      have recorded := (RawInventory.joinRouted_eq_ok_iff.mp isShard).1
      exact nonneg_of_isShardNumber isNumber recorded.number
    · rw [indices, List.forall_mem_map]
      exact fun entry _ =>
        ⟨Int.natCast_nonneg _, Int.natCast_nonneg _⟩

/--
Raw documents with a copy on one node, and an entry of less than no documents.

The entry is about a copy on a node of choice. More disk is available than there is.
-/
def negativeEntryFor
    (node : String) :
    RawDocuments :=
  { nodes := .object [("nodes", .object [("a", .object [])])]
    nodesStats :=
      .object
        [ ("nodes",
            .object
              [ ("a",
                  .object
                    [ ("fs",
                        .object
                          [ ("total",
                              .object
                                [ ("total_in_bytes", .integer 10),
                                  ("available_in_bytes",
                                    .integer 30) ]) ]) ]) ]) ]
    routing :=
      routingJson
        [("logs", [("0", [copyJson "STARTED" true (.text "a")])])]
    indicesStats :=
      .object
        [ ("indices",
            .object
              [ ("logs",
                  .object
                    [ ("shards",
                        .object
                          [ ("0",
                              .array
                                [ statsJson (-1) 0
                                    [placeJson true node] ]) ]) ]) ]) ] }

/-- An inventory of one node with one copy of some documents. -/
def oneCopyOf
    (documents : Int) :
    Inventory :=
  { nodes :=
      [ { id := "a"
          name := "a"
          diskTotal := 10 } ]
    shards :=
      [ { index := "logs", number := 0, primary := true, state := .started,
          node := some "a", documents := documents } ]
    indices :=
      [ { name := "logs", health := "yellow", status := .opened,
          primaryShards := 1 } ] }

/-- A flat document with one copy under the number minus zero, written as a text. -/
def minusZero : Json :=
  .object
    [ ("shards",
        .array
          [ .object
              [ ("index", .text "logs"),
                ("shard", .text "-0"),
                ("primary", .boolean true),
                ("state", .text "UNASSIGNED"),
                ("docs", .null) ] ]) ]

/-- What the document with the number minus zero tells. -/
def minusZeroInventory : Inventory :=
  { nodes := []
    shards :=
      [ { index := "logs", number := 0, primary := true,
          state := .unassigned } ]
    indices := [] }

/-- A negative entry about no copy that there is does not show. -/
theorem noneNegative_of_strangeEntry :
    readFlat minusZero = .ok minusZeroInventory ∧
      minusZeroInventory.NoneNegative ∧
      (negativeEntryFor "b").read = .ok (oneCopyOf 0) ∧
      (oneCopyOf 0).NoneNegative := by
  have isFlat : readFlat minusZero = .ok minusZeroInventory := by
    rfl
  have isRead : (negativeEntryFor "b").read = .ok (oneCopyOf 0) := by
    rfl
  obtain ⟨ofFlat, _⟩ :=
    numbers_noneNegative_iff minusZero (negativeEntryFor "b")
      minusZeroInventory
  obtain ⟨_, ofRaw⟩ :=
    numbers_noneNegative_iff minusZero (negativeEntryFor "b") (oneCopyOf 0)
  obtain ⟨_, _, _, raw, passed, alike⟩ := ofRaw isRead
  refine ⟨isFlat, ofFlat isFlat, isRead, alike.mpr ?_⟩
  cases passed
  constructor <;> decide

/-- A negative entry about a copy is taken over. -/
theorem negative_of_ownEntry :
    (negativeEntryFor "a").read = .ok (oneCopyOf (-1)) ∧
      ¬ (oneCopyOf (-1)).NoneNegative := by
  refine ⟨rfl, ?_⟩
  intro noneNegative
  have documents :=
    (noneNegative.shards _ (List.mem_singleton_self _)).documents
  revert documents
  decide

end Payload

end ShardAtlas
