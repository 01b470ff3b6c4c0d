import ShardAtlas.Proofs.Conservation
import ShardAtlas.Proofs.RoutedCopies

namespace ShardAtlas.Payload

/-!
# Counts of indices and copies of indices

The summary of an index gives the numbers of its primaries and replicas, which are counted in
the routing table. The copies of a snapshot come from the same table, but by another way, and
stand by nodes there. Here both are counted in the list of routed copies, where an index has
one stretch, as it is in the table once.
-/

/-- The copies under an index are those of its keys, one key after the other. -/
theorem map_copy_routedUnder
    (index : String)
    (numbers : OrderedMap String (List RawCopy)) :
    (routedUnder index numbers).map RoutedCopy.copy =
      numbers.values.flatten := by
  unfold routedUnder OrderedMap.values
  rw [List.map_flatMap, List.flatMap_def]
  simp only [List.map_map, Function.comp_def, List.map_id_fun', id_eq]

/-- Of the copies under an index, all are of that index and none of another one. -/
theorem filter_index_routedUnder
    (index other : String)
    (numbers : OrderedMap String (List RawCopy)) :
    ((routedUnder other numbers).filter fun routed =>
        routed.index = index) =
      if other = index then routedUnder other numbers else [] := by
  have ofOther
      (routed : RoutedCopy)
      (member : routed ∈ routedUnder other numbers) :
      routed.index = other := by
    simp only [routedUnder, List.mem_flatMap, List.mem_map] at member
    obtain ⟨_, _, _, _, rfl⟩ := member
    rfl
  split
  · next same =>
      rw [List.filter_eq_self]
      intro routed member
      rw [ofOther routed member, decide_eq_true_eq]
      exact same
  · next different =>
      rw [List.filter_eq_nil_iff]
      intro routed member
      rw [ofOther routed member, decide_eq_true_eq]
      exact different

/-- The copies of an index are those under it in the routing table, which has it once. -/
theorem RawRouting.filter_index_copies
    (routing : RawRouting)
    (index : String) :
    (routing.copies.filter fun routed => routed.index = index) =
      ((routing.indices.get? index).map (routedUnder index)).getD [] := by
  rcases routing with ⟨master, entries, distinct⟩
  simp only [copies, OrderedMap.get?]
  induction entries with
  | nil =>
      rfl
  | cons entry rest inductionHypothesis =>
      rcases entry with ⟨other, numbers⟩
      obtain ⟨once, distinctRest⟩ := List.nodup_cons.mp distinct
      have later := inductionHypothesis distinctRest
      rw [List.flatMap_cons, List.filter_append,
        filter_index_routedUnder, later]
      by_cases same : other = index
      · -- No later index is the same, so the rest has no copy of it.
        subst same
        have absent :
            (rest.find? fun entry => entry.1 = other) = none := by
          rw [List.find?_eq_none]
          intro entry member isSame
          exact
            once
              (List.mem_map.mpr ⟨entry, member, of_decide_eq_true isSame⟩)
        simp [absent]
      · simp [same]

/-- The copies of an index with a role are counted under the index. -/
theorem RawRouting.countP_copies
    (routing : RawRouting)
    (index : String)
    (primary : Bool) :
    (routing.copies.countP fun routed =>
        routed.index = index ∧ routed.copy.primary = primary) =
      ((routing.indices.get? index).map fun numbers =>
        numbers.values.flatten.countP fun copy =>
          copy.primary = primary).getD 0 := by
  have split :
      (routing.copies.countP fun routed =>
          routed.index = index ∧ routed.copy.primary = primary) =
        (routing.copies.filter fun routed =>
          routed.index = index).countP fun routed =>
            routed.copy.primary = primary := by
    simp only [List.countP_filter, Bool.decide_and, Bool.and_comm]
  rw [split, routing.filter_index_copies]
  cases routing.indices.get? index with
  | none =>
      rfl
  | some numbers =>
      simp only [Option.map_some, Option.getD_some]
      rw [← map_copy_routedUnder index, List.countP_map]
      rfl

/-- The summary of an index in the routing table counts its copies by their roles. -/
theorem copyCounts_of_routed
    {raw : RawInventory}
    {index : String}
    (routed : index ∈ raw.routing.indices.keys)
    (stats : RawIndexStats) :
    copyCounts raw index stats =
      (raw.routing.copies.countP fun routed =>
          routed.index = index ∧ routed.copy.primary = true,
        raw.routing.copies.countP fun routed =>
          routed.index = index ∧ routed.copy.primary = false) := by
  rw [OrderedMap.mem_keys_iff_isSome_get?,
    Option.isSome_iff_exists] at routed
  obtain ⟨numbers, found⟩ := routed
  simp only [copyCounts, RawRouting.countP_copies, found,
    Option.map_some, Option.getD_some]
  have both :=
    List.length_eq_countP_add_countP RawCopy.primary
      (l := numbers.values.flatten)
  simp only [Bool.not_eq_true] at both
  simp only [Prod.mk.injEq, Bool.decide_eq_true, true_and]
  omega

namespace RoutedCopy

/-- Shards that are the records of routed copies have the same indices and roles. -/
theorem countP_recorded
    {copies : List RoutedCopy}
    {shards : List Shard}
    (recorded : List.Forall₂ IsRecordedAs copies shards)
    (index : String)
    (primary : Bool) :
    (shards.countP fun shard =>
        shard.index = (index : Text) ∧ shard.primary = primary) =
      copies.countP fun routed =>
        routed.index = index ∧ routed.copy.primary = primary := by
  induction recorded with
  | nil =>
      rfl
  | cons isRecord _ inductionHypothesis =>
      rw [List.countP_cons, List.countP_cons, inductionHypothesis,
        isRecord.index, isRecord.primary]
      simp only [Text.mk.injEq, and_true]

end RoutedCopy

/-- A summary has the name of an index and the counts that are made for it. -/
theorem exists_copyCounts_of_join
    {raw : RawInventory}
    {inventory : Inventory}
    (joined : raw.join = .ok inventory)
    {summary : IndexSummary}
    (member : summary ∈ inventory.indices) :
    ∃ (index : String) (stats : RawIndexStats),
      summary.name = (index : Text) ∧
        summary.primaryShards = (copyCounts raw index stats).1 ∧
        summary.replicaShards = (copyCounts raw index stats).2 := by
  rw [(RawInventory.join_eq_ok_iff.mp joined).2.2] at member
  obtain ⟨⟨index, stats⟩, _, rfl⟩ := List.mem_map.mp member
  exact ⟨index, stats, rfl, rfl, rfl⟩

/--
The summaries of indices count what the snapshot shows.

An index in the routing table has as many primaries and replicas as its summary says, and one
that is not there has no copy. There is one shard for each routed copy, in the order of the
table, and the snapshot has as many. Indices are members of the documents, with names that have
no unpaired surrogates.
-/
theorem summaries_count_copies
    {documents : RawDocuments}
    {inventory : Inventory}
    (isRead : documents.read = .ok inventory) :
    ∃ raw,
      documents.check = .ok raw ∧
        let built := Snapshot.ofInventory inventory
        (∀ summary ∈ built.indices,
          (summary.name ∈ raw.routing.indexNames →
            summary.primaryShards =
                (built.shards.countP fun shard =>
                  shard.index = summary.name ∧ shard.primary = true) ∧
              summary.replicaShards =
                (built.shards.countP fun shard =>
                  shard.index = summary.name ∧ shard.primary = false)) ∧
          (summary.name ∉ raw.routing.indexNames →
            ∀ shard ∈ built.shards, shard.index ≠ summary.name)) ∧
          built.shardCount = raw.routing.copies.length ∧
          List.Forall₂ RoutedCopy.IsRecordedAs raw.routing.copies
            inventory.shards := by
  obtain ⟨raw, passed, joined⟩ :=
    RawDocuments.read_eq_ok_iff.mp isRead
  have recorded := RawInventory.recorded_of_join joined
  have kept := Snapshot.shards_ofInventory_perm inventory
  refine ⟨raw, passed, ?_, ?_, recorded⟩
  · intro summary member
    obtain ⟨index, stats, isIndex, primaries, replicas⟩ :=
      exists_copyCounts_of_join joined member
    simp only [isIndex, primaries, replicas, RawRouting.indexNames,
      List.mem_map, Text.mk.injEq, and_true, exists_eq_right,
      kept.countP_eq, RoutedCopy.countP_recorded recorded]
    constructor
    · intro routed
      rw [copyCounts_of_routed routed]
      exact ⟨rfl, rfl⟩
    · intro notRouted shard isShown ofIndex
      -- No role of the index is counted in the table, but the shard has one.
      rw [OrderedMap.mem_keys_iff_isSome_get?,
        Option.not_isSome_iff_eq_none] at notRouted
      have counted :=
        RoutedCopy.countP_recorded recorded index shard.primary
      rw [raw.routing.countP_copies, notRouted, Option.map_none,
        Option.getD_none, List.countP_eq_zero] at counted
      exact
        counted shard (kept.mem_iff.mp isShown)
          (decide_eq_true ⟨ofIndex, rfl⟩)
  · exact kept.length_eq.trans recorded.length_eq.symm

/-- Raw documents of an index with two keys for one number, and of a closed index. -/
def doubledKeys : RawDocuments :=
  { nodes := .object [("nodes", .object [("a", .object [])])]
    nodesStats := .object []
    routing :=
      routingJson
        [ ("logs",
            [ ("0",
                [ copyJson "STARTED" true (.text "a"),
                  copyJson "UNASSIGNED" false .null ]),
              ("00", [copyJson "STARTED" true (.text "b")]) ]) ]
    indicesStats :=
      .object
        [ ("indices",
            .object
              [ ("logs", .object []),
                ("old",
                  .object
                    [("shards", .object [("0", .array [])])]) ]) ] }

/-- What the documents with two keys for one number say. -/
def doubledInventory : Inventory :=
  { nodes := [{ id := "a", name := "a" }]
    shards :=
      [ { index := "logs", number := 0, primary := true, state := .started,
          node := some "a" },
        { index := "logs", number := 0, primary := false,
          state := .unassigned },
        { index := "logs", number := 0, primary := true, state := .started,
          node := some "b" } ]
    indices :=
      [ { name := "logs", health := "yellow", status := .opened,
          primaryShards := 2, replicaShards := 1 },
        { name := "old", health := "yellow", status := .opened,
          primaryShards := 1 } ] }

/-- Both keys of a number count, and a closed index has a primary but no copy. -/
theorem counts_of_doubledKeys :
    let built := Snapshot.ofInventory doubledInventory
    doubledKeys.read = .ok doubledInventory ∧
      (built.shards.countP fun shard =>
        shard.index = ("logs" : Text) ∧ shard.primary = true) = 2 ∧
      (built.shards.countP fun shard =>
        shard.index = ("logs" : Text) ∧ shard.primary = false) = 1 ∧
      (∀ shard ∈ built.shards, shard.index ≠ ("old" : Text)) ∧
      built.shardCount = 3 := by
  intro built
  have isRead : doubledKeys.read = .ok doubledInventory := by
    rfl
  obtain ⟨raw, passed, counts, total, _⟩ :=
    summaries_count_copies isRead
  obtain ⟨names, copies⟩ :
      raw.routing.indexNames = [("logs" : Text)] ∧
        raw.routing.copies.length = 3 := by
    cases passed
    exact ⟨rfl, rfl⟩
  rw [names] at counts
  obtain ⟨primaries, replicas⟩ :=
    (counts _ (List.mem_cons_self ..)).1 (by decide)
  have noneOfOld :=
    (counts _ (List.mem_cons_of_mem _ (List.mem_cons_self ..))).2
      (by decide)
  refine ⟨isRead, ?_, ?_, noneOfOld, total.trans copies⟩
  · exact (Int.ofNat_inj.mp primaries).symm
  · exact (Int.ofNat_inj.mp replicas).symm

end ShardAtlas.Payload
