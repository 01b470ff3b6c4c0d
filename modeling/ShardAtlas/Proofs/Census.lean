import Mathlib.Algebra.GroupWithZero.Nat
import ShardAtlas.Proofs.Conservation
import ShardAtlas.Snapshot.Census

namespace ShardAtlas

/-!
# Views and what they are views of

Each view of a snapshot goes through the copies in a way of its own: state by state, node by
node, or filtered. Here all of them are told by the list of copies as it was reported, which
is possible as a snapshot has every reported copy once and as no view depends on the order in
which it goes.
-/

/-- Counting by states gives each state the number of copies in it. -/
theorem get?_countByState
    (shards : List Shard)
    (state : ShardState) :
    ((countByState shards).get? state).getD 0 =
      shards.countP fun shard => shard.state = state := by
  have further
      (counts : OrderedMap ShardState Nat) :
      ((shards.foldl
        (fun counts shard =>
          counts.alter shard.state fun count => count.getD 0 + 1)
        counts).get? state).getD 0 =
        (counts.get? state).getD 0 +
          shards.countP fun shard => shard.state = state := by
    induction shards generalizing counts with
    | nil =>
        simp
    | cons shard rest inductionHypothesis =>
        rw [List.foldl_cons, inductionHypothesis,
          OrderedMap.get?_alter, List.countP_cons]
        by_cases same : shard.state = state
        · subst same
          simp only [if_true, Option.getD_some, decide_true]
          omega
        · simp [same, Ne.symm same]
  simpa [countByState] using further .empty

/-- A copy is unsettled in every state but the started one. -/
theorem Shard.isUnsettled_iff
    (shard : Shard) :
    shard.isUnsettled = true ↔ shard.state ≠ .started := by
  unfold isUnsettled ShardState.unsettled
  cases shard.state <;> simp

/-- The totals of some copies, each of them counted by itself. -/
def ShardTotals.ofShards
    (shards : List Shard) :
    ShardTotals :=
  { total := shards.length
    primary := shards.countP fun shard => shard.primary = true
    replica := shards.countP fun shard => shard.primary = false
    unassigned := shards.countP fun shard => shard.state = .unassigned
    relocating := shards.countP fun shard => shard.state = .relocating
    initializing :=
      shards.countP fun shard => shard.state = .initializing }

/-- The totals of copies do not depend on their order. -/
theorem ShardTotals.ofShards_of_perm
    {first second : List Shard}
    (same : first.Perm second) :
    ofShards first = ofShards second := by
  simp only [ofShards, same.length_eq, same.countP_eq]

namespace Snapshot

/-- The totals of a snapshot are those of its copies. -/
theorem totals_eq_ofShards
    (snapshot : Snapshot) :
    snapshot.totals = ShardTotals.ofShards snapshot.shards := by
  have primaries :
      snapshot.shards.countP Shard.primary =
        snapshot.shards.countP fun shard => shard.primary = true := by
    simp
  have replicas :
      snapshot.shards.length -
          (snapshot.shards.countP fun shard => shard.primary = true) =
        snapshot.shards.countP fun shard => shard.primary = false := by
    have both :=
      List.length_eq_countP_add_countP Shard.primary (l := snapshot.shards)
    simp only [Bool.not_eq_true] at both
    omega
  simp only [totals, ShardTotals.ofShards, get?_countByState, primaries,
    replicas]

/-- The copies of a snapshot are those on its nodes, the stray and the unassigned ones. -/
theorem length_shards
    (snapshot : Snapshot) :
    snapshot.shards.length =
      (snapshot.nodes.map HostedNode.shardCount).sum +
        snapshot.unknown.shardCount + snapshot.unassigned.length := by
  rw [shards, List.length_append, List.length_append,
    List.length_flatMap]
  rfl

/-- Some copy of an index is unsettled just if one that is not started is reported. -/
theorem indexHasProblems_iff_of_perm
    {first second : List Shard}
    (same : first.Perm second)
    (index : Text) :
    indexHasProblems index first = true ↔
      ∃ shard ∈ second, shard.index = index ∧ shard.state ≠ .started := by
  simp only [indexHasProblems, List.any_eq_true, Bool.and_eq_true,
    beq_iff_eq, Shard.isUnsettled_iff, same.mem_iff]

/--
Whatever a view shows is what is reported.

The totals are those of the reported copies, and the numbers of copies in all places add up
to them. The moves under way are those of the relocating copies, each with the node that its
destination stands for. An index has problems just if a copy of it is not started.
-/
theorem views_agree_with_report
    (inventory : Inventory) :
    let built := ofInventory inventory
    built.totals = ShardTotals.ofShards inventory.shards ∧
      (built.nodes.map HostedNode.shardCount).sum +
          built.unknown.shardCount + built.unassigned.length =
        built.totals.total ∧
      built.totals.unassigned = built.unassigned.length ∧
      built.pendingRelocations.Perm
        ((inventory.shards.filter fun shard =>
            shard.state = .relocating).map
          fun shard => (shard, built.findNode? shard.relocatingTo)) ∧
      built.pendingRelocations.length = built.totals.relocating ∧
      ∀ index,
        indexHasProblems index built.shards = true ↔
          ∃ shard ∈ inventory.shards,
            shard.index = index ∧ shard.state ≠ .started := by
  intro built
  have kept : built.shards.Perm inventory.shards :=
    shards_ofInventory_perm inventory
  have totals : built.totals = ShardTotals.ofShards inventory.shards :=
    built.totals_eq_ofShards.trans (ShardTotals.ofShards_of_perm kept)
  have pending :
      built.pendingRelocations.Perm
        ((inventory.shards.filter fun shard =>
            shard.state = .relocating).map
          fun shard => (shard, built.findNode? shard.relocatingTo)) :=
    (kept.filter _).map _
  refine ⟨totals, ?_, ?_, pending, ?_, ?_⟩
  · rw [totals, ← length_shards]
    exact kept.length_eq
  · rw [totals, unassigned_ofInventory, ← List.countP_eq_length_filter]
    apply List.countP_congr
    intro shard _
    cases isState : shard.state <;> simp [Shard.isAssigned, isState]
  · rw [totals, pending.length_eq, List.length_map,
      ← List.countP_eq_length_filter]
    rfl
  · exact indexHasProblems_iff_of_perm kept

end Snapshot

end ShardAtlas
