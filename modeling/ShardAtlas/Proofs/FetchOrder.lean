import Mathlib.Data.List.Permutation
import Mathlib.Data.List.Sort
import ShardAtlas.Proofs.Census
import ShardAtlas.Proofs.PlacementOrder
import ShardAtlas.Proofs.Traversal

namespace ShardAtlas

/-!
# Fetches in another order

A cluster reports its nodes and copies in any order. Placing them goes by first come, first
served: the first node with an identifier keeps it, an index comes where its first copy does,
and copies with one number stay as they are reported. Here two inventories with the same
records in different orders are held against each other. Where an identifier has one taker
only, it has the same one in any order, so every copy gets to the same place. There it has the
same neighbours, and the numbers stand in one order.
-/

/-- Whether nodes have different ids, and a text that is no id calls one of them at most. -/
structure Node.AreToldApart
    (nodes : List Node) : Prop where
  ids : (nodes.map Node.id).Nodup
  callings :
    ∀ text : Text,
      text ≠ "" → (∀ node ∈ nodes, (node.id : Text) ≠ text) →
        ∀ first ∈ nodes, ∀ second ∈ nodes,
          (first.name = text ∨ first.address = some text) →
            (second.name = text ∨ second.address = some text) →
              first = second

/-- Where nodes are told apart, an identifier stands for the same id in any order of them. -/
theorem get?_identifiers_eq_of_perm
    {first second : List Node}
    (same : first.Perm second)
    (apart : Node.AreToldApart first)
    {identifier : Text}
    (named : identifier ≠ "") :
    (identifiers first).get? identifier =
      (identifiers second).get? identifier := by
  have byId :
      (first.find? fun node => (node.id : Text) == identifier) =
        second.find? fun node => (node.id : Text) == identifier := by
    apply find?_eq_of_perm same
    intro node member other otherMember isNode isOther
    apply List.inj_on_of_nodup_map apart.ids member otherMember
    rw [beq_iff_eq] at isNode isOther
    exact congrArg Text.lead (isNode.trans isOther.symm)
  rw [get?_identifiers first named, get?_identifiers second named, byId]
  cases found :
      second.find? fun node => (node.id : Text) == identifier with
  | some node =>
      rfl
  | none =>
      -- Only now a name or address is looked for, and the text is no id.
      have noId : ∀ node ∈ first, (node.id : Text) ≠ identifier := by
        rw [← byId, List.find?_eq_none] at found
        intro node member isId
        exact found node member (beq_iff_eq.mpr isId)
      have byCalling :
          (first.find? fun node => node.isCalled identifier) =
            second.find? fun node => node.isCalled identifier := by
        apply find?_eq_of_perm same
        intro node member other otherMember isNode isOther
        simp only [Node.isCalled, Bool.or_eq_true, beq_iff_eq]
          at isNode isOther
        exact
          apart.callings identifier named noId node member other
            otherMember isNode isOther
      rw [byCalling]

/-- Where nodes are told apart, a reference stands for the same id in any order of them. -/
theorem resolveId?_eq_of_perm
    {first second : List Node}
    (same : first.Perm second)
    (apart : Node.AreToldApart first)
    (reference : Option Text) :
    resolveId? (identifiers first) reference =
      resolveId? (identifiers second) reference := by
  cases reference with
  | none =>
      rfl
  | some identifier =>
      by_cases blank : identifier = ""
      · simp [resolveId?, blank]
      · simp only [resolveId?, blank, if_false]
        exact get?_identifiers_eq_of_perm same apart blank

namespace Inventory

/-- The records of an inventory, with nodes and copies from the last to the first. -/
def reversed
    (inventory : Inventory) :
    Inventory :=
  { inventory with
    nodes := inventory.nodes.reverse
    shards := inventory.shards.reverse }

variable
  {first second : Inventory}
  (sameNodes : first.nodes.Perm second.nodes)
  (apart : Node.AreToldApart first.nodes)
  (sameShards : first.shards.Perm second.shards)

include sameNodes apart sameShards

/-- The same copies refer to an id, whatever the order of the records. -/
theorem referringTo_perm
    (id : String) :
    (first.referringTo id).Perm (second.referringTo id) := by
  rw [← filter_host?_eq_referringTo, ← filter_host?_eq_referringTo]
  simp only [Shard.host?, resolveId?_eq_of_perm sameNodes apart]
  exact sameShards.filter _

/-- The same copies refer to no id, whatever the order of the records. -/
theorem strays_perm :
    first.strays.Perm second.strays := by
  rw [← filter_isStray_eq_strays, ← filter_isStray_eq_strays]
  simp only [Shard.isStray, resolveId?_eq_of_perm sameNodes apart]
  exact sameShards.filter _

end Inventory

namespace InNumberOrder

variable
  {reported reportedOther copies copiesOther : List Shard}
  (ordered : InNumberOrder reported copies)
  (orderedOther : InNumberOrder reportedOther copiesOther)
  (same : reported.Perm reportedOther)

include ordered in
/-- The copies in the order of their numbers are those of the report, each as often. -/
theorem perm :
    copies.Perm reported := by
  rw [ordered.unique (inNumberOrder_mergeSort reported)]
  exact List.mergeSort_perm reported _

include ordered orderedOther same in
/-- Copies that are reported in another order are the same in the order of their numbers. -/
theorem perm_of_perm :
    copies.Perm copiesOther :=
  ordered.perm.trans (same.trans orderedOther.perm.symm)

include ordered orderedOther same in
/-- Copies that are reported in another order have their numbers in the same order. -/
theorem map_number_eq_of_perm :
    copies.map Shard.number = copiesOther.map Shard.number := by
  have numbers :=
    (ordered.perm_of_perm orderedOther same).map Shard.number
  refine numbers.eq_of_pairwise' ?_ ?_ (r := (· ≤ ·))
  · exact List.pairwise_map.mpr ordered.ascending
  · exact List.pairwise_map.mpr orderedOther.ascending

include ordered orderedOther same in
/-- Copies with different numbers stand in one order, however they are reported. -/
theorem eq_of_perm
    (different : (copies.map Shard.number).Nodup) :
    copies = copiesOther := by
  have kept := ordered.perm_of_perm orderedOther same
  refine
    kept.eq_of_pairwise ?_ ordered.ascending orderedOther.ascending
  intro copy other member otherMember notLater notEarlier
  exact
    List.inj_on_of_nodup_map different member
      (kept.mem_iff.mpr otherMember) (le_antisymm notLater notEarlier)

end InNumberOrder

namespace ShardsByIndex

/--
Whether two places show the same copies, up to the order of what has one number.

The numbers under an index stand in the same order. Where they differ, the copies do.
-/
structure ShowsSame
    (first second : ShardsByIndex) : Prop where
  indices : first.keys.Perm second.keys
  copies :
    ∀ index, (first.ofIndex index).Perm (second.ofIndex index)
  numbers :
    ∀ index,
      (first.ofIndex index).map Shard.number =
        (second.ofIndex index).map Shard.number
  differing :
    ∀ index,
      ((first.ofIndex index).map Shard.number).Nodup →
        first.ofIndex index = second.ofIndex index

namespace Shows

/-- The copies of an index are those of the report in the order of their numbers. -/
theorem inNumberOrder_ofIndex
    {placed : ShardsByIndex}
    {reported : List Shard}
    (shown : placed.Shows reported)
    (index : Text) :
    InNumberOrder
      (reported.filter fun shard => shard.index = index)
      (placed.ofIndex index) := by
  unfold ofIndex
  cases found : placed.get? index with
  | some copies =>
      exact ((shown.copies index copies).mp found).2
  | none =>
      have unknown : index ∉ reported.map Shard.index := by
        rw [← mem_distinct_iff, ← shown.indices,
          OrderedMap.mem_keys_iff_isSome_get?, found]
        simp
      have nothing :
          (reported.filter fun shard => shard.index = index) = [] := by
        rw [List.filter_eq_nil_iff]
        intro shard member isIndex
        exact
          unknown
            (List.mem_map.mpr ⟨shard, member, of_decide_eq_true isIndex⟩)
      rw [nothing]
      exact ⟨List.Pairwise.nil, fun _ => rfl⟩

/-- What is reported in another order is shown in the same way. -/
theorem showsSame_of_perm
    {first second : ShardsByIndex}
    {reported reportedOther : List Shard}
    (shown : first.Shows reported)
    (shownOther : second.Shows reportedOther)
    (same : reported.Perm reportedOther) :
    first.ShowsSame second := by
  have ofIndex (index : Text) := shown.inNumberOrder_ofIndex index
  have ofIndexOther (index : Text) :=
    shownOther.inNumberOrder_ofIndex index
  refine ⟨?_, ?_, ?_, ?_⟩
  · rw [shown.indices, shownOther.indices,
      List.perm_ext_iff_of_nodup (nodup_distinct _) (nodup_distinct _)]
    intro index
    rw [mem_distinct_iff, mem_distinct_iff]
    exact (same.map Shard.index).mem_iff
  · intro index
    exact
      (ofIndex index).perm_of_perm (ofIndexOther index) (same.filter _)
  · intro index
    exact
      (ofIndex index).map_number_eq_of_perm (ofIndexOther index)
        (same.filter _)
  · intro index
    exact (ofIndex index).eq_of_perm (ofIndexOther index) (same.filter _)

end Shows

end ShardsByIndex

namespace Snapshot

/-- Where no two nodes have the same id, each has the place of its id. -/
theorem shows_placed_of_distinctIds
    {inventory : Inventory}
    (distinctIds : (inventory.nodes.map Node.id).Nodup)
    {host : HostedNode}
    (member : host ∈ (ofInventory inventory).nodes) :
    host.placed.Shows (inventory.referringTo host.node.id) := by
  obtain ⟨earlier, later, split⟩ := List.append_of_mem member
  have ids := nodup_ids_nodes distinctIds
  rw [split, List.map_append, List.map_cons, List.nodup_append] at ids
  have first :
      host.node.id ∉ earlier.map (fun other => other.node.id) :=
    fun repeated => ids.2.2 _ repeated host.node.id (by simp) rfl
  have placed := Placement.placed_of_hosts_eq split
  rw [List.append_nil, if_neg first] at placed
  rw [placed]
  exact Placement.shows_sortedPlace inventory host.node.id

/-- The unknown node shows the copies that refer to no id. -/
theorem shows_placed_unknown
    (inventory : Inventory) :
    (ofInventory inventory).unknown.placed.Shows inventory.strays := by
  have placed :
      (ofInventory inventory).unknown.placed =
        (ShardsByIndex.collected inventory.strays).sorted := by
    rw [← inventory.filter_isStray_eq_strays,
      ← Placement.unknown_ofInventory]
    rfl
  rw [placed]
  exact ShardsByIndex.shows_sorted_collected _

/--
A snapshot does not depend on the order in which nodes and copies are reported.

Nodes have to be told apart by what they are called. Then the copies under an index of a node
or of the unknown one are the same, their numbers stand in the same order, and the copies do
where no two of them have the same number. The unassigned copies and all totals are the same.
-/
theorem ofInventory_in_any_order
    {first second : Inventory}
    (sameNodes : first.nodes.Perm second.nodes)
    (apart : Node.AreToldApart first.nodes)
    (sameShards : first.shards.Perm second.shards) :
    let one := ofInventory first
    let other := ofInventory second
    (one.nodes.map HostedNode.node).Perm
        (other.nodes.map HostedNode.node) ∧
      (∀ host ∈ one.nodes, ∀ counterpart ∈ other.nodes,
        host.node.id = counterpart.node.id →
          host.placed.ShowsSame counterpart.placed) ∧
      one.unknown.placed.ShowsSame other.unknown.placed ∧
      one.unassigned.Perm other.unassigned ∧
      one.totals = other.totals := by
  intro one other
  have distinctIds : (second.nodes.map Node.id).Nodup :=
    (sameNodes.map Node.id).nodup_iff.mp apart.ids
  refine ⟨?_, ?_, ?_, ?_, ?_⟩
  · rw [map_node_nodes, map_node_nodes]
    exact sameNodes
  · intro host member counterpart otherMember sameId
    have shown := shows_placed_of_distinctIds apart.ids member
    rw [sameId] at shown
    exact
      shown.showsSame_of_perm
        (shows_placed_of_distinctIds distinctIds otherMember)
        (Inventory.referringTo_perm sameNodes apart sameShards _)
  · exact
      (shows_placed_unknown first).showsSame_of_perm
        (shows_placed_unknown second)
        (Inventory.strays_perm sameNodes apart sameShards)
  · rw [unassigned_ofInventory, unassigned_ofInventory]
    exact sameShards.filter _
  · have kept : one.shards.Perm other.shards :=
      (shards_ofInventory_perm first).trans
        (sameShards.trans (shards_ofInventory_perm second).symm)
    rw [totals_eq_ofShards, totals_eq_ofShards,
      ShardTotals.ofShards_of_perm kept]

/-- A node that is called like the id of another one, and copies of every kind. -/
def crossNamed : Inventory :=
  { nodes :=
      [ { id := "a", name := "b" },
        { id := "b", name := "beta", address := some "10.0.0.2" } ]
    shards :=
      [ logsCopy 1 true (some "b"), logsCopy 0 false (some "10.0.0.2"),
        logsCopy 1 false (some "beta"), logsCopy 2 true (some "c"),
        { logsCopy 3 true none with state := .unassigned } ] }

/--
Copies with one number change places when everything is reported the other way round, and
nothing else does.
-/
theorem shownSame_of_crossNamed_reversed :
    let one := ofInventory crossNamed
    let other := ofInventory crossNamed.reversed
    crossNamed.nodes.Perm crossNamed.reversed.nodes ∧
      Node.AreToldApart crossNamed.nodes ∧
      crossNamed.shards.Perm crossNamed.reversed.shards ∧
      one.unknown.placed.ShowsSame other.unknown.placed ∧
      one.totals = other.totals ∧
      ∃ host ∈ one.nodes, ∃ counterpart ∈ other.nodes,
        host.placed.ShowsSame counterpart.placed ∧
          host.shardsOf "logs" =
            [ logsCopy 0 false (some "10.0.0.2"),
              logsCopy 1 true (some "b"), logsCopy 1 false (some "beta") ] ∧
          counterpart.shardsOf "logs" =
            [ logsCopy 0 false (some "10.0.0.2"),
              logsCopy 1 false (some "beta"), logsCopy 1 true (some "b") ] := by
  intro one other
  have sameNodes : crossNamed.nodes.Perm crossNamed.reversed.nodes :=
    (List.reverse_perm _).symm
  have sameShards : crossNamed.shards.Perm crossNamed.reversed.shards :=
    (List.reverse_perm _).symm
  have apart : Node.AreToldApart crossNamed.nodes := by
    refine ⟨by decide, ?_⟩
    intro text _ noId host member counterpart otherMember isHost isOther
    simp only [crossNamed, List.mem_cons, List.not_mem_nil, or_false]
      at noId member otherMember
    rcases member with rfl | rfl <;> rcases otherMember with rfl | rfl <;>
      grind
  obtain ⟨_, hosted, stray, _, totals⟩ :=
    ofInventory_in_any_order sameNodes apart sameShards
  obtain ⟨host, isHost⟩ : ∃ host, one.nodes[1]? = some host :=
    ⟨_, rfl⟩
  obtain ⟨counterpart, isCounterpart⟩ :
      ∃ counterpart, other.nodes[0]? = some counterpart :=
    ⟨_, rfl⟩
  have member := List.mem_of_getElem? isHost
  have otherMember := List.mem_of_getElem? isCounterpart
  refine
    ⟨sameNodes, apart, sameShards, stray, totals, host, member,
      counterpart, otherMember, ?_⟩
  cases isHost
  cases isCounterpart
  exact ⟨hosted _ member _ otherMember rfl, by cbv, by cbv⟩

end Snapshot

end ShardAtlas
