import Mathlib.Data.List.Induction
import ShardAtlas.Proofs.Resolution
import ShardAtlas.Proofs.Selection

namespace ShardAtlas

/-!
# Where each copy stands

A snapshot is described here by what is reported, down to the order of everything in it.
An index comes where its first copy is reported, and its copies come by their numbers. As
copies with one number stay as they are reported, nothing is left open by that.
-/

/--
Whether copies are those of a report in the order of their numbers.

Copies with the same number stand as they do in the report.
-/
structure InNumberOrder
    (reported copies : List Shard) : Prop where
  ascending :
    copies.Pairwise fun first second => first.number ≤ second.number
  sameNumber :
    ∀ number,
      (copies.filter fun copy => copy.number = number) =
        reported.filter fun copy => copy.number = number

namespace InNumberOrder

/-- The copies in the order of their numbers are those of the report. -/
theorem mem_iff
    {reported copies : List Shard}
    (ordered : InNumberOrder reported copies)
    {copy : Shard} :
    copy ∈ copies ↔ copy ∈ reported := by
  have withNumber
      (shards : List Shard) :
      copy ∈ shards ↔
        copy ∈ shards.filter fun other => other.number = copy.number := by
    simp
  rw [withNumber copies, ordered.sameNumber, ← withNumber]

/-- The lowest number comes first. -/
theorem head_le
    {reported copies : List Shard}
    {first copy : Shard}
    (ordered : InNumberOrder reported (first :: copies))
    (member : copy ∈ reported) :
    first.number ≤ copy.number := by
  rcases List.mem_cons.mp (ordered.mem_iff.mpr member) with rfl | later
  · exact le_refl _
  · exact (List.pairwise_cons.mp ordered.ascending).1 copy later

/-- There is one order of the copies by their numbers. -/
theorem unique
    {reported first second : List Shard}
    (firstOrdered : InNumberOrder reported first)
    (secondOrdered : InNumberOrder reported second) :
    first = second := by
  -- The copies behind the first ones are again in order, of a report without the first ones.
  induction first generalizing reported second with
  | nil =>
      cases second with
      | nil =>
          rfl
      | cons copy rest =>
          have member := secondOrdered.mem_iff.mp List.mem_cons_self
          cases firstOrdered.mem_iff.mpr member
  | cons copy rest inductionHypothesis =>
      cases second with
      | nil =>
          have member := firstOrdered.mem_iff.mp List.mem_cons_self
          cases secondOrdered.mem_iff.mpr member
      | cons other others =>
          have sameNumber : other.number = copy.number :=
            le_antisymm
              (secondOrdered.head_le
                (firstOrdered.mem_iff.mp List.mem_cons_self))
              (firstOrdered.head_le
                (secondOrdered.mem_iff.mp List.mem_cons_self))
          have agree
              (number : Int) :
              ((copy :: rest).filter fun shard => shard.number = number) =
                (other :: others).filter fun shard =>
                  shard.number = number := by
            rw [firstOrdered.sameNumber, secondOrdered.sameNumber]
          have same : copy = other := by
            have heads := agree copy.number
            simp only [List.filter_cons, sameNumber, decide_true,
              if_true] at heads
            exact (List.cons.inj heads).1
          subst same
          have restOrdered : InNumberOrder others rest := by
            refine ⟨firstOrdered.ascending.of_cons, fun number => ?_⟩
            have tails := agree number
            simp only [List.filter_cons] at tails
            split at tails
            · exact (List.cons.inj tails).2
            · exact tails
          rw [inductionHypothesis restOrdered
            ⟨secondOrdered.ascending.of_cons, fun _ => rfl⟩]

end InNumberOrder

/-- Sorting by numbers gives the order of the numbers, whatever the report. -/
theorem inNumberOrder_mergeSort
    (reported : List Shard) :
    InNumberOrder reported
      (reported.mergeSort fun first second =>
        decide (first.number ≤ second.number)) := by
  let comesFirst (first second : Shard) : Bool :=
    decide (first.number ≤ second.number)
  have transitive
      (first second third : Shard)
      (before : comesFirst first second = true)
      (after : comesFirst second third = true) :
      comesFirst first third = true := by
    simp only [comesFirst, decide_eq_true_eq] at before after ⊢
    omega
  have total
      (first second : Shard) :
      (comesFirst first second || comesFirst second first) = true := by
    simp only [comesFirst, Bool.or_eq_true, decide_eq_true_eq]
    omega
  refine ⟨?_, fun number => ?_⟩
  · have sorted := List.pairwise_mergeSort transitive total reported
    exact sorted.imp of_decide_eq_true
  · -- Copies with one number are in order as they are reported, so sorting keeps them so.
    let isSame (copy : Shard) : Bool :=
      decide (copy.number = number)
    have inOrder :
        (reported.filter isSame).Pairwise fun first second =>
          comesFirst first second = true := by
      rw [List.pairwise_filter]
      refine List.pairwise_of_forall fun first second isFirst isSecond => ?_
      simp only [isSame, comesFirst, decide_eq_true_eq] at isFirst isSecond ⊢
      omega
    have kept :=
      (List.sublist_mergeSort transitive total inOrder
        List.filter_sublist).filter isSame
    simp only [List.filter_filter, Bool.and_self] at kept
    have sameLength :=
      ((List.mergeSort_perm reported comesFirst).filter isSame).length_eq
    exact (kept.eq_of_length sameLength.symm).symm

namespace ShardsByIndex

/--
Whether copies by index are those of a report, with everything in its order.

The indices come as they first appear in the report, each with all its copies in the order
of their numbers.
-/
structure Shows
    (placed : ShardsByIndex)
    (reported : List Shard) : Prop where
  indices :
    placed.keys = distinct (reported.map Shard.index)
  copies :
    ∀ index copies,
      placed.get? index = some copies ↔
        index ∈ placed.keys ∧
          InNumberOrder
            (reported.filter fun shard => shard.index = index) copies
  filled :
    ∀ index, placed.get? index ≠ some []

/-- The indices of collected copies come as they first appear. -/
theorem keys_collected
    (shards : List Shard) :
    (collected shards).keys = distinct (shards.map Shard.index) := by
  induction shards using List.reverseRecOn with
  | nil =>
      rfl
  | append_singleton before last inductionHypothesis =>
      rw [List.map_append, List.map_singleton, distinct_concat,
        ← inductionHypothesis, collected, List.foldl_append,
        List.foldl_cons, List.foldl_nil]
      exact OrderedMap.keys_alter _ _ _

/-- The collected copies of an index are those of the list, if there are any. -/
theorem get?_collected
    (shards : List Shard)
    (index : Text) :
    (collected shards).get? index =
      if index ∈ (collected shards).keys then
        some (shards.filter fun shard => shard.index = index)
      else
        none := by
  rw [← ofIndex_collected, ofIndex]
  cases found : (collected shards).get? index with
  | none =>
      simp [OrderedMap.mem_keys_iff_isSome_get?, found]
  | some copies =>
      simp [OrderedMap.mem_keys_iff_isSome_get?, found]

/-- Copies that are collected and sorted have everything in its order. -/
theorem shows_sorted_collected
    (shards : List Shard) :
    (collected shards).sorted.Shows shards := by
  have keys :
      (collected shards).sorted.keys = (collected shards).keys :=
    OrderedMap.keys_mapValues _ _
  have found
      (index : Text) :=
    OrderedMap.get?_mapValues (collected shards)
      (fun copies =>
        copies.mergeSort fun first second =>
          decide (first.number ≤ second.number))
      index
  simp only [get?_collected] at found
  refine ⟨keys.trans (keys_collected shards), ?_, ?_⟩
  · intro index copies
    rw [keys, sorted, found]
    split
    · next known =>
        rw [Option.map_some, Option.some.injEq]
        constructor
        · rintro rfl
          exact ⟨known, inNumberOrder_mergeSort _⟩
        · rintro ⟨_, ordered⟩
          exact (inNumberOrder_mergeSort _).unique ordered
    · next unknown =>
        simp [unknown]
  · intro index empty
    rw [sorted, found] at empty
    split at empty
    · next known =>
        rw [keys_collected, mem_distinct_iff, List.mem_map] at known
        obtain ⟨shard, member, rfl⟩ := known
        simp only [Option.map_some, Option.some.injEq] at empty
        have lengths := congrArg List.length empty
        rw [List.length_mergeSort, List.length_nil,
          List.length_eq_zero_iff, List.filter_eq_nil_iff] at lengths
        exact lengths shard member (decide_eq_true rfl)
    · cases empty

end ShardsByIndex

/-- A reference stands for an id just if it is not empty and entered with that id. -/
theorem resolveId?_eq_some_iff
    (known : OrderedMap Text String)
    (reference : Option Text)
    (id : String) :
    resolveId? known reference = some id ↔
      reference ≠ some ("" : Text) ∧ reference.bind known.get? = some id := by
  cases reference with
  | none =>
      simp [resolveId?]
  | some text =>
      by_cases blank : text = "" <;> simp [resolveId?, blank]

namespace Inventory

/-- The assigned copies whose reference is entered with an id. -/
def referringTo
    (inventory : Inventory)
    (id : String) :
    List Shard :=
  inventory.shards.filter fun shard =>
    shard.state ≠ .unassigned ∧ shard.node ≠ some ("" : Text) ∧
      shard.node.bind (identifiers inventory.nodes).get? = some id

/-- The copies that are sent to an id are those that refer to it. -/
theorem filter_host?_eq_referringTo
    (inventory : Inventory)
    (id : String) :
    (inventory.shards.filter fun shard =>
        shard.host? (identifiers inventory.nodes) = some id) =
      inventory.referringTo id := by
  apply List.filter_congr
  intro shard _
  rw [decide_eq_decide, Shard.host?_eq_some_iff, resolveId?_eq_some_iff,
    Shard.isAssigned, bne_iff_ne]

end Inventory

namespace Placement

/-- The place of an id shows the copies that refer to the id. -/
theorem shows_sortedPlace
    (inventory : Inventory)
    (id : String) :
    ((ofInventory inventory).sortedPlace id).Shows
      (inventory.referringTo id) := by
  rw [sortedPlace, hosted_ofInventory,
    inventory.filter_host?_eq_referringTo]
  exact ShardsByIndex.shows_sorted_collected _

end Placement

namespace Snapshot

/-- A node has the place of its id if no node before has that id, and an empty one else. -/
theorem placed_of_getElem?
    {inventory : Inventory}
    {place : Nat}
    {host : HostedNode}
    (stands : (ofInventory inventory).nodes[place]? = some host) :
    host.placed =
      if host.node.id ∈ (inventory.nodes.take place).map Node.id then
        .empty
      else
        (Placement.ofInventory inventory).sortedPlace host.node.id := by
  obtain ⟨within, isHost⟩ := List.getElem?_eq_some_iff.mp stands
  have split :
      (ofInventory inventory).nodes =
        (ofInventory inventory).nodes.take place ++
          host :: (ofInventory inventory).nodes.drop (place + 1) := by
    rw [← isHost, List.getElem_cons_drop, List.take_append_drop]
  have placed := Placement.placed_of_hosts_eq split
  rwa [List.append_nil, List.map_take, ← Function.comp_def,
    ← List.map_map, map_node_nodes, ← List.map_take] at placed

/--
A snapshot shows everything that is reported, and each thing where it belongs.

A node after another one with its id is empty. On any other node are the copies that refer
to its id, and on the unknown node those that refer to no id: the indices as they first
appear, no index without copies, and the copies of an index by their numbers, which says
where each copy stands. Unassigned copies stay as they are reported, and each copy on the
unknown node is warned of once, in the order of the report.
-/
theorem ofInventory_places_in_order
    (inventory : Inventory) :
    let built := ofInventory inventory
    built.nodes.map HostedNode.node = inventory.nodes ∧
      (∀ place host,
        built.nodes[place]? = some host →
          if host.node.id ∈ (inventory.nodes.take place).map Node.id then
            host.placed = .empty
          else
            host.placed.Shows (inventory.referringTo host.node.id)) ∧
      built.unknown.placed.Shows inventory.strays ∧
      built.unassigned =
        inventory.shards.filter (fun shard => shard.state = .unassigned) ∧
      warnings inventory = inventory.strays.map strayWarning := by
  intro built
  refine ⟨map_node_nodes inventory, ?_, ?_, ?_, ?_⟩
  · intro place host stands
    have placed := placed_of_getElem? stands
    split
    · next repeated =>
        rwa [if_pos repeated] at placed
    · next first =>
        rw [if_neg first] at placed
        rw [placed]
        exact Placement.shows_sortedPlace inventory host.node.id
  · have placed :
        built.unknown.placed =
          (ShardsByIndex.collected inventory.strays).sorted := by
      rw [← inventory.filter_isStray_eq_strays,
        ← Placement.unknown_ofInventory]
      rfl
    rw [placed]
    exact ShardsByIndex.shows_sorted_collected _
  · refine (Placement.unassigned_ofInventory inventory).trans ?_
    apply List.filter_congr
    intro shard _
    rw [Shard.isAssigned]
    cases shard.state <;> rfl
  · rw [warnings, Placement.strays_ofInventory]

/-- A copy of the index `logs`. -/
def logsCopy
    (number : Int)
    (primary : Bool)
    (node : Option Text) :
    Shard :=
  { index := "logs"
    number := number
    primary := primary
    state := .started
    node := node }

/-- Two records of the id `a`, under which copies are reported by id, name and address. -/
def scattered : Inventory :=
  { nodes :=
      [ { id := "a", name := "first" },
        { id := "a", name := "second", address := some "10.0.0.2" } ]
    shards :=
      [ { logsCopy 0 true (some "a") with index := "users" },
        logsCopy 1 false (some "second"), logsCopy 7 true (some "b"),
        logsCopy 0 true (some "10.0.0.2"), logsCopy 1 true (some "a"),
        logsCopy 2 true none ] }

/-- Copies come by numbers, and the two with number one as they are reported. -/
theorem placed_of_scattered :
    let built := ofInventory scattered
    ∃ first second,
      built.nodes[0]? = some first ∧
        built.nodes[1]? = some second ∧
        first.placed.keys = [("users" : Text), ("logs" : Text)] ∧
        first.placed.get? "logs" =
          some
            [ logsCopy 0 true (some "10.0.0.2"),
              logsCopy 1 false (some "second"),
              logsCopy 1 true (some "a") ] ∧
        second.placed = .empty ∧
        built.unknown.placed.get? "logs" =
          some [logsCopy 2 true none, logsCopy 7 true (some "b")] ∧
        warnings scattered =
          [ .ok
              ("Shard logs[7] references unknown node 'b', " ++
                "placing it in the unknown-node bucket"),
            .ok
              ("Shard logs[2] references unknown node None, " ++
                "placing it in the unknown-node bucket") ] := by
  intro built
  obtain ⟨_, placed, stray, _, warned⟩ :=
    ofInventory_places_in_order scattered
  obtain ⟨first, isFirst⟩ : ∃ first, built.nodes[0]? = some first :=
    ⟨_, rfl⟩
  obtain ⟨second, isSecond⟩ : ∃ second, built.nodes[1]? = some second :=
    ⟨_, rfl⟩
  have onFirst := placed 0 first isFirst
  have onSecond := placed 1 second isSecond
  cases isFirst
  cases isSecond
  rw [if_neg (by decide)] at onFirst
  rw [if_pos (by decide)] at onSecond
  refine
    ⟨_, _, rfl, rfl, onFirst.indices.trans (by decide), ?_, onSecond, ?_,
      warned.trans (by decide +kernel)⟩
  · refine (onFirst.copies _ _).mpr
      ⟨by rw [onFirst.indices]; decide, by decide, fun number => ?_⟩
    have reported :
        ((scattered.referringTo "a").filter fun shard =>
            shard.index = ("logs" : Text)) =
          [ logsCopy 1 false (some "second"),
            logsCopy 0 true (some "10.0.0.2"),
            logsCopy 1 true (some "a") ] := by
      decide
    refine Eq.trans ?_ (congrArg _ reported.symm)
    by_cases zero : (0 : Int) = number <;>
      by_cases one : (1 : Int) = number <;>
      simp [logsCopy, zero, one]
    omega
  · refine (stray.copies _ _).mpr
      ⟨by rw [stray.indices]; decide, by decide, fun number => ?_⟩
    have reported :
        (scattered.strays.filter fun shard =>
            shard.index = ("logs" : Text)) =
          [logsCopy 7 true (some "b"), logsCopy 2 true none] := by
      decide
    refine Eq.trans ?_ (congrArg _ reported.symm)
    by_cases two : (2 : Int) = number <;>
      by_cases seven : (7 : Int) = number <;>
      simp [logsCopy, two, seven]
    omega

end Snapshot

end ShardAtlas
