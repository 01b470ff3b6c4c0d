import ShardAtlas.Proofs.Conservation
import ShardAtlas.Proofs.Identifiers
import ShardAtlas.Proofs.Placement

namespace ShardAtlas

/-!
# Two ways to resolve an identifier

Copies are placed by a map of identifiers, which is entered once for all copies.
Readers of a snapshot look through its nodes instead, first for an id and then for
a name or address. Both find the same id, whatever ids, names and addresses the
nodes share, so what is placed on a node can be read back from the snapshot alone.
-/

/-- Among what a node is called, an identifier is found just if it calls the node. -/
theorem Node.find?_callings
    (node : Node)
    {identifier : Text}
    (named : identifier ≠ "") :
    (node.callings.find? fun entry => entry.1 = identifier).map Prod.snd =
      if node.isCalled identifier then some node.id else none := by
  unfold callings isCalled
  by_cases byName : node.name = identifier
  · simp [byName]
  · cases calledAt : node.address with
    | none =>
        simp [byName]
    | some address =>
        by_cases byAddress : address = identifier
        · -- An empty address is not entered, but it is not looked for either.
          simp [byName, byAddress, named]
        · by_cases blank : address = "" <;>
            simp [byName, byAddress, blank, Ne.symm named]

/-- What nodes are called leads to the first node that an identifier calls. -/
theorem find?_flatMap_callings
    (nodes : List Node)
    {identifier : Text}
    (named : identifier ≠ "") :
    ((nodes.flatMap Node.callings).find? fun entry =>
        entry.1 = identifier).map Prod.snd =
      (nodes.find? fun node => node.isCalled identifier).map Node.id := by
  induction nodes with
  | nil =>
      rfl
  | cons node rest inductionHypothesis =>
      have first := node.find?_callings named
      rw [List.flatMap_cons, List.find?_append, Option.map_or, first,
        inductionHypothesis, List.find?_cons]
      cases node.isCalled identifier <;> rfl

/-- An identifier stands for the first node with that id, or else with that calling. -/
theorem get?_identifiers
    (nodes : List Node)
    {identifier : Text}
    (named : identifier ≠ "") :
    (identifiers nodes).get? identifier =
      ((nodes.find? fun node => (node.id : Text) == identifier).or
        (nodes.find? fun node => node.isCalled identifier)).map Node.id := by
  have byId :
      ((nodes.map fun node => ((node.id : Text), node.id)).find? fun entry =>
          entry.1 = identifier).map Prod.snd =
        (nodes.find? fun node => (node.id : Text) == identifier).map
          Node.id := by
    rw [List.find?_map, Option.map_map]
    rfl
  rw [identifiers_eq_entered, OrderedMap.get?_entered,
    OrderedMap.get?_empty, Option.none_or, List.find?_append,
    Option.map_or, Option.map_or, byId, find?_flatMap_callings nodes named]

namespace Snapshot

/-- The nodes of a snapshot are those of the inventory in their order. -/
theorem map_node_nodes
    (inventory : Inventory) :
    (ofInventory inventory).nodes.map HostedNode.node = inventory.nodes :=
  Placement.map_node_hosts _ [] inventory.nodes

/-- Where ids differ, no two records of a snapshot have the same one. -/
theorem nodup_ids_nodes
    {inventory : Inventory}
    (distinctIds : (inventory.nodes.map Node.id).Nodup) :
    ((ofInventory inventory).nodes.map fun host =>
      host.node.id).Nodup := by
  rw [← map_node_nodes inventory, List.map_map] at distinctIds
  exact distinctIds

/-- A node is found in a snapshot just as it is in the inventory. -/
theorem find?_nodes
    (inventory : Inventory)
    (isMeant : Node → Bool) :
    ((ofInventory inventory).nodes.find? fun host =>
        isMeant host.node).map HostedNode.node =
      inventory.nodes.find? isMeant := by
  rw [← map_node_nodes inventory, List.find?_map]
  rfl

/-- A reader finds the id by which copies with a reference are placed. -/
theorem findNode?_map_id
    (inventory : Inventory)
    (reference : Option Text) :
    ((ofInventory inventory).findNode? reference).map
        (fun host => host.node.id) =
      resolveId? (identifiers inventory.nodes) reference := by
  cases reference with
  | none =>
      rfl
  | some identifier =>
      by_cases blank : identifier = ""
      · simp [findNode?, resolveId?, blank]
      · have ids :=
          find?_nodes inventory fun node => (node.id : Text) == identifier
        have callings :=
          find?_nodes inventory fun node => node.isCalled identifier
        simp only [findNode?, resolveId?, blank, if_false]
        rw [get?_identifiers _ blank, ← ids, ← callings, ← Option.map_or,
          Option.map_map]
        rfl

end Snapshot

namespace Placement

/-- The records of an id have together what is in the place of the id. -/
theorem flatMap_shards_filter_hosts
    (placement : Placement)
    (seen : List String)
    (nodes : List Node)
    (id : String) :
    ((placement.hosts seen nodes).filter fun host =>
        host.node.id = id).flatMap HostedNode.shards =
      if id ∈ nodes.map Node.id ∧ id ∉ seen then
        (placement.sortedPlace id).shards
      else
        [] := by
  induction nodes generalizing seen with
  | nil =>
      simp [hosts]
  | cons node rest inductionHypothesis =>
      have later := inductionHypothesis (node.id :: seen)
      by_cases same : node.id = id
      · -- The first record of the id takes everything, the later ones nothing.
        subst same
        have noneLater :
            ((placement.hosts (node.id :: seen) rest).filter fun host =>
              host.node.id = node.id).flatMap HostedNode.shards = [] := by
          simpa using later
        by_cases known : node.id ∈ seen
        · simp [hosts, known, noneLater, HostedNode.shards,
            ShardsByIndex.shards, OrderedMap.values, OrderedMap.empty]
        · simp [hosts, known, noneLater, HostedNode.shards, sortedPlace]
      · simp [hosts, same, Ne.symm same, later]

end Placement

namespace Snapshot

/-- The records of an id have every copy once that refers to the id. -/
theorem shards_of_id_perm
    (inventory : Inventory)
    (id : String) :
    (((ofInventory inventory).nodes.filter fun host =>
        host.node.id = id).flatMap HostedNode.shards).Perm
      (inventory.shards.filter fun shard =>
        shard.host? (identifiers inventory.nodes) = some id) := by
  have records :=
    Placement.flatMap_shards_filter_hosts
      (Placement.ofInventory inventory) [] inventory.nodes id
  rw [show (ofInventory inventory).nodes =
    (Placement.ofInventory inventory).hosts [] inventory.nodes from rfl,
    records]
  by_cases member : id ∈ inventory.nodes.map Node.id
  · rw [if_pos ⟨member, List.not_mem_nil⟩]
    exact Placement.shards_sortedPlace_perm inventory id
  · rw [if_neg fun both => member both.1]
    have nobody :
        (inventory.shards.filter fun shard =>
          shard.host? (identifiers inventory.nodes) = some id) = [] := by
      rw [List.filter_eq_nil_iff]
      intro shard _ sent
      have resolved :=
        ((Shard.host?_eq_some_iff _ _ _).mp (of_decide_eq_true sent)).2
      exact member (mem_ids_of_resolveId? resolved)
    rw [nobody]

/-- A copy is sent to an id just if it is assigned and a reader finds the id. -/
theorem host?_eq_some_iff_findNode?
    (inventory : Inventory)
    (shard : Shard)
    (id : String) :
    shard.host? (identifiers inventory.nodes) = some id ↔
      shard.isAssigned = true ∧
        ((ofInventory inventory).findNode? shard.node).map
            (fun host => host.node.id) = some id := by
  rw [Shard.host?_eq_some_iff, findNode?_map_id]

/-- A copy is stray just if it is assigned and a reader does not resolve its reference. -/
theorem isStray_iff_findNode?
    (inventory : Inventory)
    (shard : Shard) :
    shard.isStray (identifiers inventory.nodes) = true ↔
      shard.isAssigned = true ∧
        (shard.node = none ∨ shard.node = some ("" : Text) ∨
          (ofInventory inventory).findNode? shard.node = none) := by
  have unresolved :
      (resolveId? (identifiers inventory.nodes) shard.node).isNone = true ↔
        (ofInventory inventory).findNode? shard.node = none := by
    rw [← findNode?_map_id, Option.isNone_map, Option.isNone_iff_eq_none]
  rw [Shard.isStray, Bool.and_eq_true, unresolved]
  refine and_congr_right fun _ => ⟨fun last => .inr (.inr last), ?_⟩
  -- A reference that is missing or empty is not resolved either.
  rintro (missing | blank | last)
  · rw [missing]
    rfl
  · rw [blank]
    rfl
  · exact last

/--
A reader of a snapshot resolves an identifier to the id that it is entered with.

So a copy is on the unknown node just if it is assigned and its reference is
missing, empty, or not resolved by a reader, and otherwise it is on a record with
the id that the reader finds.
-/
theorem findNode?_agrees_with_identifiers
    (inventory : Inventory) :
    let built := ofInventory inventory
    (∀ identifier : Text,
      (built.findNode? (some identifier)).map (fun host => host.node.id) =
        if identifier = "" then
          none
        else
          (identifiers inventory.nodes).get? identifier) ∧
      built.unknown.shards.Perm
        (inventory.shards.filter fun shard =>
          shard.isAssigned ∧
            (shard.node = none ∨ shard.node = some ("" : Text) ∨
              built.findNode? shard.node = none)) ∧
      ∀ id : String,
        ((built.nodes.filter fun host => host.node.id = id).flatMap
            HostedNode.shards).Perm
          (inventory.shards.filter fun shard =>
            shard.isAssigned ∧
              (built.findNode? shard.node).map (fun host => host.node.id) =
                some id) := by
  intro built
  refine ⟨?_, ?_, ?_⟩
  · intro identifier
    exact findNode?_map_id inventory (some identifier)
  · have onUnknown := shards_unknown_perm inventory
    have sameCopies :
        (inventory.shards.filter fun shard =>
            shard.isStray (identifiers inventory.nodes)) =
          inventory.shards.filter fun shard =>
            shard.isAssigned ∧
              (shard.node = none ∨ shard.node = some ("" : Text) ∨
                built.findNode? shard.node = none) := by
      apply List.filter_congr
      intro shard _
      rw [Bool.eq_iff_iff, isStray_iff_findNode?, decide_eq_true_eq]
    rwa [sameCopies] at onUnknown
  · intro id
    have onRecords := shards_of_id_perm inventory id
    simpa only [host?_eq_some_iff_findNode?] using onRecords

end Snapshot

end ShardAtlas
