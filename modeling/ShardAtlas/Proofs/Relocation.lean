import ShardAtlas.Proofs.Identifiers
import ShardAtlas.Proofs.Placement
import ShardAtlas.Relocation.Dispatch

namespace ShardAtlas

/-!
# Moves onto nodes with a copy

A move is not admitted onto a node that has a copy of the shard. The rule looks at
the record that the destination is found under, and of several records with one id
only the first has the copies. So the rule fails for a destination that is called
by the name or address of a later record, and only there.
-/

/-- Whether an assigned copy of a shard is reported on the node with an id. -/
def Inventory.HasCopyOn
    (inventory : Inventory)
    (id : String)
    (index : Text)
    (number : Int) :
    Prop :=
  ∃ copy ∈ inventory.shards,
    copy.isAssigned = true ∧
      resolveId? (identifiers inventory.nodes) copy.node = some id ∧
      copy.index = index ∧
      copy.number = number

/-- An element that comes first under its image splits a list. -/
theorem exists_first_split
    {items : List α}
    {image : α → β}
    {value : β}
    (member : value ∈ items.map image) :
    ∃ earlier first later,
      items = earlier ++ first :: later ∧
        image first = value ∧
        value ∉ earlier.map image := by
  obtain ⟨before, after, imageSplit, fresh⟩ :=
    List.eq_append_cons_of_mem member
  obtain ⟨earlier, rest, itemsShape, beforeShape, restShape⟩ :=
    List.map_eq_append_iff.mp imageSplit
  obtain ⟨first, later, tailShape, firstShape, _⟩ :=
    List.map_eq_cons_iff.mp restShape
  subst beforeShape tailShape
  exact ⟨earlier, first, later, itemsShape, firstShape, fresh⟩

namespace Snapshot

/-- What an identifier stands for is one of the nodes. -/
theorem mem_nodes_of_findNode?
    {snapshot : Snapshot}
    {identifier : Option Text}
    {host : HostedNode}
    (found : snapshot.findNode? identifier = some host) :
    host ∈ snapshot.nodes := by
  unfold findNode? at found
  split at found
  · simp at found
  · split at found
    · simp at found
    · rcases Option.or_eq_some_iff.mp found with byId | ⟨_, byCalling⟩
      · exact List.mem_of_find?_eq_some byId
      · exact List.mem_of_find?_eq_some byCalling

/--
A record hosts a shard just if it is the first one with its id and a copy is
reported on that id.
-/
theorem hosts_of_nodes_eq
    {inventory : Inventory}
    {earlier later : List HostedNode}
    {host : HostedNode}
    (split : (ofInventory inventory).nodes = earlier ++ host :: later)
    (index : Text)
    (number : Int) :
    host.hosts index number = true ↔
      host.node.id ∉ earlier.map (fun other => other.node.id) ∧
        inventory.HasCopyOn host.node.id index number := by
  have place := Placement.placed_of_hosts_eq split
  rw [List.append_nil] at place
  unfold HostedNode.hosts HostedNode.shardsOf
  rw [place]
  by_cases repeated :
      host.node.id ∈ earlier.map (fun other => other.node.id)
  · simp [repeated, ShardsByIndex.ofIndex]
  · simp only [repeated, if_false, Placement.sortedPlace,
      Placement.hosted_ofInventory,
      ShardsByIndex.any_ofIndex_sorted_collected, List.mem_filter,
      decide_eq_true_eq, Shard.host?_eq_some_iff,
      Inventory.HasCopyOn, not_false_eq_true, true_and, and_assoc]

/-- A copy is reported on an id just if some record of the id hosts the shard. -/
theorem hasCopyOn_iff_exists_hosts
    (inventory : Inventory)
    (id : String)
    (index : Text)
    (number : Int) :
    inventory.HasCopyOn id index number ↔
      ∃ host ∈ (ofInventory inventory).nodes,
        host.node.id = id ∧ host.hosts index number = true := by
  constructor
  · intro reported
    have reportedCopy := reported
    obtain ⟨copy, _, _, resolved, _⟩ := reportedCopy
    have member :
        id ∈ (ofInventory inventory).nodes.map
          (fun host => host.node.id) := by
      have ids := mem_ids_of_resolveId? resolved
      rw [← Placement.map_node_hosts
        (Placement.ofInventory inventory) [] inventory.nodes] at ids
      simpa [ofInventory] using ids
    obtain ⟨earlier, first, later, split, idShape, fresh⟩ :=
      exists_first_split member
    subst idShape
    exact
      ⟨first, by simp [split], rfl,
        (hosts_of_nodes_eq split index number).mpr ⟨fresh, reported⟩⟩
  · rintro ⟨host, member, rfl, hosting⟩
    obtain ⟨earlier, later, split⟩ := List.append_of_mem member
    exact ((hosts_of_nodes_eq split index number).mp hosting).2

/-- A move is admitted just if every rule holds. -/
theorem judgeRelocation_eq_approved_iff
    (snapshot : Snapshot)
    (shard : Option Shard)
    (source destination : Option Text) :
    snapshot.judgeRelocation shard source destination = .approved ↔
      ∃ copy sourceHost destinationHost,
        shard = some copy ∧
          snapshot.findNode? source = some sourceHost ∧
          snapshot.findNode? destination = some destinationHost ∧
          sourceHost.node.id ≠ destinationHost.node.id ∧
          copy.state = .started ∧
          destinationHost.hosts copy.index copy.number = false ∧
          destinationHost.node.holdsData = true := by
  unfold judgeRelocation
  cases shard with
  | none =>
      simp
  | some copy =>
      cases snapshot.findNode? source with
      | none =>
          simp
      | some sourceHost =>
          cases snapshot.findNode? destination with
          | none =>
              simp
          | some destinationHost =>
              simp only [Option.some.injEq, exists_and_left,
                exists_eq_left', judgeBetween]
              cases copy.state <;>
                cases destinationHost.hosts copy.index copy.number <;>
                cases destinationHost.node.holdsData <;>
                by_cases same :
                  sourceHost.node.id = destinationHost.node.id <;>
                simp [ShardState.immovable?, same]

/-- A command is sent just if the move is admitted, and it names what was found. -/
theorem mem_sent_relocate_iff
    (snapshot : Snapshot)
    (mover : MoveCommand → Reply)
    (shard : Option Shard)
    (source destination : Option Text)
    (command : MoveCommand) :
    command ∈ (snapshot.relocate mover shard source destination).sent ↔
      snapshot.judgeRelocation shard source destination = .approved ∧
        snapshot.moveCommand? shard source destination = some command := by
  unfold relocate
  cases verdict : snapshot.judgeRelocation shard source destination with
  | refused reason =>
      simp
  | approved =>
      cases snapshot.moveCommand? shard source destination with
      | none =>
          simp
      | some sent =>
          simp [eq_comm]

/-- The record found under an id hosts every shard with a copy on that id. -/
theorem hosts_of_find?_id
    {inventory : Inventory}
    {host : HostedNode}
    {identifier : Text}
    (found :
      ((ofInventory inventory).nodes.find? fun other =>
        (other.node.id : Text) == identifier) = some host)
    {index : Text}
    {number : Int}
    (reported : inventory.HasCopyOn host.node.id index number) :
    host.hosts index number = true := by
  obtain ⟨named, earlier, later, split, unnamed⟩ :=
    List.find?_eq_some_iff_append.mp found
  refine (hosts_of_nodes_eq split index number).mpr ⟨?_, reported⟩
  intro repeated
  obtain ⟨other, member, sameId⟩ := List.mem_map.mp repeated
  have otherUnnamed := unnamed other member
  simp only [sameId, named, Bool.not_true, Bool.false_eq_true] at otherUnnamed

/-- A record with the id of a hosting record is that record, or it comes later. -/
theorem eq_or_later_of_hosts
    {inventory : Inventory}
    {host other : HostedNode}
    (member : other ∈ (ofInventory inventory).nodes)
    (hostMember : host ∈ (ofInventory inventory).nodes)
    (sameId : host.node.id = other.node.id)
    {index : Text}
    {number : Int}
    (hosting : host.hosts index number = true) :
    other = host ∨
      ∃ earlier later,
        (ofInventory inventory).nodes = earlier ++ other :: later ∧
          host ∈ earlier := by
  obtain ⟨before, after, split⟩ := List.append_of_mem hostMember
  have fresh := ((hosts_of_nodes_eq split index number).mp hosting).1
  rw [split] at member
  rcases List.mem_append.mp member with inBefore | atOrAfter
  · exact (fresh (List.mem_map.mpr ⟨other, inBefore, sameId.symm⟩)).elim
  · rcases List.mem_cons.mp atOrAfter with atHost | inAfter
    · exact .inl atHost
    · obtain ⟨between, later, afterShape⟩ := List.append_of_mem inAfter
      refine .inr ⟨before ++ host :: between, later, ?_, by simp⟩
      rw [split, afterShape, List.append_assoc, List.cons_append]

/-- An identifier that is the id of a node stands for the first record of the id. -/
theorem find?_id_of_findNode?
    {inventory : Inventory}
    {node : Node}
    (member : node ∈ inventory.nodes)
    {found : HostedNode}
    (known :
      (ofInventory inventory).findNode? (some (node.id : Text)) =
        some found) :
    ((ofInventory inventory).nodes.find? fun other =>
      (other.node.id : Text) == (node.id : Text)) = some found := by
  have nodesShape :=
    Placement.map_node_hosts
      (Placement.ofInventory inventory) [] inventory.nodes
  rw [← nodesShape] at member
  obtain ⟨host, hostMember, rfl⟩ := List.mem_map.mp member
  unfold findNode? at known
  simp only at known
  split at known
  · simp at known
  · rcases Option.or_eq_some_iff.mp known with byId | ⟨unnamed, _⟩
    · exact byId
    · have noId := List.find?_eq_none.mp unnamed host hostMember
      simp at noId

/-- The command of an admitted move names the copy and the nodes that are found. -/
theorem moveCommand?_eq_some
    {snapshot : Snapshot}
    {source destination : Option Text}
    {sourceHost destinationHost : HostedNode}
    (sourceFound : snapshot.findNode? source = some sourceHost)
    (destinationFound :
      snapshot.findNode? destination = some destinationHost)
    (copy : Shard) :
    snapshot.moveCommand? (some copy) source destination =
      some
        { index := copy.index
          number := copy.number
          source := sourceHost.node.id
          destination := destinationHost.node.id } := by
  simp [moveCommand?, sourceFound, destinationFound]

/--
A command moves a copy onto a node with a copy of the same shard just if an
admitted request names its destination by the name or address of a record whose id
an earlier record has too, and that earlier record hosts the shard.
-/
theorem sent_onto_copy_iff
    (inventory : Inventory)
    (mover : MoveCommand → Reply)
    (shard : Option Shard)
    (source destination : Option Text) :
    (∃ command ∈
        ((ofInventory inventory).relocate mover shard source
          destination).sent,
      inventory.HasCopyOn command.destination command.index
        command.number) ↔
      ∃ moved found first earlier later,
        shard = some moved ∧
          (ofInventory inventory).judgeRelocation shard source
            destination = .approved ∧
          (ofInventory inventory).findNode? destination = some found ∧
          (∀ node ∈ inventory.nodes,
            some (node.id : Text) ≠ destination) ∧
          (ofInventory inventory).nodes = earlier ++ found :: later ∧
          first ∈ earlier ∧
          first.node.id = found.node.id ∧
          first.hosts moved.index moved.number = true := by
  constructor
  · rintro ⟨command, sent, reported⟩
    obtain ⟨approved, commandShape⟩ :=
      (mem_sent_relocate_iff _ _ _ _ _ _).mp sent
    obtain ⟨moved, sourceHost, found, rfl, sourceFound,
        destinationFound, _, _, apart, _⟩ :=
      (judgeRelocation_eq_approved_iff _ _ _ _).mp approved
    rw [moveCommand?_eq_some sourceFound destinationFound] at commandShape
    cases commandShape
    obtain ⟨first, firstMember, sameId, hosting⟩ :=
      (hasCopyOn_iff_exists_hosts _ _ _ _).mp reported
    have foundMember := mem_nodes_of_findNode? destinationFound
    have notHosting : found ≠ first := by
      rintro rfl
      simp [hosting] at apart
    obtain ⟨earlier, later, split, before⟩ :=
      (eq_or_later_of_hosts foundMember firstMember sameId
        hosting).resolve_left notHosting
    refine
      ⟨moved, found, first, earlier, later, rfl, approved,
        destinationFound, ?_, split, before, sameId, hosting⟩
    rintro node member rfl
    have hosted :=
      hosts_of_find?_id
        (find?_id_of_findNode? member destinationFound) reported
    simp [hosted] at apart
  · rintro ⟨moved, found, first, earlier, later, rfl, approved,
      destinationFound, _, split, firstMember, sameId, hosting⟩
    obtain ⟨copy, sourceHost, destinationHost, copyShape, sourceFound, _⟩ :=
      (judgeRelocation_eq_approved_iff _ _ _ _).mp approved
    refine
      ⟨_, (mem_sent_relocate_iff _ _ _ _ _ _).mpr
          ⟨approved, moveCommand?_eq_some sourceFound destinationFound _⟩,
        ?_⟩
    rw [hasCopyOn_iff_exists_hosts]
    exact ⟨first, by simp [split, firstMember], sameId, hosting⟩

/-- A started copy on the node with the id `b`. -/
def copyOnOther : Shard :=
  { index := "logs"
    number := 0
    primary := true
    state := .started
    node := some "b" }

/-- Another copy of the same shard, on the node with the id `a`. -/
def copyOnRepeated : Shard :=
  { index := "logs"
    number := 0
    primary := false
    state := .started
    node := some "a" }

/-- A cluster in which two records have the id `a`. -/
def repeatedIds : Inventory :=
  { nodes :=
      [ { id := "a", name := "first", roles := .ofList [.data] },
        { id := "a", name := "second", roles := .ofList [.data] },
        { id := "b", name := "other", roles := .ofList [.data] } ]
    shards := [copyOnRepeated, copyOnOther] }

/-- An admitted move can bring two copies of a shard onto one node. -/
theorem sent_onto_copy_of_repeatedIds :
    ¬ ∀ (inventory : Inventory)
        (mover : MoveCommand → Reply)
        (shard : Option Shard)
        (source destination : Option Text),
        ∀ command ∈
            ((ofInventory inventory).relocate mover shard source
              destination).sent,
          ¬ inventory.HasCopyOn command.destination command.index
            command.number := by
  intro apart
  have sent :
      { index := "logs"
        number := 0
        source := "b"
        destination := "a" } ∈
        ((ofInventory repeatedIds).relocate
          (fun _ => .answered { success := true })
          (some copyOnOther) (some "b") (some "second")).sent := by
    decide
  have reported : repeatedIds.HasCopyOn "a" "logs" 0 :=
    ⟨copyOnRepeated, by decide, rfl, by decide, rfl, rfl⟩
  exact apart _ _ _ _ _ _ sent reported

end Snapshot

end ShardAtlas
