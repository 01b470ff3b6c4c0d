import Mathlib.Data.List.Nodup
import ShardAtlas.Proofs.MoveDispatch
import ShardAtlas.Proofs.MoveRuns

namespace ShardAtlas

/-!
# Where a copy may go

A copy is offered those nodes of a snapshot whose own ids are admitted as its destination.
An id is looked up among the ids, names and addresses of all nodes, so what is offered might
be another node than the one that is judged. Where ids differ and none is empty, every node
is found under its own id. Then the offer can be told by the nodes alone, and each of them
is the destination of the command that is sent for it.
-/

namespace Snapshot

variable {inventory : Inventory} {host : HostedNode}

/-- Where ids differ, a record of a snapshot is known by its id. -/
theorem eq_of_id_eq_of_distinctIds
    (distinctIds : (inventory.nodes.map Node.id).Nodup)
    {other : HostedNode}
    (member : host ∈ (ofInventory inventory).nodes)
    (otherMember : other ∈ (ofInventory inventory).nodes)
    (sameId : host.node.id = other.node.id) :
    host = other :=
  List.inj_on_of_nodup_map (nodup_ids_nodes distinctIds) member
    otherMember sameId

/-- Where ids differ and none is empty, a record is found under its own id. -/
theorem findNode?_id
    (distinctIds : (inventory.nodes.map Node.id).Nodup)
    (filledIds : ∀ node ∈ inventory.nodes, node.id ≠ "")
    (member : host ∈ (ofInventory inventory).nodes) :
    (ofInventory inventory).findNode? (some (host.node.id : Text)) =
      some host := by
  have reported : host.node ∈ inventory.nodes := by
    rw [← map_node_nodes inventory]
    exact List.mem_map_of_mem member
  have resolved :=
    Inventory.resolveId?_of_mem_ids
      (List.mem_map_of_mem reported) (filledIds host.node reported)
  rw [← findNode?_map_id] at resolved
  obtain ⟨found, isFound, sameId⟩ := Option.map_eq_some_iff.mp resolved
  rw [isFound,
    eq_of_id_eq_of_distinctIds distinctIds
      (mem_nodes_of_findNode? isFound) member sameId]

/-- Where ids differ, a record has the copies that are sent to its id. -/
theorem mem_shards_iff_host?
    (distinctIds : (inventory.nodes.map Node.id).Nodup)
    (member : host ∈ (ofInventory inventory).nodes)
    (copy : Shard) :
    copy ∈ host.shards ↔
      copy ∈ inventory.shards ∧
        copy.host? (identifiers inventory.nodes) =
          some host.node.id := by
  have ofId := (shards_of_id_perm inventory host.node.id).mem_iff (a := copy)
  simp only [List.mem_flatMap, List.mem_filter, decide_eq_true_eq] at ofId
  rw [← ofId]
  constructor
  · intro here
    exact ⟨host, ⟨member, rfl⟩, here⟩
  · rintro ⟨other, ⟨otherMember, sameId⟩, there⟩
    rwa [eq_of_id_eq_of_distinctIds distinctIds otherMember member
      sameId] at there

/-- Where ids differ, a record that is found hosts just the shards of its copies. -/
theorem hosts_eq_true_iff_exists_shard
    (distinctIds : (inventory.nodes.map Node.id).Nodup)
    {identifier : Option Text}
    (found : (ofInventory inventory).findNode? identifier = some host)
    (index : Text)
    (number : Int) :
    host.hosts index number = true ↔
      ∃ copy ∈ host.shards, copy.index = index ∧ copy.number = number := by
  have member := mem_nodes_of_findNode? found
  rw [Inventory.hosts_eq_true_iff_of_distinctIds distinctIds found]
  simp only [Inventory.HasCopyOn, mem_shards_iff_host? distinctIds member,
    Shard.host?_eq_some_iff, and_assoc]

/-- A node is admitted as the destination of a copy by what it is and by what it holds. -/
theorem judgeRelocation_to_id_iff
    (distinctIds : (inventory.nodes.map Node.id).Nodup)
    (filledIds : ∀ node ∈ inventory.nodes, node.id ≠ "")
    (member : host ∈ (ofInventory inventory).nodes)
    (shard : Shard) :
    (ofInventory inventory).judgeRelocation (some shard) shard.node
        (some (host.node.id : Text)) = .approved ↔
      shard.state = .started ∧
        ∃ own,
          (ofInventory inventory).findNode? shard.node = some own ∧
            host.node.holdsData = true ∧
            host ≠ own ∧
            ∀ copy ∈ host.shards,
              ¬ (copy.index = shard.index ∧
                copy.number = shard.number) := by
  have found := findNode?_id distinctIds filledIds member
  have noCopy :
      host.hosts shard.index shard.number = false ↔
        ∀ copy ∈ host.shards,
          ¬ (copy.index = shard.index ∧ copy.number = shard.number) := by
    rw [← Bool.not_eq_true,
      hosts_eq_true_iff_exists_shard distinctIds found]
    simp only [not_exists, not_and]
  rw [judgeRelocation_eq_approved_iff]
  constructor
  · rintro ⟨copy, own, destination, same, ownFound, isFound, otherId,
      started, apart, holdsData⟩
    cases same
    rw [found] at isFound
    cases isFound
    exact
      ⟨started, own, ownFound, holdsData,
        fun same => otherId (congrArg (fun host => host.node.id) same.symm),
        noCopy.mp apart⟩
  · rintro ⟨started, own, ownFound, holdsData, other, apart⟩
    have otherId : own.node.id ≠ host.node.id := fun sameId =>
      other
        (eq_of_id_eq_of_distinctIds distinctIds
          (mem_nodes_of_findNode? ownFound) member sameId).symm
    exact
      ⟨shard, own, host, rfl, ownFound, found, otherId, started,
        noCopy.mpr apart, holdsData⟩

/-- A command is sent just for a move that is admitted. -/
theorem sent_relocate_ne_nil_iff
    (snapshot : Snapshot)
    (mover : MoveCommand → Reply)
    (shard : Option Shard)
    (source destination : Option Text) :
    (snapshot.relocate mover shard source destination).sent ≠ [] ↔
      snapshot.judgeRelocation shard source destination = .approved := by
  cases verdict : snapshot.judgeRelocation shard source destination with
  | refused reason =>
      simp [relocate_of_refused verdict]
  | approved =>
      obtain ⟨copy, sourceHost, destinationHost, rfl, sourceFound,
          destinationFound, _⟩ :=
        exists_hosts_of_approved verdict
      have isCommand :=
        moveCommand?_eq_some sourceFound destinationFound copy
      simp [relocate_of_approved verdict isCommand]

/-- Whatever the snapshot, a copy is offered the nodes for which a command is sent. -/
theorem destinationsFor_eq_filter_sent
    (snapshot : Snapshot)
    (mover : MoveCommand → Reply)
    (shard : Shard) :
    snapshot.destinationsFor shard =
      snapshot.nodes.filter fun host =>
        (snapshot.relocate mover (some shard) shard.node
          (some (host.node.id : Text))).sent ≠ [] := by
  refine List.filter_congr fun host _ => ?_
  rw [Bool.eq_iff_iff, Verdict.isApproved_eq_true_iff, decide_eq_true_eq,
    sent_relocate_ne_nil_iff]

/-- The one command that is sent for an admitted node has that node as its destination. -/
theorem exists_sent_to_id
    (distinctIds : (inventory.nodes.map Node.id).Nodup)
    (filledIds : ∀ node ∈ inventory.nodes, node.id ≠ "")
    (member : host ∈ (ofInventory inventory).nodes)
    {shard : Option Shard}
    {source : Option Text}
    (approved :
      (ofInventory inventory).judgeRelocation shard source
        (some (host.node.id : Text)) = .approved)
    (mover : MoveCommand → Reply) :
    ∃ command,
      ((ofInventory inventory).relocate mover shard source
          (some (host.node.id : Text))).sent = [command] ∧
        command.destination = host.node.id := by
  obtain ⟨copy, own, _, rfl, ownFound, _⟩ :=
    exists_hosts_of_approved approved
  have found := findNode?_id distinctIds filledIds member
  have isCommand := moveCommand?_eq_some ownFound found copy
  rw [relocate_of_approved approved isCommand]
  exact ⟨_, rfl, rfl⟩

/--
A copy is offered just the nodes to which it is sent, in the order of the snapshot.

The one command that is sent for a node on offer has that node as its destination. Nothing
is on offer for a copy that is not started or is on no known node. Any other copy is offered
the data nodes that are not its own and have no copy of the same shard, whatever the nodes
are called.
-/
theorem destinationsFor_eq_sent_to
    (inventory : Inventory)
    (distinctIds : (inventory.nodes.map Node.id).Nodup)
    (filledIds : ∀ node ∈ inventory.nodes, node.id ≠ "")
    (shard : Shard)
    (mover : MoveCommand → Reply) :
    let built := ofInventory inventory
    let offered := built.destinationsFor shard
    let sentTo (host : HostedNode) : List MoveCommand :=
      (built.relocate mover (some shard) shard.node
        (some (host.node.id : Text))).sent
    offered = (built.nodes.filter fun host => sentTo host ≠ []) ∧
      (offered.map fun host => host.node.id).Nodup ∧
      (∀ host ∈ offered,
        ∃ command,
          sentTo host = [command] ∧
            command.destination = host.node.id) ∧
      (shard.state ≠ .started ∨ built.findNode? shard.node = none →
        offered = []) ∧
      ∀ own,
        shard.state = .started → built.findNode? shard.node = some own →
          offered =
            built.nodes.filter fun host =>
              host.node.holdsData = true ∧ host ≠ own ∧
                ∀ copy ∈ host.shards,
                  ¬ (copy.index = shard.index ∧
                    copy.number = shard.number) := by
  intro built offered sentTo
  refine ⟨built.destinationsFor_eq_filter_sent mover shard, ?_, ?_, ?_, ?_⟩
  · exact (List.filter_sublist.map _).nodup (nodup_ids_nodes distinctIds)
  · intro host isOffered
    obtain ⟨member, approved⟩ := List.mem_filter.mp isOffered
    rw [Verdict.isApproved_eq_true_iff] at approved
    exact exists_sent_to_id distinctIds filledIds member approved mover
  · intro immovable
    refine List.filter_eq_nil_iff.mpr fun host member approved => ?_
    rw [Verdict.isApproved_eq_true_iff,
      judgeRelocation_to_id_iff distinctIds filledIds member] at approved
    obtain ⟨started, own, ownFound, _⟩ := approved
    rcases immovable with notStarted | nowhere
    · exact notStarted started
    · rw [nowhere] at ownFound
      cases ownFound
  · intro own started ownFound
    change (ofInventory inventory).findNode? shard.node = some own at ownFound
    refine List.filter_congr fun host member => ?_
    rw [Bool.eq_iff_iff, Verdict.isApproved_eq_true_iff, decide_eq_true_eq,
      judgeRelocation_to_id_iff distinctIds filledIds member]
    simp only [started, true_and, ownFound, Option.some.injEq,
      exists_eq_left']

/-- A started copy on the node with the id `b`. -/
def copyOnNamesake : Shard :=
  { index := "logs"
    number := 0
    primary := true
    state := .started
    node := some "b" }

/-- A cluster whose first node is called by the id of the second one. -/
def namesakeFirst : Inventory :=
  { nodes :=
      [ { id := "b", name := "a", roles := .ofList [.data] },
        { id := "a", name := "alpha", roles := .ofList [.data] },
        { id := "c", name := "gamma", roles := .ofList [.master] } ]
    shards := [copyOnNamesake] }

/-- A copy is offered the node with an id, though its own node has that id as its name. -/
theorem destinationsFor_on_namesakeFirst :
    let built := ofInventory namesakeFirst
    let offered := built.destinationsFor copyOnNamesake
    let mover (_ : MoveCommand) : Reply := .answered { success := true }
    (namesakeFirst.nodes.map Node.id).Nodup ∧
      (∀ node ∈ namesakeFirst.nodes, node.id ≠ "") ∧
      (offered.map fun host => host.node.id) = ["a"] ∧
      (∀ host ∈ offered,
        ∃ command,
          (built.relocate mover (some copyOnNamesake) (some "b")
              (some (host.node.id : Text))).sent = [command] ∧
            command.destination = host.node.id) ∧
      built.destinationsFor { copyOnNamesake with state := .relocating } =
        [] := by
  intro built offered mover
  have distinctIds : (namesakeFirst.nodes.map Node.id).Nodup := by
    decide
  have filledIds : ∀ node ∈ namesakeFirst.nodes, node.id ≠ "" := by
    decide
  have ofCopy (copy : Shard) :=
    destinationsFor_eq_sent_to namesakeFirst distinctIds filledIds copy
      mover
  obtain ⟨_, _, received, _, offer⟩ := ofCopy copyOnNamesake
  obtain ⟨_, _, _, nothing, _⟩ :=
    ofCopy { copyOnNamesake with state := .relocating }
  have own :
      built.findNode? copyOnNamesake.node =
        some (built.nodes.head (by decide)) := by
    decide +kernel
  refine ⟨distinctIds, filledIds, ?_, received, nothing (by decide)⟩
  rw [show offered = _ from offer _ rfl own]
  decide +kernel

end Snapshot

end ShardAtlas
