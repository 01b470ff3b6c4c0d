import ShardAtlas.Proofs.Relocation
import ShardAtlas.Proofs.Resolution

namespace ShardAtlas

/-!
# Moves one after the other

A move is judged on a snapshot of what is reported now, and one that is admitted gives
the copy its destination as its node. The next move is judged on a snapshot that is built
anew, in which copies refer to nodes by id, name or address.

Where no two nodes have the same id, a node that is found has every copy of its id. So a
move is admitted only onto a node without a copy of the shard, and no run of moves brings
two copies of a shard together.
-/

/-- A request to move a copy, given by its place in the report. -/
structure MoveRequest where
  place : Nat
  source : Option Text
  destination : Option Text
  deriving Repr, DecidableEq

namespace Inventory

/-- Number of assigned copies of a shard that are reported on the node with an id. -/
def copiesOn
    (inventory : Inventory)
    (id : String)
    (index : Text)
    (number : Int) :
    Nat :=
  inventory.shards.countP fun copy =>
    copy.host? (identifiers inventory.nodes) = some id ∧
      copy.index = index ∧ copy.number = number

/-- Whether no node has two copies of the same shard. -/
def KeepsCopiesApart
    (inventory : Inventory) :
    Prop :=
  ∀ id index number, inventory.copiesOn id index number ≤ 1

/-- The verdict on moving a copy, by a snapshot of what is reported. -/
def judge
    (inventory : Inventory)
    (copy : Shard)
    (request : MoveRequest) :
    Verdict :=
  (Snapshot.ofInventory inventory).judgeRelocation (some copy)
    request.source request.destination

/-- What is reported once a request is judged, and carried out if it is admitted. -/
def afterMove
    (inventory : Inventory)
    (request : MoveRequest) :
    Inventory :=
  match inventory.shards[request.place]? with
  | none =>
      inventory
  | some copy =>
      match
        inventory.judge copy request,
        (Snapshot.ofInventory inventory).moveCommand? (some copy)
          request.source request.destination
      with
      | .approved, some command =>
          { inventory with
            shards :=
              inventory.shards.set request.place
                { copy with node := some command.destination } }
      | _, _ =>
          inventory

/-- What is reported after some requests. -/
def afterMoves
    (inventory : Inventory)
    (requests : List MoveRequest) :
    Inventory :=
  requests.foldl afterMove inventory

/-- A copy of a shard is reported on an id just if their number is not zero. -/
theorem hasCopyOn_iff_copiesOn_pos
    (inventory : Inventory)
    (id : String)
    (index : Text)
    (number : Int) :
    inventory.HasCopyOn id index number ↔
      0 < inventory.copiesOn id index number := by
  simp only [copiesOn, List.countP_pos_iff, decide_eq_true_eq,
    Shard.host?_eq_some_iff, HasCopyOn, and_assoc]

/-- An id of a node stands for itself, unless it is empty. -/
theorem resolveId?_of_mem_ids
    {nodes : List Node}
    {id : String}
    (member : id ∈ nodes.map Node.id)
    (filled : id ≠ "") :
    resolveId? (identifiers nodes) (some id) = some id := by
  have named : (id : Text) ≠ ("" : Text) :=
    fun same => filled (congrArg Text.lead same)
  obtain ⟨node, inNodes, sameId⟩ := List.mem_map.mp member
  have known :
      (nodes.find? fun node => (node.id : Text) == (id : Text)).isSome =
        true :=
    List.find?_isSome.mpr ⟨node, inNodes, by simp [sameId]⟩
  obtain ⟨found, isFound⟩ := Option.isSome_iff_exists.mp known
  have foundId : found.id = id := by
    simpa using List.find?_some isFound
  simp only [resolveId?, named, if_false, get?_identifiers nodes named,
    isFound, Option.some_or, Option.map_some, foundId]

/-- An admitted move gives its copy the destination; any other changes nothing. -/
theorem afterMove_cases
    (inventory : Inventory)
    (request : MoveRequest) :
    (inventory.afterMove request = inventory ∧
        ∀ copy, inventory.shards[request.place]? = some copy →
          inventory.judge copy request ≠ .approved) ∨
      ∃ copy host,
        inventory.shards[request.place]? = some copy ∧
          inventory.judge copy request = .approved ∧
          (Snapshot.ofInventory inventory).findNode? request.destination =
            some host ∧
          copy.isAssigned = true ∧
          host.hosts copy.index copy.number = false ∧
          inventory.afterMove request =
            { inventory with
              shards :=
                inventory.shards.set request.place
                  { copy with node := some (host.node.id : Text) } } := by
  cases chosen : inventory.shards[request.place]? with
  | none =>
      exact .inl ⟨by simp [afterMove, chosen], by simp⟩
  | some copy =>
      cases verdict : inventory.judge copy request with
      | refused reason =>
          refine .inl ⟨by simp [afterMove, chosen, verdict], ?_⟩
          rintro _ same
          cases same
          rw [verdict]
          exact Verdict.noConfusion
      | approved =>
          obtain ⟨_, sourceHost, host, same, sourceFound, found, _,
              started, apart, _⟩ :=
            (Snapshot.judgeRelocation_eq_approved_iff _ _ _ _).mp verdict
          cases same
          refine
            .inr
              ⟨copy, host, rfl, verdict, found,
                by simp [Shard.isAssigned, started], apart, ?_⟩
          simp only [afterMove, chosen, verdict,
            Snapshot.moveCommand?_eq_some sourceFound found]

/-- Where no two nodes have the same id, a node that is found has every copy of its id. -/
theorem hosts_eq_true_iff_of_distinctIds
    {inventory : Inventory}
    (distinctIds : (inventory.nodes.map Node.id).Nodup)
    {identifier : Option Text}
    {host : HostedNode}
    (found :
      (Snapshot.ofInventory inventory).findNode? identifier = some host)
    (index : Text)
    (number : Int) :
    host.hosts index number = true ↔
      inventory.HasCopyOn host.node.id index number := by
  obtain ⟨earlier, later, split⟩ :=
    List.append_of_mem (Snapshot.mem_nodes_of_findNode? found)
  have ids := Snapshot.nodup_ids_nodes distinctIds
  rw [split, List.map_append, List.map_cons, List.nodup_append] at ids
  have first :
      host.node.id ∉ earlier.map (fun other => other.node.id) :=
    fun repeated => ids.2.2 _ repeated host.node.id (by simp) rfl
  rw [Snapshot.hosts_of_nodes_eq split index number]
  exact and_iff_right first

/-- No request changes the nodes. -/
theorem nodes_afterMove
    (inventory : Inventory)
    (request : MoveRequest) :
    (inventory.afterMove request).nodes = inventory.nodes := by
  rcases inventory.afterMove_cases request with
    ⟨same, _⟩ | ⟨_, _, _, _, _, _, _, moved⟩
  · rw [same]
  · rw [moved]

/-- No request changes how many copies are reported. -/
theorem length_shards_afterMove
    (inventory : Inventory)
    (request : MoveRequest) :
    (inventory.afterMove request).shards.length =
      inventory.shards.length := by
  rcases inventory.afterMove_cases request with
    ⟨same, _⟩ | ⟨_, _, _, _, _, _, _, moved⟩
  · rw [same]
  · rw [moved]
    exact List.length_set

/-- Number of copies on a node once a copy has another node. -/
theorem copiesOn_set
    {inventory : Inventory}
    {place : Nat}
    {copy : Shard}
    (reported : inventory.shards[place]? = some copy)
    (node : Option Text)
    (id : String)
    (index : Text)
    (number : Int) :
    let isOn (reference : Option Text) : Prop :=
      { copy with node := reference }.host? (identifiers inventory.nodes) =
          some id ∧
        copy.index = index ∧ copy.number = number
    { inventory with
        shards :=
          inventory.shards.set place
            { copy with node := node } }.copiesOn id index number =
      inventory.copiesOn id index number -
        (if isOn copy.node then 1 else 0) +
        (if isOn node then 1 else 0) := by
  intro isOn
  obtain ⟨within, isCopy⟩ := List.getElem?_eq_some_iff.mp reported
  simp only [copiesOn, List.countP_set within, isCopy, decide_eq_true_eq]
  rfl

/-- A copy with an id of a node as its node is on no other one. -/
theorem eq_of_resolveId?_id
    {nodes : List Node}
    {id other : String}
    (member : id ∈ nodes.map Node.id)
    (resolved :
      resolveId? (identifiers nodes) (some (id : Text)) = some other) :
    other = id := by
  by_cases blank : id = ""
  · subst blank
    cases resolved
  · rw [resolveId?_of_mem_ids member blank] at resolved
    exact (Option.some.inj resolved).symm

/-- The node that an identifier stands for is one of the inventory. -/
theorem mem_ids_of_findNode?
    {inventory : Inventory}
    {identifier : Option Text}
    {host : HostedNode}
    (found :
      (Snapshot.ofInventory inventory).findNode? identifier = some host) :
    host.node.id ∈ inventory.nodes.map Node.id := by
  have resolved :
      resolveId? (identifiers inventory.nodes) identifier =
        some host.node.id := by
    rw [← Snapshot.findNode?_map_id, found]
    rfl
  exact mem_ids_of_resolveId? resolved

/-- A request keeps copies apart where no two nodes have the same id. -/
theorem KeepsCopiesApart.afterMove
    {inventory : Inventory}
    (apart : inventory.KeepsCopiesApart)
    (distinctIds : (inventory.nodes.map Node.id).Nodup)
    (request : MoveRequest) :
    (inventory.afterMove request).KeepsCopiesApart := by
  rcases inventory.afterMove_cases request with
    ⟨same, _⟩ | ⟨copy, host, reported, _, found, _, noCopy, moved⟩
  · rw [same]
    exact apart
  · -- The rule on duplicates has found no copy of the shard on the destination.
    have noneThere :
        inventory.copiesOn host.node.id copy.index copy.number = 0 := by
      have notHosted :=
        (hosts_eq_true_iff_of_distinctIds distinctIds found copy.index
          copy.number).not.mp (by simp [noCopy])
      rw [hasCopyOn_iff_copiesOn_pos] at notHosted
      omega
    intro id index number
    have atMostOne := apart id index number
    rw [moved, copiesOn_set reported]
    split
    · split
      · omega
      · omega
    · split
      · next landed =>
          obtain ⟨sent, rfl, rfl⟩ := landed
          have sameId : id = host.node.id :=
            eq_of_resolveId?_id (mem_ids_of_findNode? found)
              ((Shard.host?_eq_some_iff _ _ _).mp sent).2
          rw [sameId]
          omega
      · omega

/-- An admitted move brings its copy to the destination. -/
theorem copiesOn_afterMove
    {inventory : Inventory}
    (apart : inventory.KeepsCopiesApart)
    (distinctIds : (inventory.nodes.map Node.id).Nodup)
    (filledIds : ∀ node ∈ inventory.nodes, node.id ≠ "")
    {request : MoveRequest}
    {copy : Shard}
    (reported : inventory.shards[request.place]? = some copy)
    (admitted : inventory.judge copy request = .approved) :
    ∃ host,
      (Snapshot.ofInventory inventory).findNode? request.destination =
          some host ∧
        inventory.afterMove request =
          { inventory with
            shards :=
              inventory.shards.set request.place
                { copy with node := some (host.node.id : Text) } } ∧
        (inventory.afterMove request).copiesOn host.node.id copy.index
          copy.number = 1 := by
  rcases inventory.afterMove_cases request with
    ⟨_, refused⟩ | ⟨chosen, host, same, _, found, assigned, _, moved⟩
  · exact (refused copy reported admitted).elim
  · rw [reported] at same
    cases same
    have within := (List.getElem?_eq_some_iff.mp reported).1
    have placed :
        (inventory.afterMove request).shards[request.place]? =
          some { copy with node := some (host.node.id : Text) } := by
      simp [moved, within]
    refine ⟨host, found, moved, ?_⟩
    have member := mem_ids_of_findNode? found
    have filled : host.node.id ≠ "" := by
      obtain ⟨node, inNodes, sameId⟩ := List.mem_map.mp member
      exact sameId ▸ filledIds node inNodes
    have there :
        (inventory.afterMove request).HasCopyOn host.node.id copy.index
          copy.number := by
      refine ⟨_, List.mem_of_getElem? placed, assigned, ?_, rfl, rfl⟩
      rw [inventory.nodes_afterMove]
      exact resolveId?_of_mem_ids member filled
    rw [hasCopyOn_iff_copiesOn_pos] at there
    have atMostOne :=
      apart.afterMove distinctIds request host.node.id copy.index
        copy.number
    omega

/-- A run of requests keeps copies apart, and with them the nodes and the number of copies. -/
theorem KeepsCopiesApart.afterMoves
    {inventory : Inventory}
    (apart : inventory.KeepsCopiesApart)
    (distinctIds : (inventory.nodes.map Node.id).Nodup)
    (requests : List MoveRequest) :
    (inventory.afterMoves requests).KeepsCopiesApart ∧
      (inventory.afterMoves requests).nodes = inventory.nodes ∧
      (inventory.afterMoves requests).shards.length =
        inventory.shards.length := by
  induction requests generalizing inventory with
  | nil =>
      exact ⟨apart, rfl, rfl⟩
  | cons request rest inductionHypothesis =>
      have nodes := inventory.nodes_afterMove request
      obtain ⟨apartLater, nodesLater, lengthLater⟩ :=
        inductionHypothesis (apart.afterMove distinctIds request)
          (nodes ▸ distinctIds)
      exact
        ⟨apartLater, nodesLater.trans nodes,
          lengthLater.trans (inventory.length_shards_afterMove request)⟩

/--
Moves that are judged one after the other never bring two copies of a shard onto one node.

At every point of a run, the number of copies is the one at first and copies are apart; a
request that is refused then changes nothing, and one that is admitted gives its copy the
id of the destination, where it is the only copy of its shard.
-/
theorem moves_keep_copies_apart
    {inventory : Inventory}
    (distinctIds : (inventory.nodes.map Node.id).Nodup)
    (filledIds : ∀ node ∈ inventory.nodes, node.id ≠ "")
    (apart : inventory.KeepsCopiesApart)
    (requests : List MoveRequest) :
    let reached := inventory.afterMoves requests
    reached.KeepsCopiesApart ∧
      reached.shards.length = inventory.shards.length ∧
      ∀ request copy,
        reached.shards[request.place]? = some copy →
          if reached.judge copy request = .approved then
            ∃ host,
              (Snapshot.ofInventory reached).findNode?
                  request.destination = some host ∧
                reached.afterMove request =
                  { reached with
                    shards :=
                      reached.shards.set request.place
                        { copy with node := some (host.node.id : Text) } } ∧
                (reached.afterMove request).copiesOn host.node.id
                  copy.index copy.number = 1
          else
            reached.afterMove request = reached := by
  intro reached
  obtain ⟨apartLater, nodes, length⟩ := apart.afterMoves distinctIds requests
  refine ⟨apartLater, length, ?_⟩
  intro request copy reported
  split
  · next admitted =>
      exact
        copiesOn_afterMove apartLater (nodes ▸ distinctIds)
          (nodes ▸ filledIds) reported admitted
  · next refused =>
      rcases reached.afterMove_cases request with
        ⟨same, _⟩ | ⟨_, _, chosen, admitted, _⟩
      · exact same
      · rw [reported] at chosen
        cases chosen
        exact (refused admitted).elim

/-- A copy on the node with the id `a`, which is given by name. -/
def copyByName : Shard :=
  { index := "logs"
    number := 0
    primary := true
    state := .started
    node := some "alpha" }

/-- Another copy of the same shard, on the node with the id `b`. -/
def copyById : Shard :=
  { index := "logs"
    number := 0
    primary := false
    state := .started
    node := some "b" }

/-- A cluster in which the name of one node is the id of another. -/
def threeNodes : Inventory :=
  { nodes :=
      [ { id := "a", name := "alpha", roles := .ofList [.data] },
        { id := "b", name := "a", roles := .ofList [.data] },
        { id := "c", name := "gamma", roles := .ofList [.data],
          address := some "10.0.0.3" } ]
    shards := [copyByName, copyById] }

/--
A copy is refused on a node that has another one, and admitted there after that one has
moved on.
-/
theorem move_admitted_after_other_copy_left :
    let away : MoveRequest := ⟨0, some "alpha", some "10.0.0.3"⟩
    let follow : MoveRequest := ⟨1, some "b", some "a"⟩
    (threeNodes.nodes.map Node.id).Nodup ∧
      (∀ node ∈ threeNodes.nodes, node.id ≠ "") ∧
      threeNodes.KeepsCopiesApart ∧
      threeNodes.afterMove follow = threeNodes ∧
      (threeNodes.afterMoves [follow, away, follow]).shards.map Shard.node =
        [some ("c" : Text), some ("a" : Text)] ∧
      (threeNodes.afterMoves [follow, away, follow]).KeepsCopiesApart ∧
      (threeNodes.afterMoves [follow, away, follow]).shards.length = 2 := by
  intro away follow
  have distinctIds : (threeNodes.nodes.map Node.id).Nodup := by
    decide
  have filledIds : ∀ node ∈ threeNodes.nodes, node.id ≠ "" := by
    decide
  have apart : threeNodes.KeepsCopiesApart := by
    intro id index number
    have onA :
        copyByName.host? (identifiers threeNodes.nodes) = some "a" := by
      decide
    have onB :
        copyById.host? (identifiers threeNodes.nodes) = some "b" := by
      decide
    have shards : threeNodes.shards = [copyByName, copyById] :=
      rfl
    rw [copiesOn, shards, List.countP_cons, List.countP_cons, onA, onB]
    grind
  obtain ⟨_, _, atFirst⟩ :=
    moves_keep_copies_apart distinctIds filledIds apart []
  obtain ⟨apartAtLast, length, _⟩ :=
    moves_keep_copies_apart distinctIds filledIds apart
      [follow, away, follow]
  have unmoved := atFirst follow copyById rfl
  rw [if_neg (by decide +kernel)] at unmoved
  exact
    ⟨distinctIds, filledIds, apart, unmoved, by decide +kernel,
      apartAtLast, length⟩

end Inventory

end ShardAtlas
