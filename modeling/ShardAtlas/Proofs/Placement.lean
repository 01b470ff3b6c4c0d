import ShardAtlas.Snapshot.Placement

namespace ShardAtlas

/-!
# Where copies are placed

Placing goes through the copies one by one. Here every place is described by the
whole list instead: the copies on an id are the ones sent to that id, in the order
in which they were reported, and likewise for the unknown node and the unassigned
copies. The place of an id is handed out to the first node with that id, and later
nodes with it stay empty.
-/

namespace ShardsByIndex

/-- The copies of a list by their index, in the order of the list. -/
def collected
    (shards : List Shard) :
    ShardsByIndex :=
  shards.foldl add .empty

/-- Adding a copy keeps all copies and puts in the new one. -/
theorem shards_add_perm
    (placed : ShardsByIndex)
    (shard : Shard) :
    (placed.add shard).shards.Perm (shard :: placed.shards) := by
  rcases placed with ⟨entries, distinct⟩
  simp only [add, shards, OrderedMap.alter, OrderedMap.values]
  clear distinct
  induction entries with
  | nil =>
      simp [OrderedMap.alterEntries]
  | cons entry rest inductionHypothesis =>
      rcases entry with ⟨index, copies⟩
      by_cases same : index = shard.index
      · simp only [OrderedMap.alterEntries, same, if_true,
          Option.getD_some, List.map_cons, List.flatten_cons,
          List.append_assoc, List.singleton_append]
        exact List.perm_middle
      · simp only [OrderedMap.alterEntries, same, if_false,
          List.map_cons, List.flatten_cons]
        exact (inductionHypothesis.append_left copies).trans
          List.perm_middle

/-- Collecting further copies keeps all copies and puts in the new ones. -/
theorem shards_foldl_add_perm
    (shards : List Shard)
    (placed : ShardsByIndex) :
    (shards.foldl add placed).shards.Perm (placed.shards ++ shards) := by
  induction shards generalizing placed with
  | nil =>
      simp
  | cons shard rest inductionHypothesis =>
      calc
        ((rest.foldl add (placed.add shard)).shards).Perm
            ((placed.add shard).shards ++ rest) :=
          inductionHypothesis (placed.add shard)
        List.Perm _ ((shard :: placed.shards) ++ rest) :=
          (shards_add_perm placed shard).append_right rest
        List.Perm _ (placed.shards ++ shard :: rest) :=
          List.perm_middle.symm

/-- Collected copies are the copies of the list. -/
theorem shards_collected_perm
    (shards : List Shard) :
    (collected shards).shards.Perm shards := by
  simpa [collected, ShardsByIndex.shards, OrderedMap.values,
    OrderedMap.empty] using
    shards_foldl_add_perm shards .empty

/-- The copies of an index after a copy is added. -/
theorem ofIndex_add
    (placed : ShardsByIndex)
    (shard : Shard)
    (index : Text) :
    (placed.add shard).ofIndex index =
      if shard.index = index then
        placed.ofIndex index ++ [shard]
      else
        placed.ofIndex index := by
  unfold ofIndex add
  rw [OrderedMap.get?_alter]
  by_cases same : shard.index = index
  · subst same
    simp
  · have different : index ≠ shard.index :=
      fun equal => same equal.symm
    simp [same, different]

/-- The collected copies of an index are those of the list. -/
theorem ofIndex_collected
    (shards : List Shard)
    (index : Text) :
    (collected shards).ofIndex index =
      shards.filter fun shard => shard.index = index := by
  have further
      (placed : ShardsByIndex) :
      (shards.foldl add placed).ofIndex index =
        placed.ofIndex index ++
          shards.filter fun shard => shard.index = index := by
    induction shards generalizing placed with
    | nil =>
        simp
    | cons shard rest inductionHypothesis =>
        rw [List.foldl_cons, inductionHypothesis, ofIndex_add]
        by_cases same : shard.index = index <;> simp [same]
  have start : ofIndex .empty index = [] :=
    rfl
  simpa [collected, start] using further .empty

/-- Sorting the copies of every index keeps all copies. -/
theorem shards_sorted_perm
    (placed : ShardsByIndex) :
    placed.sorted.shards.Perm placed.shards := by
  simp only [shards, sorted, OrderedMap.values_mapValues]
  induction placed.values with
  | nil =>
      simp
  | cons copies rest inductionHypothesis =>
      simp only [List.map_cons, List.flatten_cons]
      exact (List.mergeSort_perm copies _).append inductionHypothesis

/-- Sorting keeps the copies of an index. -/
theorem mem_ofIndex_sorted
    (placed : ShardsByIndex)
    (index : Text)
    (shard : Shard) :
    shard ∈ placed.sorted.ofIndex index ↔
      shard ∈ placed.ofIndex index := by
  unfold ofIndex sorted
  rw [OrderedMap.get?_mapValues]
  cases placed.get? index with
  | none =>
      simp
  | some copies =>
      simp [List.mem_mergeSort]

/-- Whether a copy of a shard is among collected and sorted copies. -/
theorem any_ofIndex_sorted_collected
    (shards : List Shard)
    (index : Text)
    (number : Int) :
    ((collected shards).sorted.ofIndex index).any
        (fun shard => shard.number == number) = true ↔
      ∃ shard ∈ shards, shard.index = index ∧ shard.number = number := by
  simp [List.any_eq_true, mem_ofIndex_sorted, ofIndex_collected,
    and_assoc]

end ShardsByIndex

/-- The id to which a copy is sent, if it is assigned and its node is known. -/
def Shard.host?
    (known : OrderedMap Text String)
    (shard : Shard) :
    Option String :=
  if shard.isAssigned then
    resolveId? known shard.node
  else
    none

/-- Whether a copy is assigned to a node that nobody knows. -/
def Shard.isStray
    (known : OrderedMap Text String)
    (shard : Shard) :
    Bool :=
  shard.isAssigned && (resolveId? known shard.node).isNone

/-- A copy is sent to an id just if it is assigned and refers to that id. -/
theorem Shard.host?_eq_some_iff
    (known : OrderedMap Text String)
    (shard : Shard)
    (id : String) :
    shard.host? known = some id ↔
      shard.isAssigned = true ∧
        resolveId? known shard.node = some id := by
  unfold host?
  split <;> simp_all

/-- Every copy is sent to one place: an id, the unknown node, or the unassigned. -/
theorem Shard.places_exclusive
    (known : OrderedMap Text String)
    (shard : Shard) :
    (shard.host? known).isSome =
      (!shard.isStray known && shard.isAssigned) := by
  unfold host? isStray
  cases shard.isAssigned <;>
    cases resolveId? known shard.node <;> rfl

/-- A reference stands for no id just if it is missing, empty or not entered. -/
theorem resolveId?_eq_none_iff
    (known : OrderedMap Text String)
    (reference : Option Text) :
    resolveId? known reference = none ↔
      reference = none ∨ reference = some ("" : Text) ∨
        reference.bind known.get? = none := by
  cases reference with
  | none =>
      simp [resolveId?]
  | some text =>
      by_cases blank : text = "" <;> simp [resolveId?, blank]

namespace Inventory

/-- The assigned copies whose reference is missing, empty or not entered. -/
def strays
    (inventory : Inventory) :
    List Shard :=
  inventory.shards.filter fun shard =>
    shard.state ≠ .unassigned ∧
      (shard.node = none ∨ shard.node = some ("" : Text) ∨
        shard.node.bind (identifiers inventory.nodes).get? = none)

/-- The copies on nodes that nobody knows are those without an id. -/
theorem filter_isStray_eq_strays
    (inventory : Inventory) :
    (inventory.shards.filter fun shard =>
        shard.isStray (identifiers inventory.nodes)) =
      inventory.strays := by
  apply List.filter_congr
  intro shard _
  rw [Bool.eq_iff_iff, decide_eq_true_eq, Shard.isStray,
    Bool.and_eq_true, Option.isNone_iff_eq_none, resolveId?_eq_none_iff,
    Shard.isAssigned, bne_iff_ne]

end Inventory

namespace Placement

variable (known : OrderedMap Text String)

/-- At the start there is an empty place for the id of every node. -/
theorem hosted_start
    (nodes : List Node)
    (id : String) :
    (start nodes).hosted.get? id =
      if id ∈ nodes.map Node.id then
        some .empty
      else
        none := by
  have further
      (hosted : OrderedMap String ShardsByIndex) :
      (nodes.foldl
        (fun hosted node => hosted.insert node.id .empty)
        hosted).get? id =
        if id ∈ nodes.map Node.id then
          some .empty
        else
          hosted.get? id := by
    induction nodes generalizing hosted with
    | nil =>
        simp
    | cons node rest inductionHypothesis =>
        rw [List.foldl_cons, inductionHypothesis,
          OrderedMap.get?_insert]
        by_cases same : id = node.id <;>
          by_cases later : id ∈ rest.map Node.id <;>
          simp_all
  simpa [start] using further .empty

/-- What placing one copy does to the place of an id. -/
theorem hosted_place
    (placement : Placement)
    (shard : Shard)
    (id : String) :
    (place known placement shard).hosted.get? id =
      if shard.host? known = some id then
        some (((placement.hosted.get? id).getD .empty).add shard)
      else
        placement.hosted.get? id := by
  unfold place Shard.host?
  cases shard.isAssigned with
  | false =>
      simp
  | true =>
      cases resolveId? known shard.node with
      | none =>
          simp
      | some host =>
          simp only [if_true, OrderedMap.get?_alter,
            Option.some.injEq]
          by_cases same : id = host
          · simp [same]
          · simp [same, Ne.symm same]

/-- What placing one copy does to the unknown node. -/
theorem unknown_place
    (placement : Placement)
    (shard : Shard) :
    (place known placement shard).unknown =
      if shard.isStray known then
        placement.unknown.add shard
      else
        placement.unknown := by
  unfold place Shard.isStray
  cases shard.isAssigned <;>
    cases resolveId? known shard.node <;> rfl

/-- What placing one copy does to the unassigned ones. -/
theorem unassigned_place
    (placement : Placement)
    (shard : Shard) :
    (place known placement shard).unassigned =
      if shard.isAssigned then
        placement.unassigned
      else
        placement.unassigned ++ [shard] := by
  unfold place
  cases shard.isAssigned <;>
    cases resolveId? known shard.node <;> rfl

/-- What placing copies does to the place of an id. -/
theorem hosted_foldl_place
    (shards : List Shard)
    (placement : Placement)
    (id : String) :
    ((shards.foldl (place known) placement).hosted.get? id).getD .empty =
      (shards.filter fun shard => shard.host? known = some id).foldl
        ShardsByIndex.add
        ((placement.hosted.get? id).getD .empty) := by
  induction shards generalizing placement with
  | nil =>
      rfl
  | cons shard rest inductionHypothesis =>
      rw [List.foldl_cons, inductionHypothesis, hosted_place]
      by_cases sent : shard.host? known = some id <;> simp [sent]

/-- What placing copies does to the unknown node. -/
theorem unknown_foldl_place
    (shards : List Shard)
    (placement : Placement) :
    (shards.foldl (place known) placement).unknown =
      (shards.filter fun shard => shard.isStray known).foldl
        ShardsByIndex.add placement.unknown := by
  induction shards generalizing placement with
  | nil =>
      rfl
  | cons shard rest inductionHypothesis =>
      rw [List.foldl_cons, inductionHypothesis, unknown_place]
      cases stray : shard.isStray known <;> simp [stray]

/-- What placing copies does to the unassigned ones. -/
theorem unassigned_foldl_place
    (shards : List Shard)
    (placement : Placement) :
    (shards.foldl (place known) placement).unassigned =
      placement.unassigned ++
        shards.filter fun shard => !shard.isAssigned := by
  induction shards generalizing placement with
  | nil =>
      simp
  | cons shard rest inductionHypothesis =>
      rw [List.foldl_cons, inductionHypothesis, unassigned_place]
      cases assigned : shard.isAssigned <;> simp [assigned]

/-- Placing a copy warns of it just if nobody knows its node. -/
theorem strays_place
    (placement : Placement)
    (shard : Shard) :
    (place known placement shard).strays =
      if shard.isStray known then
        placement.strays ++ [shard]
      else
        placement.strays := by
  unfold place Shard.isStray
  cases shard.isAssigned <;>
    cases resolveId? known shard.node <;> rfl

/-- The copies that are warned of come as they are reported. -/
theorem strays_foldl_place
    (shards : List Shard)
    (placement : Placement) :
    (shards.foldl (place known) placement).strays =
      placement.strays ++ shards.filter fun shard => shard.isStray known := by
  induction shards generalizing placement with
  | nil =>
      simp
  | cons shard rest inductionHypothesis =>
      rw [List.foldl_cons, inductionHypothesis, strays_place]
      cases stray : shard.isStray known <;> simp [stray]

/-- The place of an id holds the copies that are sent to that id. -/
theorem hosted_ofInventory
    (inventory : Inventory)
    (id : String) :
    ((ofInventory inventory).hosted.get? id).getD .empty =
      ShardsByIndex.collected
        (inventory.shards.filter fun shard =>
          shard.host? (identifiers inventory.nodes) = some id) := by
  have emptyPlace :
      ((start inventory.nodes).hosted.get? id).getD .empty = .empty := by
    rw [hosted_start]
    split <;> rfl
  rw [ofInventory, hosted_foldl_place, emptyPlace]
  rfl

/-- The unknown node holds the copies on nodes that nobody knows. -/
theorem unknown_ofInventory
    (inventory : Inventory) :
    (ofInventory inventory).unknown =
      ShardsByIndex.collected
        (inventory.shards.filter fun shard =>
          shard.isStray (identifiers inventory.nodes)) :=
  unknown_foldl_place _ _ _

/-- The unassigned copies are those of the inventory, in its order. -/
theorem unassigned_ofInventory
    (inventory : Inventory) :
    (ofInventory inventory).unassigned =
      inventory.shards.filter fun shard => !shard.isAssigned := by
  rw [ofInventory, unassigned_foldl_place]
  rfl

/-- The copies that are warned of are the stray ones of the inventory, in its order. -/
theorem strays_ofInventory
    (inventory : Inventory) :
    (ofInventory inventory).strays = inventory.strays := by
  rw [ofInventory, strays_foldl_place, inventory.filter_isStray_eq_strays]
  rfl

/-- The place of an id, with the copies of every index in order. -/
def sortedPlace
    (placement : Placement)
    (id : String) :
    ShardsByIndex :=
  ((placement.hosted.get? id).getD .empty).sorted

/-- The place of an id has every copy once that is sent to that id. -/
theorem shards_sortedPlace_perm
    (inventory : Inventory)
    (id : String) :
    (((ofInventory inventory).sortedPlace id).shards).Perm
      (inventory.shards.filter fun shard =>
        shard.host? (identifiers inventory.nodes) = some id) := by
  unfold sortedPlace
  rw [hosted_ofInventory]
  exact
    (ShardsByIndex.shards_sorted_perm _).trans
      (ShardsByIndex.shards_collected_perm _)

/-- The hosts are the nodes in their order. -/
theorem map_node_hosts
    (placement : Placement)
    (seen : List String)
    (nodes : List Node) :
    (placement.hosts seen nodes).map HostedNode.node = nodes := by
  induction nodes generalizing seen with
  | nil =>
      rfl
  | cons node rest inductionHypothesis =>
      simp [hosts, inductionHypothesis]

/-- A host has the place of its id if no host before has that id, and none else. -/
theorem placed_of_hosts_eq
    {placement : Placement}
    {seen : List String}
    {nodes : List Node}
    {earlier later : List HostedNode}
    {host : HostedNode}
    (split : placement.hosts seen nodes = earlier ++ host :: later) :
    host.placed =
      if host.node.id ∈ earlier.map (fun other => other.node.id) ++ seen then
        .empty
      else
        placement.sortedPlace host.node.id := by
  induction nodes generalizing seen earlier with
  | nil =>
      simp [hosts] at split
  | cons node rest inductionHypothesis =>
      cases earlier with
      | nil =>
          simp only [hosts, List.nil_append, List.cons.injEq] at split
          rw [← split.1]
          simp [sortedPlace]
      | cons first between =>
          simp only [hosts, List.cons_append, List.cons.injEq] at split
          rw [inductionHypothesis split.2, ← split.1]
          simp only [List.map_cons, List.cons_append, List.mem_append,
            List.mem_cons]
          congr 1
          ac_rfl

end Placement

end ShardAtlas
