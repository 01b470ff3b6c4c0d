import Mathlib.Data.List.Perm.Basic
import ShardAtlas.Proofs.Identifiers
import ShardAtlas.Proofs.Placement
import ShardAtlas.Proofs.Traversal

namespace ShardAtlas

/-!
# Conservation of copies

A snapshot has every reported copy once, also where ids are repeated or name
other nodes. Two arguments meet here: placing sends every copy to one place, and
handing out the places neither drops nor doubles one.

Building goes through the copies once and may end on the way. This is said of a
second, strict way of building, which gives up when a place is missing or when the
warning about a stray copy cannot be written. Only the second ever happens.
-/

/-- What ends a build: an id has no place, or a number is too long for a warning. -/
inductive BuildFault
  | missingPlace (id : String)
  | longNumber (cause : Text.LongInteger)
  deriving Repr, DecidableEq

namespace Placement

/-- The place of an id, which has to be there. -/
def placeOf
    (placement : Placement)
    (id : String) :
    Except BuildFault ShardsByIndex :=
  match placement.hosted.get? id with
  | some placed => .ok placed
  | none => .error (.missingPlace id)

/--
Send one copy to its place.

The place of an id has to be there, and a stray copy is warned of.
-/
def place?
    (known : OrderedMap Text String)
    (placement : Placement)
    (shard : Shard) :
    Except BuildFault Placement :=
  match shard.host? known with
  | some id => do
      let placed ← placement.placeOf id
      pure
        { placement with
          hosted := placement.hosted.insert id (placed.add shard) }
  | none => do
      if shard.isStray known then
        let _ ← (strayWarning shard).mapError .longNumber
      pure (placement.place known shard)

/-- The nodes with their copies, where the place of every id has to be there. -/
def hosts?
    (placement : Placement) :
    List String →
    List Node →
    Except BuildFault (List HostedNode)
  | _, [] =>
      pure []
  | seen, node :: rest => do
      let placed ←
        if node.id ∈ seen then
          pure .empty
        else
          (placement.placeOf node.id).map ShardsByIndex.sorted
      let others ← placement.hosts? (node.id :: seen) rest
      pure ({ node := node, placed := placed } :: others)

/-- Whether there is a place for the id of every node. -/
def HasPlaces
    (nodes : List Node)
    (placement : Placement) :
    Prop :=
  ∀ id ∈ nodes.map Node.id, (placement.hosted.get? id).isSome

/-- At the start there is a place for every id. -/
theorem hasPlaces_start
    (nodes : List Node) :
    (start nodes).HasPlaces nodes := by
  intro id member
  rw [hosted_start, if_pos member]
  rfl

/-- Placing a copy takes no place away. -/
theorem HasPlaces.place
    {nodes : List Node}
    {placement : Placement}
    (places : placement.HasPlaces nodes)
    (known : OrderedMap Text String)
    (shard : Shard) :
    (placement.place known shard).HasPlaces nodes := by
  intro id member
  rw [hosted_place]
  split
  · rfl
  · exact places id member

/-- Placing copies takes no place away. -/
theorem HasPlaces.foldl_place
    {nodes : List Node}
    {placement : Placement}
    (places : placement.HasPlaces nodes)
    (known : OrderedMap Text String)
    (shards : List Shard) :
    (shards.foldl (Placement.place known) placement).HasPlaces nodes := by
  induction shards generalizing placement with
  | nil =>
      exact places
  | cons shard rest inductionHypothesis =>
      exact inductionHypothesis (places.place known shard)

/-- Where every id has a place, a copy that is no stray is placed strictly as it is placed. -/
theorem place?_eq_ok
    {nodes : List Node}
    {placement : Placement}
    (places : placement.HasPlaces nodes)
    {shard : Shard}
    (settled : shard.isStray (identifiers nodes) = false) :
    placement.place? (identifiers nodes) shard =
      .ok (placement.place (identifiers nodes) shard) := by
  unfold place?
  cases sent : shard.host? (identifiers nodes) with
  | none =>
      simp only [settled]
      rfl
  | some id =>
      obtain ⟨assigned, resolved⟩ :=
        (Shard.host?_eq_some_iff _ _ _).mp sent
      obtain ⟨placed, found⟩ :=
        Option.isSome_iff_exists.mp
          (places id (mem_ids_of_resolveId? resolved))
      simp only [placeOf, Placement.place, found, assigned, resolved, if_true,
        OrderedMap.alter_eq_insert _ found]
      rfl

/-- A stray copy is placed strictly once it is warned of. -/
theorem place?_of_stray
    {known : OrderedMap Text String}
    {shard : Shard}
    (stray : shard.isStray known = true)
    (placement : Placement) :
    placement.place? known shard =
      ((strayWarning shard).map fun _ =>
        placement.place known shard).mapError .longNumber := by
  have sentNowhere : shard.host? known = none := by
    have exclusive := Shard.places_exclusive known shard
    rw [stray] at exclusive
    exact Option.isNone_iff_eq_none.mp (by simpa using exclusive)
  unfold place?
  simp only [sentNowhere, stray, if_true]
  cases strayWarning shard <;> rfl

/-- Where every id has a place, placing copies strictly fails just for warnings of strays. -/
theorem foldlM_place?_eq
    {nodes : List Node}
    {placement : Placement}
    (places : placement.HasPlaces nodes)
    (shards : List Shard) :
    shards.foldlM (place? (identifiers nodes)) placement =
      (Message.given
        ((shards.filter fun shard => shard.isStray (identifiers nodes)).map
          strayWarning)
        (shards.foldl (Placement.place (identifiers nodes))
          placement)).mapError .longNumber := by
  induction shards generalizing placement with
  | nil =>
      rfl
  | cons shard rest inductionHypothesis =>
      have onward :=
        inductionHypothesis (places.place (identifiers nodes) shard)
      rw [List.foldlM_cons, List.foldl_cons]
      cases stray : shard.isStray (identifiers nodes) with
      | false =>
          rw [place?_eq_ok places stray,
            List.filter_cons_of_neg (by simp [stray])]
          exact onward
      | true =>
          rw [place?_of_stray stray, List.filter_cons_of_pos stray,
            List.map_cons, Message.given_cons]
          cases strayWarning shard with
          | error cause =>
              rfl
          | ok text =>
              exact onward

/-- Where every id has a place, the strict hosts are the hosts. -/
theorem hosts?_eq_ok
    {placement : Placement}
    (seen : List String)
    {nodes : List Node}
    (places : placement.HasPlaces nodes) :
    placement.hosts? seen nodes = .ok (placement.hosts seen nodes) := by
  induction nodes generalizing seen with
  | nil =>
      rfl
  | cons node rest inductionHypothesis =>
      obtain ⟨placed, found⟩ :=
        Option.isSome_iff_exists.mp (places node.id (by simp))
      have later : placement.HasPlaces rest :=
        fun id member => places id (by simp [member])
      have others := inductionHypothesis (node.id :: seen) later
      unfold hosts? hosts
      rw [others]
      by_cases known : node.id ∈ seen
      · simp only [known, if_true]
        rfl
      · simp only [known, if_false, placeOf, found]
        rfl

/-- The ids at which a place is handed out: each one where it comes first. -/
def newIds :
    List String →
    List String →
    List String
  | _, [] =>
      []
  | seen, id :: rest =>
      if id ∈ seen then
        newIds (id :: seen) rest
      else
        id :: newIds (id :: seen) rest

/-- A place is handed out for every id that was not seen before. -/
theorem mem_newIds
    (seen ids : List String)
    (id : String) :
    id ∈ newIds seen ids ↔ id ∈ ids ∧ id ∉ seen := by
  induction ids generalizing seen with
  | nil =>
      simp [newIds]
  | cons first rest inductionHypothesis =>
      unfold newIds
      by_cases same : id = first
      · subst same
        by_cases known : id ∈ seen <;>
          simp [known, inductionHypothesis]
      · split <;> simp [inductionHypothesis, same]

/-- No place is handed out twice. -/
theorem nodup_newIds
    (seen ids : List String) :
    (newIds seen ids).Nodup := by
  induction ids generalizing seen with
  | nil =>
      simp [newIds]
  | cons first rest inductionHypothesis =>
      unfold newIds
      split
      · exact inductionHypothesis (first :: seen)
      · rw [List.nodup_cons]
        refine ⟨?_, inductionHypothesis (first :: seen)⟩
        simp [mem_newIds]

/-- The hosts have the copies of the places that are handed out. -/
theorem flatMap_shards_hosts
    (placement : Placement)
    (seen : List String)
    (nodes : List Node) :
    (placement.hosts seen nodes).flatMap HostedNode.shards =
      (newIds seen (nodes.map Node.id)).flatMap fun id =>
        (placement.sortedPlace id).shards := by
  induction nodes generalizing seen with
  | nil =>
      rfl
  | cons node rest inductionHypothesis =>
      have head
          (placed : ShardsByIndex) :
          HostedNode.shards { node := node, placed := placed } =
            placed.shards :=
        rfl
      by_cases known : node.id ∈ seen
      · simpa [hosts, newIds, known, head, ShardsByIndex.shards,
          OrderedMap.values, OrderedMap.empty] using
          inductionHypothesis (node.id :: seen)
      · simp [hosts, newIds, known, head, sortedPlace,
          inductionHypothesis (node.id :: seen)]

end Placement

/-- Items are kept by grouping them under keys without repetition. -/
theorem flatMap_filter_perm
    [DecidableEq κ]
    {keys : List κ}
    (distinct : keys.Nodup)
    (key? : α → Option κ)
    (items : List α) :
    (keys.flatMap fun key =>
      items.filter fun item => key? item = some key).Perm
      (items.filter fun item => (key? item).any (· ∈ keys)) := by
  induction keys with
  | nil =>
      simp
  | cons key rest inductionHypothesis =>
      obtain ⟨fresh, distinctRest⟩ := List.nodup_cons.mp distinct
      have grouped := inductionHypothesis distinctRest
      let isUnder (item : α) : Bool :=
        (key? item).any (· ∈ key :: rest)
      have ofKey :
          (items.filter isUnder).filter (fun item => key? item = some key) =
            items.filter fun item => key? item = some key := by
        rw [List.filter_filter]
        apply List.filter_congr
        intro item _
        by_cases same : key? item = some key <;> simp [isUnder, same]
      have ofRest :
          (items.filter isUnder).filter
              (fun item => !decide (key? item = some key)) =
            items.filter fun item => (key? item).any (· ∈ rest) := by
        rw [List.filter_filter]
        apply List.filter_congr
        intro item _
        cases found : key? item with
        | none =>
            simp [isUnder, found]
        | some other =>
            by_cases same : other = key
            · subst same
              simp [isUnder, found, fresh]
            · simp [isUnder, found, same]
      calc
        List.Perm _
            ((items.filter fun item => key? item = some key) ++
              items.filter fun item => (key? item).any (· ∈ rest)) :=
          grouped.append_left _
        List.Perm _ (items.filter isUnder) := by
          rw [← ofKey, ← ofRest]
          exact List.filter_append_perm _ _

namespace Snapshot

/-- Build the snapshot of an inventory by the strict way. -/
def ofInventory?
    (inventory : Inventory) :
    Except BuildFault Snapshot := do
  let placement ←
    inventory.shards.foldlM
      (Placement.place? (identifiers inventory.nodes))
      (Placement.start inventory.nodes)
  let hosts ← placement.hosts? [] inventory.nodes
  pure
    { nodes := hosts
      unknown :=
        { node := .unknown
          placed := placement.unknown.sorted }
      unassigned := placement.unassigned
      indices := inventory.indices }

/-- The strict way builds the same snapshot, and fails just where a warning cannot be written. -/
theorem ofInventory?_eq_build
    (inventory : Inventory) :
    ofInventory? inventory = (build inventory).mapError .longNumber := by
  have places := Placement.hasPlaces_start inventory.nodes
  have hosted :=
    Placement.hosts?_eq_ok []
      (places.foldl_place (identifiers inventory.nodes) inventory.shards)
  unfold ofInventory? build warnings
  rw [Placement.foldlM_place?_eq places, Placement.strays_ofInventory,
    inventory.filter_isStray_eq_strays]
  unfold Message.given
  cases (Message.logged (inventory.strays.map strayWarning)).2 with
  | error cause =>
      rfl
  | ok written =>
      exact congrArg (Except.map _) hosted

/-- A snapshot is built just if the number of each stray copy can be printed. -/
theorem build_eq_ok_iff
    (inventory : Inventory)
    (built : Snapshot) :
    build inventory = .ok built ↔
      built = ofInventory inventory ∧
        ∀ shard ∈ inventory.strays, Text.FitsDigits shard.number := by
  rw [build, Message.given_eq_ok_iff, warnings, Placement.strays_ofInventory,
    List.forall_mem_map]
  simp only [strayWarning, Message.isOk_naming_iff]

/-- A build ends at the first stray copy whose number cannot be printed. -/
theorem build_eq_error_iff
    (inventory : Inventory)
    (cause : Text.LongInteger) :
    build inventory = .error cause ↔
      ∃ before shard later,
        inventory.strays = before ++ shard :: later ∧
          (∀ other ∈ before, Text.FitsDigits other.number) ∧
          cause.value = shard.number := by
  rw [build, Message.given_eq_error_iff, warnings, Placement.strays_ofInventory]
  constructor
  · rintro ⟨texts, others, split, written⟩
    obtain ⟨before, rest, isSplit, rfl, atRest⟩ :=
      List.map_eq_append_iff.mp split
    obtain ⟨shard, later, rfl, atShard, -⟩ := List.map_eq_cons_iff.mp atRest
    refine
      ⟨before, shard, later, isSplit, fun other member => ?_,
        (Message.naming_eq_error_iff shard.number _ cause).mp atShard⟩
    exact
      (Message.isOk_naming_iff other.number _).mp
        (written _ (List.mem_map_of_mem member))
  · rintro ⟨before, shard, later, isSplit, fit, isNumber⟩
    refine
      ⟨before.map strayWarning, later.map strayWarning, ?_,
        List.forall_mem_map.mpr fun other member =>
          (Message.isOk_naming_iff other.number _).mpr (fit other member)⟩
    have atShard : strayWarning shard = .error cause :=
      (Message.naming_eq_error_iff shard.number _ cause).mpr isNumber
    rw [isSplit, List.map_append, List.map_cons, atShard]

/-- The known nodes have every copy once that is sent to an id. -/
theorem shards_nodes_perm
    (inventory : Inventory) :
    ((ofInventory inventory).nodes.flatMap HostedNode.shards).Perm
      (inventory.shards.filter fun shard =>
        (shard.host? (identifiers inventory.nodes)).isSome) := by
  have sentToNode :
      (inventory.shards.filter fun shard =>
          (shard.host? (identifiers inventory.nodes)).any
            (· ∈ Placement.newIds [] (inventory.nodes.map Node.id))) =
        inventory.shards.filter fun shard =>
          (shard.host? (identifiers inventory.nodes)).isSome := by
    apply List.filter_congr
    intro shard _
    cases sent : shard.host? (identifiers inventory.nodes) with
    | none =>
        rfl
    | some id =>
        have resolved :=
          ((Shard.host?_eq_some_iff _ _ _).mp sent).2
        have member := mem_ids_of_resolveId? resolved
        simpa [Placement.mem_newIds] using member
  unfold ofInventory
  simp only [Placement.flatMap_shards_hosts]
  rw [← sentToNode]
  exact
    (List.Perm.flatMap_left _ fun id _ =>
      Placement.shards_sortedPlace_perm inventory id).trans
      (flatMap_filter_perm (Placement.nodup_newIds _ _) _ _)

/-- The unknown node has every stray copy once. -/
theorem shards_unknown_perm
    (inventory : Inventory) :
    (ofInventory inventory).unknown.shards.Perm
      (inventory.shards.filter fun shard =>
        shard.isStray (identifiers inventory.nodes)) := by
  have placed :
      (ofInventory inventory).unknown.shards =
        ((Placement.ofInventory inventory).unknown.sorted).shards :=
    rfl
  rw [placed, Placement.unknown_ofInventory]
  exact
    (ShardsByIndex.shards_sorted_perm _).trans
      (ShardsByIndex.shards_collected_perm _)

/-- The unassigned copies of a snapshot are the reported ones, in their order. -/
theorem unassigned_ofInventory
    (inventory : Inventory) :
    (ofInventory inventory).unassigned =
      inventory.shards.filter fun shard => !shard.isAssigned :=
  Placement.unassigned_ofInventory inventory

/-- A snapshot has every reported copy once. -/
theorem shards_ofInventory_perm
    (inventory : Inventory) :
    (ofInventory inventory).shards.Perm inventory.shards := by
  let known := identifiers inventory.nodes
  let assigned := inventory.shards.filter Shard.isAssigned
  have ofNodes :
      (inventory.shards.filter fun shard => (shard.host? known).isSome) =
        assigned.filter fun shard => !shard.isStray known := by
    simp [assigned, List.filter_filter, Shard.places_exclusive]
  have ofUnknown :
      (inventory.shards.filter fun shard => shard.isStray known) =
        assigned.filter fun shard => !!shard.isStray known := by
    simp only [assigned, List.filter_filter]
    apply List.filter_congr
    intro shard _
    cases isAssigned : shard.isAssigned <;>
      simp [Shard.isStray, isAssigned]
  calc
    List.Perm _
        ((inventory.shards.filter fun shard => (shard.host? known).isSome) ++
          (inventory.shards.filter fun shard => shard.isStray known) ++
          inventory.shards.filter fun shard => !shard.isAssigned) := by
      unfold shards
      rw [unassigned_ofInventory]
      exact
        ((shards_nodes_perm inventory).append
          (shards_unknown_perm inventory)).append_right _
    List.Perm _
        (assigned ++ inventory.shards.filter fun shard => !shard.isAssigned) := by
      rw [ofNodes, ofUnknown]
      exact (List.filter_append_perm _ assigned).append_right _
    List.Perm _ inventory.shards :=
      List.filter_append_perm Shard.isAssigned inventory.shards

/--
Building keeps everything that is reported, and ends early just for a number that is too long.

A snapshot is built if the number of each stray copy can be printed, and then it is that of
the inventory: its copies are the reported ones with their repetitions, and nodes and indices
stay as they are in their order. No place is ever missing. A build that ends early does so at
the first stray copy with too many digits in its number.
-/
theorem built_iff_stray_numbers_fit
    (inventory : Inventory) :
    let snapshot := ofInventory inventory
    (∀ built,
      ofInventory? inventory = .ok built ↔
        built = snapshot ∧
          ∀ shard ∈ inventory.strays, Text.FitsDigits shard.number) ∧
      (∀ fault,
        ofInventory? inventory = .error fault ↔
          ∃ cause,
            fault = .longNumber cause ∧
              ∃ before shard later,
                inventory.strays = before ++ shard :: later ∧
                  (∀ other ∈ before, Text.FitsDigits other.number) ∧
                  cause.value = shard.number) ∧
      snapshot.shards.Perm inventory.shards ∧
      snapshot.shardCount = inventory.shards.length ∧
      snapshot.nodes.map HostedNode.node = inventory.nodes ∧
      snapshot.indices = inventory.indices := by
  intro snapshot
  have copies := shards_ofInventory_perm inventory
  refine
    ⟨fun built => ?built, fun fault => ?ended, copies, copies.length_eq,
      Placement.map_node_hosts _ [] inventory.nodes, rfl⟩
  case built =>
    rw [ofInventory?_eq_build, mapError_eq_ok_iff, build_eq_ok_iff]
  case ended =>
    simp only [ofInventory?_eq_build, mapError_eq_error_iff, build_eq_error_iff]

/-- A stray copy whose number has one digit too many ends the build. -/
theorem not_built_with_long_number :
    let inventory : Inventory :=
      { nodes := []
        shards :=
          [ { index := "logs"
              number := Text.printLimit
              primary := true
              state := .started
              node := some "ghost" } ] }
    ∃ cause : Text.LongInteger,
      cause.value = Text.printLimit ∧
        ofInventory? inventory = .error (.longNumber cause) := by
  intro inventory
  let cause : Text.LongInteger :=
    { value := Text.printLimit
      isLong := Text.not_fitsDigits_printLimit }
  have ends : build inventory = .error cause :=
    (build_eq_error_iff inventory cause).mpr
      ⟨[], _, [], rfl, by simp, rfl⟩
  refine ⟨cause, rfl, ?_⟩
  rw [ofInventory?_eq_build, ends]
  rfl

end Snapshot

end ShardAtlas
