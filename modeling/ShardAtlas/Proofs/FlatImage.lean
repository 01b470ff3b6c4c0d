import ShardAtlas.Payload.Flat
import ShardAtlas.Proofs.CheckedParts

namespace ShardAtlas

/-!
# What flat documents can tell

The records that flat documents give are those with filled node ids, without negative
numbers, and with a node just for the assigned copies. Each of them is read from the
document that has all its fields written out, whichever of their names the fields are
spelled with.
-/

/-! ## Records of a document -/

/-- A node with an id and without negative sizes. -/
structure Node.WellFormed
    (node : Node) :
    Prop where
  id : node.id ≠ ""
  heapUsed : 0 ≤ node.heapUsed
  heapMax : 0 ≤ node.heapMax
  diskUsed : 0 ≤ node.diskUsed
  diskTotal : 0 ≤ node.diskTotal

/--
A shard copy without negative numbers that refers to a node just if it is assigned.

The empty reference is one to no node.
-/
structure Shard.WellFormed
    (shard : Shard) :
    Prop where
  number : 0 ≤ shard.number
  documents : 0 ≤ shard.documents
  bytes : 0 ≤ shard.bytes
  node :
    shard.node = none ∨ shard.node = some ("" : Text) ↔
      shard.state = .unassigned

/-- An index without negative numbers. -/
structure IndexSummary.WellFormed
    (index : IndexSummary) :
    Prop where
  primaryShards : 0 ≤ index.primaryShards
  replicaShards : 0 ≤ index.replicaShards
  documents : 0 ≤ index.documents
  bytes : 0 ≤ index.bytes

/-- An inventory of well-formed records. -/
structure Inventory.WellFormed
    (inventory : Inventory) :
    Prop where
  nodes : ∀ node ∈ inventory.nodes, node.WellFormed
  shards : ∀ shard ∈ inventory.shards, shard.WellFormed
  indices : ∀ index ∈ inventory.indices, index.WellFormed

namespace Payload

/-! ## Writing documents -/

/--
How a document is written: the spelling of the fields of the document and of each record
in it, and the order in which the roles of each node are listed.
-/
structure Style where
  document : Spelling
  node : Nat → Spelling
  shard : Nat → Spelling
  index : Nat → Spelling
  roles : Nat → RoleSet → List NodeRole
  complete :
    ∀ position listed role,
      role ∈ roles position listed ↔ listed.contains role = true

/-- A text, or null for none. -/
def writtenText :
    Option Text →
    Json
  | some content => .text content
  | none => .null

/-- The fields of a node, with its roles in some order. -/
def nodeFields
    (roles : List NodeRole)
    (node : Node) :
    List (FieldName × Json) :=
  [ (⟨"id", none⟩, .text node.id),
    (⟨"name", none⟩, .text node.name),
    (⟨"roles", none⟩, .array (roles.map fun role => .text role.name)),
    (⟨"ip", none⟩, writtenText node.address),
    (⟨"heapUsed", "heap_used"⟩, .integer node.heapUsed),
    (⟨"heapMax", "heap_max"⟩, .integer node.heapMax),
    (⟨"diskUsed", "disk_used"⟩, .integer node.diskUsed),
    (⟨"diskTotal", "disk_total"⟩, .integer node.diskTotal),
    (⟨"isMaster", "is_master"⟩, .boolean node.isMaster),
    (⟨"isMasterEligible", "is_master_eligible"⟩,
      .boolean node.isMasterEligible) ]

/-- The fields of a shard copy. -/
def shardFields
    (shard : Shard) :
    List (FieldName × Json) :=
  [ (⟨"index", none⟩, .text shard.index),
    (⟨"shard", none⟩, .integer shard.number),
    (⟨"primary", none⟩, .boolean shard.primary),
    (⟨"state", none⟩, .text shard.state.name),
    (⟨"node", none⟩, writtenText shard.node),
    (⟨"docs", none⟩, .integer shard.documents),
    (⟨"store", none⟩, .integer shard.bytes),
    (⟨"relocatingNode", "relocating_node"⟩,
      writtenText shard.relocatingTo) ]

/-- The fields of an index. -/
def indexFields
    (index : IndexSummary) :
    List (FieldName × Json) :=
  [ (⟨"name", none⟩, .text index.name),
    (⟨"health", none⟩, .text index.health),
    (⟨"status", none⟩, .text index.status.name),
    (⟨"primaryShards", "primary_shards"⟩, .integer index.primaryShards),
    (⟨"replicaShards", "replica_shards"⟩, .integer index.replicaShards),
    (⟨"docsCount", "docs_count"⟩, .integer index.documents),
    (⟨"storeSize", "store_size"⟩, .integer index.bytes) ]

namespace Style

/-- The fields of a document. -/
def documentFields
    (style : Style)
    (inventory : Inventory) :
    List (FieldName × Json) :=
  [ (⟨"nodes", none⟩,
      .array (inventory.nodes.mapIdx fun position node =>
        .object ((style.node position).members
          (nodeFields (style.roles position node.roles) node)))),
    (⟨"shards", none⟩,
      .array (inventory.shards.mapIdx fun position shard =>
        .object ((style.shard position).members (shardFields shard)))),
    (⟨"indices", none⟩,
      .array (inventory.indices.mapIdx fun position index =>
        .object ((style.index position).members (indexFields index)))) ]

/-- The document with all fields of an inventory. -/
def written
    (style : Style)
    (inventory : Inventory) :
    Json :=
  .object (style.document.members (style.documentFields inventory))

end Style

/-! ## Values as they are written -/

/-- A number of things passes as it is. -/
theorem count_integer
    {number : Int}
    (notNegative : 0 ≤ number) :
    count (.integer number) = .passed number := by
  simp [count, integerFrom, integer, Checked.andThen, notNegative]

/-- A text with a character passes as it is. -/
theorem filledText_text
    {content : String}
    (filled : content ≠ "") :
    filledText (.text content) = .passed content := by
  simp [filledText, wholeText, text, whole, Checked.andThen, filled]

/-- A text that may be missing passes as it is. -/
theorem nullable_text_writtenText
    (content : Option Text) :
    nullable text (writtenText content) = .passed content := by
  cases content <;> rfl

/-- A number of things that may be missing passes as it is. -/
theorem nullable_count_integer
    {number : Int}
    (notNegative : 0 ≤ number) :
    nullable count (.integer number) = .passed (some number) := by
  simp [nullable, count_integer notNegative, Checked.map]

/-- A state passes by its name. -/
theorem shardState_name
    (state : ShardState) :
    shardState (.text state.name) = .passed state := by
  cases state <;> decide

/-- A status passes by its name. -/
theorem indexStatus_name
    (status : IndexStatus) :
    indexStatus (.text status.name) = .passed status := by
  cases status <;> decide

/-- Names of roles pass as texts. -/
theorem listOf_text_names
    (roles : List NodeRole) :
    listOf text (.array (roles.map fun role => .text role.name)) =
      .passed (roles.map fun role => (role.name : Text)) := by
  rw [listOf_array_eq_passed_iff]
  simp [List.forall₂_map_left_iff, List.forall₂_map_right_iff, text]

end Payload

/-- A role is read by its name. -/
theorem NodeRole.read?_name
    (role : NodeRole) :
    NodeRole.read? role.name = some role := by
  cases role <;> decide

/-- A set of roles is read by the names of its roles, in any order. -/
theorem RoleSet.read_names
    {roles : RoleSet}
    {listed : List NodeRole}
    (complete : ∀ role, role ∈ listed ↔ roles.contains role = true) :
    RoleSet.read (listed.map fun role => (role.name : Text)) = roles := by
  have readBack :
      (listed.map fun role => (role.name : Text)).filterMap
          NodeRole.read? =
        listed := by
    simp [List.filterMap_map, NodeRole.read?_name]
  apply RoleSet.ext_contains
  intro role
  rw [RoleSet.read, readBack, RoleSet.contains_ofList,
    Bool.eq_iff_iff, decide_eq_true_iff]
  exact complete role

namespace Payload

/-- A reference names no node if there is none, or an empty one. -/
theorem namesNode_eq_false_iff
    (reference : Option Text) :
    namesNode reference = false ↔
      reference = none ∨ reference = some ("" : Text) := by
  cases reference <;> simp [namesNode]

/-- A value passes just if only the unassigned state goes without a node. -/
theorem withFittingNode_eq_passed_iff
    {state : ShardState}
    {reference : Option Text}
    {value found : α} :
    withFittingNode state reference value = .passed found ↔
      (reference = none ∨ reference = some ("" : Text) ↔
          state = .unassigned) ∧
        value = found := by
  rw [← namesNode_eq_false_iff]
  cases state <;> cases named : namesNode reference <;>
    simp [withFittingNode, placementFault?, named]

/-! ## Reading what is written -/

/-- The fields of a node are apart. -/
theorem areApart_nodeFields
    (roles : List NodeRole)
    (node : Node) :
    AreApart ((nodeFields roles node).map Prod.fst) := by
  simp only [nodeFields, List.map]
  decide

/-- The fields of a shard copy are apart. -/
theorem areApart_shardFields
    (shard : Shard) :
    AreApart ((shardFields shard).map Prod.fst) := by
  simp only [shardFields, List.map]
  decide

/-- The fields of an index are apart. -/
theorem areApart_indexFields
    (index : IndexSummary) :
    AreApart ((indexFields index).map Prod.fst) := by
  simp only [indexFields, List.map]
  decide

/-- The fields of a document are apart. -/
theorem areApart_documentFields
    (style : Style)
    (inventory : Inventory) :
    AreApart ((style.documentFields inventory).map Prod.fst) := by
  simp only [Style.documentFields, List.map]
  decide

/-- A well-formed node is read from what is written of it. -/
theorem flatNode_members
    {node : Node}
    (wellFormed : node.WellFormed)
    (spelling : Spelling)
    {roles : List NodeRole}
    (complete : ∀ role, role ∈ roles ↔ node.roles.contains role = true) :
    flatNode (.object (spelling.members (nodeFields roles node))) =
      .passed node := by
  have found := spelling.find?_members (areApart_nodeFields roles node)
  -- From here on, only what is found for each field matters, not how it is spelled.
  generalize spelling.members (nodeFields roles node) = members at found ⊢
  simp only [nodeFields, List.forall_mem_cons] at found
  simp [flatNode, record, required, optional, found,
    filledText_text wellFormed.id, text, listOf_text_names,
    RoleSet.read_names complete, nullable_text_writtenText,
    count_integer wellFormed.heapUsed, count_integer wellFormed.heapMax,
    count_integer wellFormed.diskUsed, count_integer wellFormed.diskTotal,
    boolean]

/-- A well-formed shard copy is read from what is written of it. -/
theorem flatShard_members
    {shard : Shard}
    (wellFormed : shard.WellFormed)
    (spelling : Spelling) :
    flatShard (.object (spelling.members (shardFields shard))) =
      .passed shard := by
  have found := spelling.find?_members (areApart_shardFields shard)
  generalize spelling.members (shardFields shard) = members at found ⊢
  simp only [shardFields, List.forall_mem_cons] at found
  have fields : flatShardFields members = .passed shard := by
    simp [flatShardFields, required, optional, found, text,
      count_integer wellFormed.number, boolean, shardState_name,
      nullable_text_writtenText,
      nullable_count_integer wellFormed.documents,
      nullable_count_integer wellFormed.bytes]
  rw [flatShard, record, fields]
  exact withFittingNode_eq_passed_iff.mpr ⟨wellFormed.node, rfl⟩

/-- A well-formed index is read from what is written of it. -/
theorem flatIndex_members
    {index : IndexSummary}
    (wellFormed : index.WellFormed)
    (spelling : Spelling) :
    flatIndex (.object (spelling.members (indexFields index))) =
      .passed index := by
  have found := spelling.find?_members (areApart_indexFields index)
  generalize spelling.members (indexFields index) = members at found ⊢
  simp only [indexFields, List.forall_mem_cons] at found
  simp [flatIndex, record, required, optional, found, text,
    indexStatus_name, count_integer wellFormed.primaryShards,
    count_integer wellFormed.replicaShards,
    count_integer wellFormed.documents, count_integer wellFormed.bytes]

/-- A well-formed inventory is read from the document with all its fields. -/
theorem readFlat_written
    (style : Style)
    {inventory : Inventory}
    (wellFormed : inventory.WellFormed) :
    readFlat (style.written inventory) = .ok inventory := by
  have nodes :=
    listOf_mapIdx fun node member position =>
      flatNode_members (wellFormed.nodes node member)
        (style.node position)
        (style.complete position node.roles)
  have shards :=
    listOf_mapIdx fun shard member position =>
      flatShard_members (wellFormed.shards shard member)
        (style.shard position)
  have indices :=
    listOf_mapIdx fun index member position =>
      flatIndex_members (wellFormed.indices index member)
        (style.index position)
  rw [List.map_id'] at nodes shards indices
  have found :=
    style.document.find?_members
      (areApart_documentFields style inventory)
  rw [readFlat, Checked.toShape_eq_ok_iff, Style.written]
  generalize
    style.document.members (style.documentFields inventory) =
      members at found ⊢
  simp only [Style.documentFields, List.forall_mem_cons] at found
  simp [flatDocument, record, optional, found, nodes, shards, indices]

/-! ## What is read is well-formed -/

/-- A number that may be left out is not negative. -/
theorem ensures_optional_count
    (field : FieldName) :
    Ensures (optional field 0 count) (0 ≤ ·) :=
  ensures_count.optional field (Int.le_refl 0)

/-- A number that may be left out or null is not negative where it counts as zero. -/
theorem ensures_optional_nullable_count
    (field : FieldName) :
    Ensures (optional field none (nullable count))
      (fun found => 0 ≤ found.getD 0) := by
  intro members found passed
  have counted :=
    ensures_count.nullable.optional field (by simp) members found passed
  cases found with
  | none =>
      exact Int.le_refl 0
  | some number =>
      exact counted number rfl

/-- A node that passes is well-formed. -/
theorem ensures_flatNode :
    Ensures flatNode Node.WellFormed := by
  apply Ensures.record
  -- The fields are put together from the left, so the last one comes off first.
  refine .seq_any (.seq_any ?_)
  refine .seq (.seq ?_ (ensures_optional_count _)) (ensures_optional_count _)
  refine .seq (.seq ?_ (ensures_optional_count _)) (ensures_optional_count _)
  refine .seq_any (.seq_any (.seq_any ?_))
  refine .map ?_ (ensures_filledText.required _)
  intro id filled _ _ _ _ heapUsed _ heapMax _ diskUsed _ diskTotal _ _
  exact ⟨filled, heapUsed, heapMax, diskUsed, diskTotal⟩

/-- The numbers of a shard copy whose fields pass are not negative. -/
theorem ensures_flatShardFields :
    Ensures flatShardFields fun shard =>
      0 ≤ shard.number ∧ 0 ≤ shard.documents ∧ 0 ≤ shard.bytes := by
  refine .seq_any ?_
  refine .seq (.seq ?_ (ensures_optional_nullable_count _))
    (ensures_optional_nullable_count _)
  refine .seq_any (.seq_any (.seq_any ?_))
  refine .seq (.map_any ?_) (ensures_count.required _)
  intro _ _ number _ _ _ _ documents _ bytes _
  exact ⟨number, documents, bytes⟩

/-- A shard copy that passes is well-formed. -/
theorem ensures_flatShard :
    Ensures flatShard Shard.WellFormed := by
  apply Ensures.record
  intro members found passed
  obtain ⟨shard, fields, fits⟩ := Checked.andThen_eq_passed_iff.mp passed
  obtain ⟨node, rfl⟩ := withFittingNode_eq_passed_iff.mp fits
  obtain ⟨number, documents, bytes⟩ :=
    ensures_flatShardFields members shard fields
  exact ⟨number, documents, bytes, node⟩

/-- An index that passes is well-formed. -/
theorem ensures_flatIndex :
    Ensures flatIndex IndexSummary.WellFormed := by
  apply Ensures.record
  refine .seq (.seq ?_ (ensures_optional_count _)) (ensures_optional_count _)
  refine .seq (.seq ?_ (ensures_optional_count _)) (ensures_optional_count _)
  refine .seq_any (.seq_any (.map_any ?_))
  intro _ _ _ _ primaryShards _ replicaShards _ documents _ bytes
  exact ⟨primaryShards, replicaShards, documents, bytes⟩

/-- An inventory that passes is well-formed. -/
theorem ensures_flatDocument :
    Ensures flatDocument Inventory.WellFormed := by
  apply Ensures.record
  refine .seq ?_ (ensures_flatIndex.listOf.optional _ (by simp))
  refine .seq ?_ (ensures_flatShard.listOf.optional _ (by simp))
  refine .map ?_ (ensures_flatNode.listOf.optional _ (by simp))
  intro _ nodes _ shards _ indices
  exact ⟨nodes, shards, indices⟩

/--
The inventories that flat documents give are the well-formed ones.

Each of them is read from every document that has all its fields, whichever of their names
the fields are spelled with. So reading a document, writing what was read and reading it
again gives the same.
-/
theorem readFlat_image :
    (∀ (inventory : Inventory) (style : Style),
      inventory.WellFormed →
        readFlat (style.written inventory) = .ok inventory) ∧
      ∀ (document : Json) (inventory : Inventory),
        readFlat document = .ok inventory →
          inventory.WellFormed ∧
            ∀ style : Style,
              readFlat (style.written inventory) = readFlat document := by
  constructor
  · intro inventory style wellFormed
    exact readFlat_written style wellFormed
  · intro document inventory read
    have passed := Checked.toShape_eq_ok_iff.mp read
    have wellFormed := ensures_flatDocument document inventory passed
    refine ⟨wellFormed, fun style => ?_⟩
    rw [read]
    exact readFlat_written style wellFormed

/-- A document in mixed spelling that leaves out what it can. -/
def mixedDocument : Json :=
  .object
    [ ("nodes",
        .array
          [ .object
              [ ("id", .text "a"),
                ("name", .text "alpha"),
                ("roles", .array [.text "data_hot", .text "Master"]),
                ("heapUsed", .text "512"),
                ("heap_used", .integer 1),
                ("disk_total", .integer 2048) ] ]),
      ("shards",
        .array
          [ .object
              [ ("index", .text "logs"),
                ("shard", .integer 0),
                ("primary", .text "yes"),
                ("state", .text " started "),
                ("node", .text "alpha"),
                ("docs", .null) ],
            .object
              [ ("index", .text "logs"),
                ("shard", .integer 0),
                ("primary", .boolean false),
                ("state", .text "UNASSIGNED"),
                ("node", .text "") ] ]),
      ("indices", .array [.object [("name", .text "logs")]]) ]

/-- What the document in mixed spelling tells. -/
def mixedInventory : Inventory :=
  { nodes :=
      [ { id := "a"
          name := "alpha"
          roles := RoleSet.ofList [.data, .master]
          heapUsed := 512
          diskTotal := 2048 } ]
    shards :=
      [ { index := "logs"
          number := 0
          primary := true
          state := .started
          node := some "alpha" },
        { index := "logs"
          number := 0
          primary := false
          state := .unassigned
          node := some "" } ]
    indices :=
      [ { name := "logs"
          health := "yellow"
          status := .opened } ] }

/-- Fields under their second names at even positions, and roles backwards. -/
def alternating : Style :=
  { document := fun _ => false
    node := fun position _ => position % 2 = 0
    shard := fun position _ => position % 2 = 0
    index := fun position _ => position % 2 = 0
    roles := fun _ roles => roles.members.reverse
    complete := by
      simp [RoleSet.contains] }

/-- A document in mixed spelling, and the same inventory with all fields written out. -/
theorem readFlat_mixedDocument :
    readFlat mixedDocument = .ok mixedInventory ∧
      mixedInventory.WellFormed ∧
      readFlat (alternating.written mixedInventory) =
        .ok mixedInventory := by
  have read : readFlat mixedDocument = .ok mixedInventory := by
    decide +kernel
  have wellFormed :=
    (readFlat_image.2 mixedDocument mixedInventory read).1
  exact
    ⟨read, wellFormed,
      readFlat_image.1 mixedInventory alternating wellFormed⟩

end Payload

end ShardAtlas
