import ShardAtlas.Proofs.FlatImage
import ShardAtlas.Proofs.ShardNumbers

namespace ShardAtlas

/-!
# The nodes that copies name

The node of a shard copy should be missing just if the copy is unassigned. Documents are checked
for something else: whether the reference to a node is filled, so that the empty text counts as
no node. It is then kept as it is. So a record is as it should be unless the document writes an
empty node, and this passes for unassigned copies only.
-/

/-- A shard copy that names a node just if it is assigned, and a node with a filled name. -/
structure Shard.NamesNodeIfAssigned
    (shard : Shard) :
    Prop where
  missing : shard.node = none ↔ shard.state = .unassigned
  filled : shard.node ≠ some ("" : Text)

/-- Where the empty node counts as none, a record is as it should be unless its node is empty. -/
theorem Shard.namesNodeIfAssigned_iff
    {shard : Shard}
    (fits :
      shard.node = none ∨ shard.node = some ("" : Text) ↔
        shard.state = .unassigned) :
    shard.NamesNodeIfAssigned ↔ shard.node ≠ some ("" : Text) := by
  constructor
  · exact fun named => named.filled
  · intro filled
    exact ⟨by simpa [filled] using fits, filled⟩

namespace Json

/-- Whether an object has an empty text as its node. -/
def HasEmptyNode
    (value : Json) :
    Prop :=
  value.inside "node" = .text ""

/-- The shard copies of a flat document. -/
def flatCopies
    (document : Json) :
    List Json :=
  (document.inside "shards").items

/-- The shard copies of a document with a routing table, index after index and key after key. -/
def routedCopies
    (document : Json) :
    List Json :=
  let indices := (document.inside "routing_table").inside "indices"
  indices.byName.entries.flatMap fun (_, index) =>
    (index.inside "shards").byName.entries.flatMap fun (_, copies) =>
      copies.items

end Json

namespace Payload

/-! ## Nodes of copies -/

/-- A reference that may be missing is empty just if an empty text is written. -/
theorem isEmpty_iff_of_optional
    {members : Members}
    {reference : Option Text}
    (passed :
      optional ⟨"node", none⟩ none (nullable text) members =
        .passed reference) :
    reference = some ("" : Text) ↔ (Json.object members).HasEmptyNode := by
  refine
    related_of_optional
      (fun value found => found = some ("" : Text) ↔ value = .text "")
      passed (by simp) ?_
  intro value read passes
  cases value with
  | null =>
      obtain rfl : none = read := by
        simpa [nullable] using passes
      simp
  | text content =>
      obtain rfl : some content = read := by
        simpa [nullable, text, Checked.map] using passes
      simp
  | _ =>
      exact absurd passes (by simp [nullable, text, Checked.map, Checked.fault])

/--
Whether a record names a node just if its copy is assigned, or else has an empty one.

It has an empty node just if that is written, and then its copy is unassigned.
-/
def NamesNodeUnlessEmpty
    (item : Json)
    (shard : Shard) :
    Prop :=
  (shard.NamesNodeIfAssigned ↔ ¬ item.HasEmptyNode) ∧
    (item.HasEmptyNode →
      shard.state = .unassigned ∧ shard.node = some ("" : Text))

/--
What passes with a fitting node, and with an empty one just if that is written.

The fields are checked at fixed members, so that what is ensured may be about these.
-/
theorem namesNodeUnlessEmpty_of_record
    {kind : String}
    {fields : MemberCheck α}
    (stateOf : α → ShardState)
    (nodeOf : α → Option Text)
    (isEmpty_iff :
      ∀ members,
        Ensures (fun _ : Unit => fields members) fun found =>
          nodeOf found = some ("" : Text) ↔
            (Json.object members).HasEmptyNode)
    {item : Json}
    {found : α}
    (passed :
      record kind
          (fun members =>
            (fields members).andThen fun found =>
              withFittingNode (stateOf found) (nodeOf found) found)
          item =
        .passed found)
    {shard : Shard}
    (state : shard.state = stateOf found)
    (node : shard.node = nodeOf found) :
    NamesNodeUnlessEmpty item shard := by
  obtain ⟨members, rfl, passes⟩ := record_eq_passed_iff.mp passed
  obtain ⟨read, fieldsPass, fitting⟩ :=
    Checked.andThen_eq_passed_iff.mp passes
  obtain ⟨fits, rfl⟩ := withFittingNode_eq_passed_iff.mp fitting
  have written := isEmpty_iff members () read fieldsPass
  rw [← state, ← node] at fits
  rw [← node] at written
  refine ⟨?_, ?_⟩
  · rw [Shard.namesNodeIfAssigned_iff fits, ne_eq, written]
  · intro isEmpty
    have emptyNode := written.mpr isEmpty
    exact ⟨fits.mp (.inr emptyNode), emptyNode⟩

/-- The record of a copy of a flat document has an empty node only if that is written. -/
theorem namesNodeUnlessEmpty_of_flatShard
    {item : Json}
    {shard : Shard}
    (passed : flatShard item = .passed shard) :
    NamesNodeUnlessEmpty item shard := by
  refine
    namesNodeUnlessEmpty_of_record Shard.state Shard.node
      (fun members => ?_) passed rfl rfl
  refine .seq_any (.seq_any (.seq_any ?_))
  refine .seq ?_ fun _ _ => isEmpty_iff_of_optional
  refine .seq_any (.seq_any (.seq_any (.map_any ?_)))
  intro _ _ _ _ _ written _ _ _
  exact written

/-- So has the record of a copy of a routing table. -/
theorem namesNodeUnlessEmpty_of_rawCopy
    {item : Json}
    {routed : RoutedCopy}
    {shard : Shard}
    (passed : rawCopy item = .passed routed.copy)
    (recorded : routed.IsRecordedAs shard) :
    NamesNodeUnlessEmpty item shard := by
  refine
    namesNodeUnlessEmpty_of_record RawCopy.state RawCopy.node
      (fun members => ?_) passed recorded.state recorded.node
  refine .seq_any ?_
  refine .seq ?_ fun _ _ => isEmpty_iff_of_optional
  refine .seq_any (.map_any ?_)
  intro _ _ _ written _
  exact written

/-! ## Copies in their order -/

/-- The copies of a flat document pass one by one. -/
theorem forall₂_flatCopies
    {document : Json}
    {inventory : Inventory}
    (passed : flatDocument document = .passed inventory) :
    List.Forall₂ (fun item shard => flatShard item = .passed shard)
      document.flatCopies inventory.shards := by
  obtain ⟨members, rfl, passes⟩ := record_eq_passed_iff.mp passed
  obtain ⟨_, _, others, -, rfl⟩ := Checked.seq_eq_passed_iff.mp passes
  obtain ⟨_, _, nodes, shards, rfl⟩ := Checked.seq_eq_passed_iff.mp others
  obtain ⟨_, -, rfl⟩ := Checked.map_eq_passed_iff.mp nodes
  exact
    related_of_optional
      (fun value found =>
        List.Forall₂ (fun item shard => flatShard item = .passed shard)
          value.items found)
      shards .nil fun _ _ => forall₂_of_listOf

/-- Whether copies are those of an array. -/
abbrev AreReadOf
    (value : Json)
    (copies : List RawCopy) :
    Prop :=
  List.Forall₂ (fun item copy => rawCopy item = .passed copy) value.items
    copies

/-- Whether the copies of an index are those of an object, by shard number. -/
abbrev AreReadUnderNumbers
    (value : Json)
    (numbers : OrderedMap String (List RawCopy)) :
    Prop :=
  (value.inside "shards").byName.Agree (fun _ => AreReadOf) numbers

/-- The copies of an index are those of its object. -/
theorem areReadUnderNumbers_of_rawIndexRouting
    {value : Json}
    {numbers : OrderedMap String (List RawCopy)}
    (passed : rawIndexRouting value = .passed numbers) :
    AreReadUnderNumbers value numbers := by
  obtain ⟨members, rfl, passes⟩ := record_eq_passed_iff.mp passed
  refine
    related_of_optional
      (fun value numbers => value.byName.Agree (fun _ => AreReadOf) numbers)
      passes OrderedMap.agree_empty ?_
  intro value numbers passes
  obtain ⟨_, copies, areNumbers⟩ :=
    Checked.andThen_eq_passed_iff.mp passes
  obtain ⟨-, rfl⟩ := withShardNumbers_eq_passed_iff.mp areNumbers
  exact agree_of_mapOf (fun _ _ => forall₂_of_listOf) copies

/-- The copies of all indices are those of the objects of the indices. -/
theorem agree_of_rawRouting
    {document : Json}
    {routing : RawRouting}
    (passed : rawRouting document = .passed routing) :
    ((document.inside "routing_table").inside "indices").byName.Agree
      (fun _ => AreReadUnderNumbers) routing.indices := by
  obtain ⟨members, rfl, passes⟩ := record_eq_passed_iff.mp passed
  obtain ⟨_, _, others, table, rfl⟩ := Checked.seq_eq_passed_iff.mp passes
  obtain ⟨_, _, name, -, rfl⟩ := Checked.seq_eq_passed_iff.mp others
  obtain ⟨_, -, rfl⟩ := Checked.map_eq_passed_iff.mp name
  refine
    related_of_optional
      (fun value indices =>
        (value.inside "indices").byName.Agree
          (fun _ => AreReadUnderNumbers) indices)
      table OrderedMap.agree_empty ?_
  intro value indices passes
  obtain ⟨members, rfl, passIndices⟩ := record_eq_passed_iff.mp passes
  exact
    related_of_optional
      (fun value indices =>
        value.byName.Agree (fun _ => AreReadUnderNumbers) indices)
      passIndices OrderedMap.agree_empty fun _ _ =>
        agree_of_mapOf fun _ _ => areReadUnderNumbers_of_rawIndexRouting

/-- The copies of a routing table pass one by one. -/
theorem forall₂_routedCopies
    {document : Json}
    {routing : RawRouting}
    (passed : rawRouting document = .passed routing) :
    List.Forall₂ (fun item routed => rawCopy item = .passed routed.copy)
      document.routedCopies routing.copies := by
  refine List.rel_flatMap (agree_of_rawRouting passed) ?_
  rintro ⟨_, value⟩ ⟨index, numbers⟩ ⟨-, underNumbers⟩
  refine List.rel_flatMap underNumbers ?_
  rintro ⟨_, value⟩ ⟨key, copies⟩ ⟨-, areRead⟩
  exact List.forall₂_map_right_iff.mpr areRead

/--
Each record of a shard copy names a node just if the copy is assigned, or else an empty one.

An empty node is written for the copy then, and the copy is unassigned. This holds of flat
documents and of raw ones, which have a record for each copy that they list, in their order.
The copies are listed under names of members, which have no unpaired surrogates.
-/
theorem shards_name_nodes_unless_empty
    (document : Json)
    (documents : RawDocuments)
    (inventory : Inventory) :
    (readFlat document = .ok inventory →
      List.Forall₂ NamesNodeUnlessEmpty document.flatCopies
        inventory.shards) ∧
      (documents.read = .ok inventory →
        List.Forall₂ NamesNodeUnlessEmpty documents.routing.routedCopies
          inventory.shards) := by
  constructor
  · intro isRead
    have passed := Checked.toShape_eq_ok_iff.mp isRead
    exact
      (forall₂_flatCopies passed).imp fun _ _ =>
        namesNodeUnlessEmpty_of_flatShard
  · intro isRead
    obtain ⟨raw, passed, joined⟩ := RawDocuments.read_eq_ok_iff.mp isRead
    obtain ⟨-, -, routing, -⟩ := RawDocuments.check_eq_ok_iff.mp passed
    refine
      forall₂_trans ?_ (forall₂_routedCopies routing)
        (RawInventory.recorded_of_join joined)
    exact fun _ _ _ => namesNodeUnlessEmpty_of_rawCopy

/-- A copy of a flat document with a state and a node. -/
def flatCopyJson
    (number : Int)
    (primary : Bool)
    (state : String)
    (node : Json) :
    Json :=
  .object
    [ ("index", .text "logs"),
      ("shard", .integer number),
      ("primary", .boolean primary),
      ("state", .text state),
      ("node", node) ]

/-- A flat document of some copies. -/
def copiesJson
    (copies : List Json) :
    Json :=
  .object [("shards", .array copies)]

/-- A flat document with a filled, an empty and a missing node. -/
def threeNodes : Json :=
  copiesJson
    [ flatCopyJson 0 true "STARTED" (.text "a"),
      flatCopyJson 0 false "UNASSIGNED" (.text ""),
      flatCopyJson 1 true " unassigned" .null ]

/-- Raw documents with the same copies. -/
def threeRoutedNodes : RawDocuments :=
  { nodes := .object []
    nodesStats := .object []
    routing :=
      routingJson
        [ ("logs",
            [ ("0",
                [ copyJson "STARTED" true (.text "a"),
                  copyJson "UNASSIGNED" false (.text "") ]),
              ("1", [copyJson " unassigned" true .null]) ]) ]
    indicesStats := .object [] }

/-- The copies with a filled, an empty and a missing node. -/
def threeNodesInventory : Inventory :=
  { nodes := []
    shards :=
      [ { index := "logs", number := 0, primary := true, state := .started,
          node := some "a" },
        { index := "logs", number := 0, primary := false,
          state := .unassigned, node := some "" },
        { index := "logs", number := 1, primary := true,
          state := .unassigned } ]
    indices := [] }

/-- A filled, an empty and a missing node are read alike from both kinds of documents. -/
theorem named_of_threeNodes :
    readFlat threeNodes = .ok threeNodesInventory ∧
      threeRoutedNodes.read = .ok threeNodesInventory ∧
      List.Forall₂ NamesNodeUnlessEmpty threeNodes.flatCopies
        threeNodesInventory.shards ∧
      List.Forall₂ NamesNodeUnlessEmpty
        threeRoutedNodes.routing.routedCopies
        threeNodesInventory.shards := by
  have isFlat : readFlat threeNodes = .ok threeNodesInventory := by
    rfl
  have isRead : threeRoutedNodes.read = .ok threeNodesInventory := by
    rfl
  obtain ⟨ofFlat, ofRaw⟩ :=
    shards_name_nodes_unless_empty threeNodes threeRoutedNodes
      threeNodesInventory
  exact ⟨isFlat, isRead, ofFlat isFlat, ofRaw isRead⟩

/-- An empty node is taken over for a copy that is unassigned. -/
theorem emptyNode_of_unassigned :
    let document :=
      copiesJson [flatCopyJson 0 true "UNASSIGNED" (.text "")]
    ∃ shard : Shard,
      readFlat document =
          .ok { nodes := [], shards := [shard], indices := [] } ∧
        shard.node = some ("" : Text) ∧
        ¬ shard.NamesNodeIfAssigned := by
  refine
    ⟨{ index := "logs"
       number := 0
       primary := true
       state := .unassigned
       node := some "" },
      rfl, rfl, ?_⟩
  exact fun named => named.filled rfl

end Payload

end ShardAtlas
