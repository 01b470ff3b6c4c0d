import ShardAtlas.Payload.Flat
import ShardAtlas.Proofs.CheckedParts

namespace ShardAtlas

/-!
# Flat documents one behind the other

A flat document is three lists, and each item of a list is checked without a look at its
neighbours. So the document whose lists are those of two documents, one behind the other, tells
what both tell: the records of both, or the issues of both. An issue keeps its place, but for
the position of its item in the list, which has the items of the first document before it.
-/

/-- The records of two inventories, those of the second behind those of the first. -/
def Inventory.followedBy
    (first second : Inventory) :
    Inventory :=
  { nodes := first.nodes ++ second.nodes
    shards := first.shards ++ second.shards
    indices := first.indices ++ second.indices }

namespace Payload

/-! ## Issues further back -/

/-- A step with so many items before it. -/
def Step.movedBack
    (count : Nat) :
    Step →
    Step
  | .member name => .member name
  | .item position => .item (position + count)

/-- An issue with so many items before it in the list at a depth of its place. -/
def Issue.movedBack
    (depth count : Nat)
    (issue : Issue) :
    Issue :=
  { issue with path := issue.path.modify depth (Step.movedBack count) }

/-- Seen from further out, the list is one step deeper. -/
theorem Issue.map_movedBack_within
    (depth count : Nat)
    (step : Step)
    (issues : List Issue) :
    (issues.map (Issue.within step)).map
        (Issue.movedBack (depth + 1) count) =
      (issues.map (Issue.movedBack depth count)).map
        (Issue.within step) := by
  simp only [List.map_map]
  rfl

/-- Of an issue in an item the position of the item is moved. -/
theorem Issue.movedBack_within_item
    (count position : Nat)
    (issue : Issue) :
    (issue.within (.item position)).movedBack 0 count =
      issue.within (.item (position + count)) :=
  rfl

namespace Checked

/-- The outcome with other issues in place of those that were found. -/
def mapIssues
    (change : Issue → Issue) :
    Checked α →
    Checked α
  | .passed value => .passed value
  | .failed first rest => .failed (change first) (rest.map change)

/-- The issues after a change are the changed issues. -/
theorem issues_mapIssues
    (change : Issue → Issue)
    (checked : Checked α) :
    (checked.mapIssues change).issues = checked.issues.map change := by
  cases checked <;> rfl

/-- A change of issues lets the same values pass. -/
@[simp] theorem mapIssues_eq_passed_iff
    {change : Issue → Issue}
    {checked : Checked α}
    {value : α} :
    checked.mapIssues change = .passed value ↔ checked = .passed value := by
  cases checked <;> simp [mapIssues]

/-- The value of a passed check is changed, and issues are kept. -/
theorem issues_map
    (change : α → β)
    (checked : Checked α) :
    (change <$> checked).issues = checked.issues := by
  cases checked <;> rfl

/-- The issues of two checks side by side are those of both in turn. -/
theorem issues_seq
    (function : Checked (α → β))
    (argument : Checked α) :
    (function <*> argument).issues =
      function.issues ++ argument.issues :=
  issues_apply function argument

/-- Two lists of items are checked one behind the other. -/
theorem items_append
    (check : Nat → α → Checked β)
    (position : Nat)
    (first second : List α) :
    items check position (first ++ second) =
      (fun before behind => before ++ behind) <$>
        items check position first <*>
        items check (position + first.length) second := by
  induction first generalizing position with
  | nil =>
      cases later : items check position second <;>
        simp [items, later, Functor.map, map, Seq.seq, apply]
  | cons item rest inductionHypothesis =>
      have behind :
          position + (item :: rest).length =
            position + 1 + rest.length := by
        simp only [List.length_cons]
        omega
      simp only [List.cons_append, items, inductionHypothesis, behind]
      cases check position item <;>
        cases items check (position + 1) rest <;>
        cases items check (position + 1 + rest.length) second <;>
        simp [Functor.map, map, Seq.seq, apply, issues]

/-- Items that stand further back pass the same, with their issues further back. -/
theorem items_movedBack
    (check : α → Checked β)
    (count position : Nat)
    (inputs : List α) :
    items (fun place input => (check input).within (.item place))
        (position + count) inputs =
      (items (fun place input => (check input).within (.item place))
        position inputs).mapIssues (Issue.movedBack 0 count) := by
  induction inputs generalizing position with
  | nil =>
      rfl
  | cons input rest inductionHypothesis =>
      have next : position + count + 1 = position + 1 + count := by
        omega
      simp only [items, next, inductionHypothesis]
      cases check input <;>
        cases items
          (fun place input => (check input).within (.item place))
          (position + 1) rest <;>
        simp [within, mapIssues, Functor.map, map, Seq.seq, apply, issues,
          Issue.movedBack_within_item]

end Checked

/-- Two lists are checked one behind the other, the issues of the second further back. -/
theorem listOf_append
    (check : Check α)
    (first second : List Json) :
    listOf check (.array (first ++ second)) =
      (fun before behind => before ++ behind) <$>
        listOf check (.array first) <*>
        (listOf check (.array second)).mapIssues
          (Issue.movedBack 0 first.length) := by
  simp only [listOf, Checked.items_append, Checked.items_movedBack]

/-- Two lists pass one behind the other just if both do. -/
theorem listOf_append_eq_passed_iff
    {check : Check α}
    {first second : List Json}
    {values : List α} :
    listOf check (.array (first ++ second)) = .passed values ↔
      ∃ before behind,
        listOf check (.array first) = .passed before ∧
          listOf check (.array second) = .passed behind ∧
          before ++ behind = values := by
  simp only [listOf_append, Checked.seq_eq_passed_iff,
    Checked.map_eq_passed_iff, Checked.mapIssues_eq_passed_iff]
  constructor
  · rintro ⟨_, behind, ⟨before, passes, rfl⟩, passesBehind, rfl⟩
    exact ⟨before, behind, passes, passesBehind, rfl⟩
  · rintro ⟨before, behind, passes, passesBehind, rfl⟩
    exact ⟨_, behind, ⟨before, passes, rfl⟩, passesBehind, rfl⟩

/-- The issues in two lists are those of the first, and those of the second further back. -/
theorem issues_listOf_append
    (check : Check α)
    (first second : List Json) :
    (listOf check (.array (first ++ second))).issues =
      (listOf check (.array first)).issues ++
        (listOf check (.array second)).issues.map
          (Issue.movedBack 0 first.length) := by
  simp only [listOf_append, Checked.issues_seq, Checked.issues_map,
    Checked.issues_mapIssues]

/-! ## Lists of a document -/

/-- The names of the lists of a flat document, in the order in which they are checked. -/
def listNames : List String :=
  ["nodes", "shards", "indices"]

/-- The items of a list of an object; a list that is left out has none. -/
def Members.list?
    (members : Members)
    (name : String) :
    Option (List Json) :=
  match members.lookup name with
  | none => some []
  | some (.array items) => some items
  | some _ => none

/-- Whether each list of an object is that of a first one and then that of a second one. -/
def Members.IsConcatenation
    (whole first second : Members) :
    Prop :=
  ∀ name ∈ listNames,
    ∃ before behind,
      first.list? name = some before ∧
        second.list? name = some behind ∧
        whole.list? name = some (before ++ behind)

/-- The issues in one member of a document. -/
def issuesUnder
    (name : String)
    (issues : List Issue) :
    List Issue :=
  issues.filter fun issue => issue.path.head? = some (.member name)

/-- The issues that are reported instead of a result. -/
def reportedIssues :
    Except ShapeFault α →
    List Issue
  | .ok _ => []
  | .error fault => fault.issues

/-- What is reported of a document are the issues of its check. -/
theorem reportedIssues_toShape
    (source : String)
    (checked : Checked α) :
    reportedIssues (checked.toShape source) = checked.issues := by
  cases checked <;> rfl

/-- The issues in a member of documents in turn are those of each in turn. -/
theorem issuesUnder_append
    (name : String)
    (first second : List Issue) :
    issuesUnder name (first ++ second) =
      issuesUnder name first ++ issuesUnder name second :=
  List.filter_append ..

/-- The issues in a member are those that are seen from further out under its name. -/
theorem issuesUnder_within
    (name other : String)
    (issues : List Issue) :
    issuesUnder name (issues.map (Issue.within (.member other))) =
      if other = name then
        issues.map (Issue.within (.member other))
      else
        [] := by
  split
  · next same =>
      simp [issuesUnder, List.filter_eq_self, Issue.within, same]
  · next different =>
      simp [issuesUnder, List.filter_eq_nil_iff, Issue.within, different]

/-- A list that may be left out is checked as the array of its items. -/
theorem optional_listOf
    {members : Members}
    {name : String}
    {items : List Json}
    (isList : members.list? name = some items)
    (check : Check α) :
    optional ⟨name, none⟩ [] (listOf check) members =
      (listOf check (.array items)).within (.member name) := by
  unfold Members.list? at isList
  cases found : members.lookup name with
  | none =>
      obtain rfl : [] = items := by
        simpa [found] using isList
      simp [optional, FieldName.find?, found, listOf, Checked.items]
  | some value =>
      cases value with
      | array values =>
          obtain rfl : values = items := by
            simpa [found] using isList
          simp [optional, FieldName.find?, found]
      | _ =>
          simp [found] at isList

section

variable
  {members : Members}
  {nodes shards indices : List Json}
  (areNodes : members.list? "nodes" = some nodes)
  (areShards : members.list? "shards" = some shards)
  (areIndices : members.list? "indices" = some indices)

include areNodes areShards areIndices

/-- A document is checked list by list, each under its name. -/
theorem flatDocument_object :
    flatDocument (.object members) =
      Inventory.mk <$>
        (listOf flatNode (.array nodes)).within (.member "nodes") <*>
        (listOf flatShard (.array shards)).within (.member "shards") <*>
        (listOf flatIndex (.array indices)).within
          (.member "indices") := by
  simp only [flatDocument, record, optional_listOf areNodes,
    optional_listOf areShards, optional_listOf areIndices]

/-- A document passes just if its three lists do, with their records. -/
theorem flatDocument_object_eq_passed_iff
    {inventory : Inventory} :
    flatDocument (.object members) = .passed inventory ↔
      listOf flatNode (.array nodes) = .passed inventory.nodes ∧
        listOf flatShard (.array shards) = .passed inventory.shards ∧
        listOf flatIndex (.array indices) =
          .passed inventory.indices := by
  simp only [flatDocument_object areNodes areShards areIndices,
    Checked.seq_eq_passed_iff, Checked.map_eq_passed_iff,
    Checked.within_eq_passed_iff]
  constructor
  · rintro ⟨_, _, ⟨_, _, ⟨_, passNodes, rfl⟩, passShards, rfl⟩,
      passIndices, rfl⟩
    exact ⟨passNodes, passShards, passIndices⟩
  · rintro ⟨passNodes, passShards, passIndices⟩
    exact
      ⟨_, _, ⟨_, _, ⟨_, passNodes, rfl⟩, passShards, rfl⟩,
        passIndices, rfl⟩

/-- The issues of a document are those of its lists, list after list. -/
theorem issues_flatDocument_object :
    (flatDocument (.object members)).issues =
      (listOf flatNode (.array nodes)).issues.map
          (Issue.within (.member "nodes")) ++
        (listOf flatShard (.array shards)).issues.map
          (Issue.within (.member "shards")) ++
        (listOf flatIndex (.array indices)).issues.map
          (Issue.within (.member "indices")) := by
  simp only [flatDocument_object areNodes areShards areIndices,
    Checked.issues_seq, Checked.issues_map, Checked.issues_within]

/-- The issues of a document in one of its members are those of the list there. -/
theorem issuesUnder_flatDocument_object :
    let issues := (flatDocument (.object members)).issues
    issuesUnder "nodes" issues =
        (listOf flatNode (.array nodes)).issues.map
          (Issue.within (.member "nodes")) ∧
      issuesUnder "shards" issues =
        (listOf flatShard (.array shards)).issues.map
          (Issue.within (.member "shards")) ∧
      issuesUnder "indices" issues =
        (listOf flatIndex (.array indices)).issues.map
          (Issue.within (.member "indices")) := by
  simp [issues_flatDocument_object areNodes areShards areIndices,
    issuesUnder_append, issuesUnder_within]

end

/--
Reading distributes over documents one behind the other.

The whole is read just if both parts are, and it tells the records of both. Otherwise the report
has, list after list, the issues of the first document there and then those of the second one,
whose items are further back by the number of items before them.
-/
theorem readFlat_concatenation
    {whole first second : Members}
    (isConcatenation : whole.IsConcatenation first second) :
    (∀ inventory,
      readFlat (.object whole) = .ok inventory ↔
        ∃ before behind,
          readFlat (.object first) = .ok before ∧
            readFlat (.object second) = .ok behind ∧
            before.followedBy behind = inventory) ∧
      ∀ fault,
        readFlat (.object whole) = .error fault →
          fault.source = "cluster payload" ∧
            fault.issues =
              listNames.flatMap fun name =>
                issuesUnder name
                    (reportedIssues (readFlat (.object first))) ++
                  (issuesUnder name
                    (reportedIssues (readFlat (.object second)))).map
                    (Issue.movedBack 1
                      ((first.list? name).getD []).length) := by
  obtain ⟨nodes, otherNodes, areNodes, areOtherNodes, areAllNodes⟩ :=
    isConcatenation "nodes" (by decide)
  obtain ⟨shards, otherShards, areShards, areOtherShards, areAllShards⟩ :=
    isConcatenation "shards" (by decide)
  obtain ⟨indices, otherIndices, areIndices, areOtherIndices,
      areAllIndices⟩ :=
    isConcatenation "indices" (by decide)
  constructor
  · intro inventory
    simp only [readFlat, Checked.toShape_eq_ok_iff,
      flatDocument_object_eq_passed_iff areNodes areShards areIndices,
      flatDocument_object_eq_passed_iff areOtherNodes areOtherShards
        areOtherIndices,
      flatDocument_object_eq_passed_iff areAllNodes areAllShards
        areAllIndices,
      listOf_append_eq_passed_iff]
    constructor
    · rintro ⟨⟨before, behind, pass, passBehind, isNodes⟩,
        ⟨_, _, passShards, passOtherShards, isShards⟩,
        ⟨_, _, passIndices, passOtherIndices, isIndices⟩⟩
      refine
        ⟨⟨before, _, _⟩, ⟨behind, _, _⟩, ⟨pass, passShards, passIndices⟩,
          ⟨passBehind, passOtherShards, passOtherIndices⟩, ?_⟩
      simp only [Inventory.followedBy, isNodes, isShards, isIndices]
    · rintro ⟨before, behind, ⟨pass, passShards, passIndices⟩,
        ⟨passBehind, passOtherShards, passOtherIndices⟩, rfl⟩
      exact
        ⟨⟨_, _, pass, passBehind, rfl⟩,
          ⟨_, _, passShards, passOtherShards, rfl⟩,
          ⟨_, _, passIndices, passOtherIndices, rfl⟩⟩
  · intro fault failed
    obtain ⟨source, issues⟩ := Checked.toShape_eq_error_iff.mp failed
    refine ⟨source, ?_⟩
    obtain ⟨underNodes, underShards, underIndices⟩ :=
      issuesUnder_flatDocument_object areNodes areShards areIndices
    obtain ⟨underOtherNodes, underOtherShards, underOtherIndices⟩ :=
      issuesUnder_flatDocument_object areOtherNodes areOtherShards
        areOtherIndices
    simp only [issues,
      issues_flatDocument_object areAllNodes areAllShards areAllIndices,
      issues_listOf_append, List.map_append, listNames,
      List.flatMap_cons, List.flatMap_nil, readFlat,
      reportedIssues_toShape, underNodes, underShards, underIndices,
      underOtherNodes, underOtherShards, underOtherIndices, areNodes,
      areShards, areIndices, Option.getD_some,
      Issue.map_movedBack_within, List.append_assoc, List.append_nil]

/-- The members of a shard copy in a document, its node apart. -/
def copyMembers
    (number : Json)
    (state : String) :
    Members :=
  [ ("index", .text "logs"),
    ("shard", number),
    ("primary", .boolean true),
    ("state", .text state) ]

/-- A good node, one with three issues, and a copy that is started nowhere. -/
def firstHalf : Members :=
  [ ("nodes",
      .array
        [ .object [("id", .text "a"), ("name", .text "alpha")],
          .object [("id", .text ""), ("heapUsed", .integer (-1))] ]),
    ("shards",
      .array [.object (copyMembers (.integer 0) "started")]) ]

/-- No node, a good copy, one with two issues that hide its missing node, and an index. -/
def secondHalf : Members :=
  [ ("indices", .array [.object [("name", .text "logs")]]),
    ("shards",
      .array
        [ .object
            (("node", .text "a") ::
              copyMembers (.integer 0) "started"),
          .object (copyMembers (.text "one") "moving") ]),
    ("nodes", .array [.integer 5]) ]

/-- The document whose lists are those of both halves. -/
def bothHalves : Members :=
  [ ("nodes",
      .array
        [ .object [("id", .text "a"), ("name", .text "alpha")],
          .object [("id", .text ""), ("heapUsed", .integer (-1))],
          .integer 5 ]),
    ("shards",
      .array
        [ .object (copyMembers (.integer 0) "started"),
          .object
            (("node", .text "a") ::
              copyMembers (.integer 0) "started"),
          .object (copyMembers (.text "one") "moving") ]),
    ("indices", .array [.object [("name", .text "logs")]]) ]

/-- Two faulty halves are reported list by list, with places in the whole. -/
theorem issues_of_bothHalves :
    bothHalves.IsConcatenation firstHalf secondHalf ∧
      ∃ fault,
        readFlat (.object bothHalves) = .error fault ∧
          fault.issues =
            [ ⟨[.member "nodes", .item 1, .member "id"], .emptyText⟩,
              ⟨[.member "nodes", .item 1, .member "name"], .missing⟩,
              ⟨[.member "nodes", .item 1, .member "heapUsed"],
                .belowMinimum 0⟩,
              ⟨[.member "nodes", .item 2], .notObject "NodePayload"⟩,
              ⟨[.member "shards", .item 0],
                .refused "STARTED shard must reference a node"⟩,
              ⟨[.member "shards", .item 2, .member "shard"],
                .unreadableInteger⟩,
              ⟨[.member "shards", .item 2, .member "state"],
                .noChoice (ShardState.all.map ShardState.name)⟩ ] := by
  have isConcatenation :
      bothHalves.IsConcatenation firstHalf secondHalf := by
    intro name isName
    simp only [listNames, List.mem_cons, List.not_mem_nil,
      or_false] at isName
    rcases isName with rfl | rfl | rfl <;>
      exact ⟨_, _, rfl, rfl, rfl⟩
  obtain ⟨isRead, isReported⟩ := readFlat_concatenation isConcatenation
  refine ⟨isConcatenation, ?_⟩
  cases outcome : readFlat (.object bothHalves) with
  | ok inventory =>
      obtain ⟨before, _, readFirst, _⟩ := (isRead inventory).mp outcome
      have failed : (flatDocument (.object firstHalf)).issues ≠ [] := by
        decide +kernel
      rw [Checked.toShape_eq_ok_iff.mp readFirst] at failed
      exact absurd rfl failed
  | error fault =>
      refine ⟨fault, rfl, ?_⟩
      rw [(isReported fault outcome).2]
      decide +kernel

end Payload

end ShardAtlas
