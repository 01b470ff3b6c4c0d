import ShardAtlas.Proofs.ShardNumbers

namespace ShardAtlas.Payload

/-!
# Raw documents that give no inventory

Four documents are checked in turn, and the first one with issues is reported with all of them.
Where none has an issue, they are joined, and joining computes with what the checks let pass. It
can go wrong in one place only: a key of a routing table may have more digits than are read. Such
documents are neither read nor reported as malformed, although a check of the keys was made.
-/

/-- Whether a fault is that of the first of some documents that has issues, with all of them. -/
def ShapeFault.IsFirstOf
    (fault : ShapeFault)
    (findings : List (String × List Issue)) :
    Prop :=
  ∃ before behind,
    findings = before ++ (fault.source, fault.issues) :: behind ∧
      ∀ finding ∈ before, finding.2 = []

/-- The first document with issues is the one in front, or the first one behind. -/
theorem ShapeFault.isFirstOf_cons_iff
    {fault : ShapeFault}
    {source : String}
    {issues : List Issue}
    {rest : List (String × List Issue)} :
    fault.IsFirstOf ((source, issues) :: rest) ↔
      fault.source = source ∧ fault.issues = issues ∨
        issues = [] ∧ fault.IsFirstOf rest := by
  constructor
  · rintro ⟨before, behind, split, silent⟩
    rcases List.cons_eq_append_iff.mp split with
      ⟨rfl, same⟩ | ⟨others, rfl, later⟩
    · obtain ⟨⟨⟩, rfl⟩ := List.cons.inj same
      exact .inl ⟨rfl, rfl⟩
    · obtain ⟨isSilent, silentLater⟩ := List.forall_mem_cons.mp silent
      exact .inr ⟨isSilent, others, behind, later, silentLater⟩
  · rintro (⟨rfl, rfl⟩ | ⟨isSilent, before, behind, rfl, silent⟩)
    · exact ⟨[], rest, rfl, by simp⟩
    · exact
        ⟨(source, issues) :: before, behind, rfl,
          List.forall_mem_cons.mpr ⟨isSilent, silent⟩⟩

/-- None of no documents has issues. -/
theorem ShapeFault.not_isFirstOf_nil
    (fault : ShapeFault) :
    ¬ fault.IsFirstOf [] := by
  rintro ⟨before, behind, split, _⟩
  simp at split

namespace RawDocuments

/-- The names of the documents with their issues, in the order in which they are checked. -/
def findings
    (documents : RawDocuments) :
    List (String × List Issue) :=
  [ ("_nodes", (rawNodes documents.nodes).issues),
    ("_nodes/stats", (rawNodesStats documents.nodesStats).issues),
    ("_cluster/state", (rawRouting documents.routing).issues),
    ("_stats", (rawIndicesStats documents.indicesStats).issues) ]

/-- Documents fail their checks with the issues of the first one that has any. -/
theorem check_eq_error_iff
    {documents : RawDocuments}
    {fault : ShapeFault} :
    documents.check = .error fault ↔ fault.IsFirstOf documents.findings := by
  unfold check findings
  simp only [bind_eq_error_iff, Checked.toShape_eq_error_iff,
    Checked.toShape_eq_ok_iff, ShapeFault.isFirstOf_cons_iff,
    fault.not_isFirstOf_nil, Checked.issues_eq_nil_iff, pure,
    Except.pure, reduceCtorEq, exists_and_right]

end RawDocuments

/-- A shard number is no readable one just if it has too many digits, and says how many. -/
theorem shardNumber_eq_error_iff
    {key : String}
    (isNumber : isShardNumber key = true)
    {cause : RawFault} :
    shardNumber key = .error cause ↔
      Text.digitLimit < key.length ∧
        cause = .longShardNumber key.length := by
  rw [shardNumber, readInteger_of_isShardNumber isNumber]
  by_cases long : Text.digitLimit < key.length
  · simp [long, eq_comm]
  · simp [long]

namespace RawInventory

/-- A copy under a shard number is not joined just if the number has too many digits. -/
theorem joinRouted_eq_error_iff
    {raw : RawInventory}
    {routed : RoutedCopy}
    (isNumber : isShardNumber routed.key = true)
    {cause : RawFault} :
    raw.joinRouted routed = .error cause ↔
      Text.digitLimit < routed.key.length ∧
        cause = .longShardNumber routed.key.length := by
  rw [← shardNumber_eq_error_iff isNumber, joinRouted, bind_eq_error_iff]
  constructor
  · rintro (unreadable | ⟨_, _, ⟨⟩⟩)
    exact unreadable
  · exact .inl

/-- A copy under a shard number is joined just if the number is short enough. -/
theorem isOk_joinRouted_iff
    (raw : RawInventory)
    {routed : RoutedCopy}
    (isNumber : isShardNumber routed.key = true) :
    (raw.joinRouted routed).isOk = true ↔
      routed.key.length ≤ Text.digitLimit := by
  simp only [isOk_iff_ne_error, ne_eq, joinRouted_eq_error_iff isNumber,
    not_and, ← Nat.not_lt]
  constructor
  · intro never long
    exact never _ long rfl
  · intro short _ long
    exact absurd long short

/-- Joining fails just if joining the routed copies does. -/
theorem join_eq_error_iff
    {raw : RawInventory}
    {cause : RawFault} :
    raw.join = .error cause ↔
      raw.routing.copies.mapM raw.joinRouted = .error cause := by
  rw [join, bind_eq_error_iff, joinShards_eq_mapM]
  constructor
  · rintro (fails | ⟨_, _, ⟨⟩⟩)
    exact fails
  · exact .inl

/-- Whether the first key of routed copies with too many digits has so many of them. -/
def FirstLongKey
    (raw : RawInventory)
    (digits : Nat) :
    Prop :=
  ∃ before routed behind,
    raw.routing.copies = before ++ routed :: behind ∧
      (∀ other ∈ before, other.key.length ≤ Text.digitLimit) ∧
      Text.digitLimit < routed.key.length ∧
      routed.key.length = digits

/-- Copies under shard numbers are joined unless a key is too long, and the first one is told. -/
theorem join_eq_error_iff_firstLongKey
    {raw : RawInventory}
    (areNumbers :
      ∀ routed ∈ raw.routing.copies, isShardNumber routed.key = true)
    {cause : RawFault} :
    raw.join = .error cause ↔
      ∃ digits,
        cause = .longShardNumber digits ∧ raw.FirstLongKey digits := by
  rw [join_eq_error_iff, mapM_eq_error_iff]
  constructor
  · rintro ⟨before, routed, behind, split, succeed, fails⟩
    rw [split, List.forall_mem_append, List.forall_mem_cons] at areNumbers
    obtain ⟨areNumbersBefore, isNumber, _⟩ := areNumbers
    obtain ⟨long, isCause⟩ := (joinRouted_eq_error_iff isNumber).mp fails
    refine ⟨_, isCause, before, routed, behind, split, ?_, long, rfl⟩
    intro other member
    exact
      (raw.isOk_joinRouted_iff (areNumbersBefore other member)).mp
        (succeed other member)
  · rintro ⟨_, isCause, before, routed, behind, split, short, long, rfl⟩
    rw [split, List.forall_mem_append, List.forall_mem_cons] at areNumbers
    obtain ⟨areNumbersBefore, isNumber, _⟩ := areNumbers
    refine
      ⟨before, routed, behind, split, ?_,
        (joinRouted_eq_error_iff isNumber).mpr ⟨long, isCause⟩⟩
    intro other member
    exact
      (raw.isOk_joinRouted_iff (areNumbersBefore other member)).mpr
        (short other member)

/-- Copies under shard numbers are joined just if no key is too long. -/
theorem isOk_join_iff
    {raw : RawInventory}
    (areNumbers :
      ∀ routed ∈ raw.routing.copies, isShardNumber routed.key = true) :
    raw.join.isOk = true ↔
      ∀ routed ∈ raw.routing.copies,
        routed.key.length ≤ Text.digitLimit := by
  have sameOutcome :
      raw.join.isOk = true ↔
        (raw.routing.copies.mapM raw.joinRouted).isOk = true := by
    simp only [isOk_iff_ne_error, ne_eq, join_eq_error_iff]
  rw [sameOutcome, isOk_mapM_iff]
  refine forall₂_congr fun routed member => ?_
  exact raw.isOk_joinRouted_iff (areNumbers routed member)

end RawInventory

namespace RawDocuments

variable {documents : RawDocuments}

/-- Documents that fail their checks are reported with what was found. -/
theorem read_of_check_error
    {fault : ShapeFault}
    (failed : documents.check = .error fault) :
    documents.read = .error (.malformed fault) := by
  rw [read, failed]
  rfl

/-- Documents that pass their checks are joined. -/
theorem read_of_check_ok
    {raw : RawInventory}
    (passed : documents.check = .ok raw) :
    documents.read = raw.join := by
  rw [read, passed]
  rfl

/-- Documents are reported as malformed just for the first one with issues. -/
theorem read_eq_malformed_iff
    {fault : ShapeFault} :
    documents.read = .error (.malformed fault) ↔
      fault.IsFirstOf documents.findings := by
  rw [← check_eq_error_iff]
  cases outcome : documents.check with
  | error found =>
      simp [read_of_check_error outcome]
  | ok raw =>
      refine iff_of_false (fun malformed => ?_) nofun
      rw [read_of_check_ok outcome,
        RawInventory.join_eq_error_iff_firstLongKey
          (isShardNumber_of_check outcome)] at malformed
      obtain ⟨_, ⟨⟩, _⟩ := malformed

/-- Documents break off at a key just if they pass with a first key that is too long. -/
theorem read_eq_longShardNumber_iff
    {digits : Nat} :
    documents.read = .error (.longShardNumber digits) ↔
      ∃ raw, documents.check = .ok raw ∧ raw.FirstLongKey digits := by
  cases outcome : documents.check with
  | error found =>
      simp [read_of_check_error outcome]
  | ok raw =>
      rw [read_of_check_ok outcome,
        RawInventory.join_eq_error_iff_firstLongKey
          (isShardNumber_of_check outcome)]
      simp

/-- Whether documents are read, or are reported as malformed for the first one with issues. -/
def IsReadOrReported
    (documents : RawDocuments) :
    Prop :=
  (∃ inventory, documents.read = .ok inventory) ∨
    ∃ fault,
      documents.read = .error (.malformed fault) ∧
        fault.issues ≠ [] ∧ fault.IsFirstOf documents.findings

/-- Whether no key of a routing table that passes has too many digits. -/
def KeysFit
    (documents : RawDocuments) :
    Prop :=
  ∀ raw,
    documents.check = .ok raw →
      ∀ routed ∈ raw.routing.copies,
        routed.key.length ≤ Text.digitLimit

/--
Raw documents are read or reported just if their keys are not too long.

They are reported for the first document with issues, with all of these, and for nothing else.
Where none has issues and a key is too long, reading breaks off at the first such key. Keys are
names of members, which have no unpaired surrogates.
-/
theorem read_or_reported_iff_keysFit
    (documents : RawDocuments) :
    (documents.IsReadOrReported ↔ documents.KeysFit) ∧
      (∀ fault,
        documents.read = .error (.malformed fault) ↔
          fault.IsFirstOf documents.findings) ∧
      ∀ digits,
        documents.read = .error (.longShardNumber digits) ↔
          ∃ raw,
            documents.check = .ok raw ∧ raw.FirstLongKey digits := by
  refine
    ⟨?_, fun _ => read_eq_malformed_iff,
      fun _ => read_eq_longShardNumber_iff⟩
  unfold IsReadOrReported KeysFit
  cases outcome : documents.check with
  | error fault =>
      have reported := read_of_check_error outcome
      refine iff_of_true (.inr ⟨fault, reported, ?_, ?_⟩) nofun
      · simp [ShapeFault.issues]
      · exact read_eq_malformed_iff.mp reported
  | ok raw =>
      have areNumbers := isShardNumber_of_check outcome
      have joined := read_of_check_ok outcome
      constructor
      · rintro (⟨inventory, isRead⟩ | ⟨fault, isReported, _⟩) _ ⟨⟩
        · rw [← RawInventory.isOk_join_iff areNumbers, ← joined, isRead]
          rfl
        · rw [read_eq_malformed_iff, ← check_eq_error_iff,
            outcome] at isReported
          cases isReported
      · intro short
        left
        rw [joined]
        exact
          exists_eq_ok
            ((RawInventory.isOk_join_iff areNumbers).mpr (short raw rfl))

end RawDocuments

/-- Raw documents with one copy, under a key. -/
def oneCopyUnder
    (key : String) :
    RawDocuments :=
  { nodes := .object [("nodes", .object [("a", .object [])])]
    nodesStats := .object []
    routing :=
      routingJson
        [("logs", [(key, [copyJson "STARTED" true (.text "a")])])]
    indicesStats := .object [] }

/-- What passes of the documents with one copy. -/
def oneCopyInventory
    (key : String) :
    RawInventory :=
  { nodes := .ofList [("a", { name := "", roles := [], address := none })]
    nodesStats := .empty
    routing :=
      { master := none
        indices :=
          .ofList
            [ ("logs",
                .ofList
                  [ (key,
                      [ { state := .started
                          primary := true
                          node := some "a"
                          relocatingTo := none } ]) ]) ] }
    indicesStats := .empty }

/-- Documents with one copy pass if it is under a shard number. -/
theorem check_oneCopyUnder
    {key : String}
    (isNumber : isShardNumber key = true) :
    (oneCopyUnder key).check = .ok (oneCopyInventory key) := by
  have numbered
      (copies : List RawCopy) :
      withShardNumbers (.ofList [(key, copies)]) =
        .passed (.ofList [(key, copies)]) := by
    have keys : (OrderedMap.ofList [(key, copies)]).keys = [key] :=
      rfl
    simp [withShardNumbers_eq_passed_iff, keys, isNumber]
  have index :
      rawIndexRouting
          (.object
            [ ("shards",
                .object
                  [ (key,
                      .array
                        [copyJson "STARTED" true (.text "a")]) ]) ]) =
        .passed (.ofList [(key, [⟨.started, true, some "a", none⟩])]) := by
    change (Checked.andThen (.passed _) withShardNumbers).within _ = _
    rw [Checked.andThen, numbered]
    rfl
  rw [RawDocuments.check_eq_ok_iff]
  refine ⟨rfl, rfl, ?_, rfl⟩
  simp [oneCopyUnder, oneCopyInventory, routingJson, rawRouting,
    rawRoutingTable, record, optional, FieldName.find?, List.lookup_cons,
    mapOf, Checked.items, Checked.map, index]

/-- Documents with one copy break off if its key is too long. -/
theorem read_oneCopyUnder
    {key : String}
    (isNumber : isShardNumber key = true)
    (long : Text.digitLimit < key.length) :
    (oneCopyUnder key).read = .error (.longShardNumber key.length) :=
  RawDocuments.read_eq_longShardNumber_iff.mpr
    ⟨_, check_oneCopyUnder isNumber, [], _, [], rfl, by simp, long, rfl⟩

/-- A shard number of zeros alone. -/
def zeros
    (count : Nat) :
    String :=
  String.ofList (List.replicate count '0')

/-- The zeros are so many. -/
theorem length_zeros
    (count : Nat) :
    (zeros count).length = count := by
  rw [zeros, String.length_ofList, List.length_replicate]

/-- Zeros are a shard number, however many they are. -/
theorem isShardNumber_zeros
    {count : Nat}
    (positive : 0 < count) :
    isShardNumber (zeros count) = true := by
  refine (isShardNumber_iff _).mpr ⟨?_, ?_⟩
  · intro isEmpty
    have length := length_zeros count
    rw [isEmpty, String.length_empty] at length
    omega
  · intro char member
    rw [zeros, String.toList_ofList] at member
    rw [List.eq_of_mem_replicate member]
    rfl

/-- Documents that pass every check are neither read nor reported, as a key is too long. -/
theorem not_read_under_zeros :
    let documents := oneCopyUnder (zeros 4301)
    documents.check = .ok (oneCopyInventory (zeros 4301)) ∧
      documents.read = .error (.longShardNumber 4301) ∧
      ¬ documents.IsReadOrReported := by
  have isNumber : isShardNumber (zeros 4301) = true :=
    isShardNumber_zeros (by omega)
  have breaksOff :=
    read_oneCopyUnder isNumber
      (by rw [length_zeros, Text.digitLimit]; omega)
  rw [length_zeros] at breaksOff
  refine ⟨check_oneCopyUnder isNumber, breaksOff, ?_⟩
  rw [RawDocuments.IsReadOrReported, breaksOff]
  rintro (⟨_, ⟨⟩⟩ | ⟨_, ⟨⟩, _⟩)

end ShardAtlas.Payload
