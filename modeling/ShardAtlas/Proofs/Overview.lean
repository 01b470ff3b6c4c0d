import Mathlib.Algebra.Order.BigOperators.Group.List
import ShardAtlas.Console.Overview
import ShardAtlas.Proofs.DoubleRange
import ShardAtlas.Proofs.FlatImage
import ShardAtlas.Proofs.Resolution
import ShardAtlas.Proofs.SnapshotValues

namespace ShardAtlas

/-!
# Which clusters can be shown

A document is accepted however great its numbers are. But percentages, figures and sizes are
doubles, and the numbers of an index, and of a copy that is warned of, are printed with all
their digits. So an accepted document can be shown just if the first are in the range of
doubles and the second have no more than 4300 digits: that is far beyond what a cluster can
hold, but not beyond what a document can say.
-/

/-! ## The numbers of an inventory -/

/-- Whether the percentage of a share in a whole has a double. -/
def FitsPercentage
    (part whole : Int) :
    Prop :=
  whole = 0 ∨ part < Binary64.wholeLimit * whole

/-- Whether a share fits is a comparison of whole numbers. -/
instance decidableFitsPercentage
    (part whole : Int) :
    Decidable (FitsPercentage part whole) :=
  inferInstanceAs (Decidable (_ ∨ _))

/-- A percentage of a share that is not negative has a double just if the share fits. -/
theorem isOk_percentage_iff
    {part whole : Int}
    (partNotNegative : 0 ≤ part)
    (wholeNotNegative : 0 ≤ whole) :
    (percentage part whole).isOk = true ↔ FitsPercentage part whole := by
  unfold percentage FitsPercentage
  by_cases noWhole : whole = 0
  · simp only [noWhole, Int.le_refl, if_true, true_or, iff_true]
    rfl
  · have isWhole : ¬whole ≤ 0 := by
      omega
    rw [if_neg isWhole, isOk_map, Binary64.isOk_ofQuotient_iff _ noWhole]
    obtain ⟨part, rfl⟩ := Int.eq_ofNat_of_zero_le partNotNegative
    obtain ⟨whole, rfl⟩ := Int.eq_ofNat_of_zero_le wholeNotNegative
    simp only [noWhole, false_or, Int.natAbs_natCast]
    norm_cast

/-- A number that is not negative has a double just if it is below the limit. -/
theorem isOk_ofInt_iff_lt
    {value : Int}
    (notNegative : 0 ≤ value) :
    (Binary64.ofInt value).isOk = true ↔ value < Binary64.wholeLimit := by
  rw [Binary64.isOk_ofInt_iff]
  omega

/-- Whether the cells of an index can be printed. -/
structure IndexSummary.FitsCells
    (index : IndexSummary) :
    Prop where
  primaryShards : Text.FitsDigits index.primaryShards
  replicaShards : Text.FitsDigits index.replicaShards
  documents : Text.FitsDigits index.documents
  bytes : index.bytes < Binary64.wholeLimit

/-- Whether the cells of an index can be printed is told by comparing whole numbers. -/
instance IndexSummary.decidableFitsCells
    (index : IndexSummary) :
    Decidable index.FitsCells :=
  decidable_of_iff
    (Text.FitsDigits index.primaryShards ∧
      Text.FitsDigits index.replicaShards ∧
      Text.FitsDigits index.documents ∧ index.bytes < Binary64.wholeLimit)
    ⟨fun ⟨primaryShards, replicaShards, documents, bytes⟩ =>
        ⟨primaryShards, replicaShards, documents, bytes⟩,
      fun fits =>
        ⟨fits.primaryShards, fits.replicaShards, fits.documents,
          fits.bytes⟩⟩

namespace Inventory

/-- Whether a snapshot can be built and the cells of both tables of an overview printed. -/
structure FitsTables
    (inventory : Inventory) :
    Prop where
  strays : ∀ shard ∈ inventory.strays, Text.FitsDigits shard.number
  heap : ∀ node ∈ inventory.nodes, FitsPercentage node.heapUsed node.heapMax
  disk : ∀ node ∈ inventory.nodes, FitsPercentage node.diskUsed node.diskTotal
  indices : ∀ index ∈ inventory.indices, index.FitsCells

/-- Whether all that is shown of a cluster can be computed, its figures included. -/
structure FitsViews
    (inventory : Inventory) :
    Prop extends
    inventory.FitsTables where
  documents :
    (inventory.indices.map IndexSummary.documents).sum < Binary64.wholeLimit
  nodeCount : inventory.nodes.length < Binary64.wholeLimit
  indexCount : inventory.indices.length < Binary64.wholeLimit
  shardCount : inventory.shards.length < Binary64.wholeLimit

/-- Whether the cells of an inventory fit is told by comparing whole numbers. -/
instance decidableFitsTables
    (inventory : Inventory) :
    Decidable inventory.FitsTables :=
  decidable_of_iff
    ((∀ shard ∈ inventory.strays, Text.FitsDigits shard.number) ∧
      (∀ node ∈ inventory.nodes,
        FitsPercentage node.heapUsed node.heapMax) ∧
      (∀ node ∈ inventory.nodes,
        FitsPercentage node.diskUsed node.diskTotal) ∧
      ∀ index ∈ inventory.indices, index.FitsCells)
    ⟨fun ⟨strays, heap, disk, indices⟩ => ⟨strays, heap, disk, indices⟩,
      fun fits => ⟨fits.strays, fits.heap, fits.disk, fits.indices⟩⟩

/-- Whether an inventory fits is told by comparing whole numbers. -/
instance decidableFitsViews
    (inventory : Inventory) :
    Decidable inventory.FitsViews :=
  decidable_of_iff
    (inventory.FitsTables ∧
      (inventory.indices.map IndexSummary.documents).sum <
        Binary64.wholeLimit ∧
      inventory.nodes.length < Binary64.wholeLimit ∧
      inventory.indices.length < Binary64.wholeLimit ∧
      inventory.shards.length < Binary64.wholeLimit)
    ⟨fun ⟨tables, documents, nodes, indices, shards⟩ =>
        ⟨tables, documents, nodes, indices, shards⟩,
      fun fits =>
        ⟨fits.toFitsTables, fits.documents, fits.nodeCount,
          fits.indexCount, fits.shardCount⟩⟩

end Inventory

namespace Snapshot

/-- Whether all that the views of a cluster need can be computed. -/
structure IsShowable
    (snapshot : Snapshot) :
    Prop where
  measurable : snapshot.IsMeasurable
  nodes : (Console.nodeTable snapshot).isOk = true
  indices : (Console.indexTable snapshot).isOk = true

/-- The figures of a cluster have doubles just if the counts are below the limit. -/
theorem isOk_figures_iff
    {snapshot : Snapshot}
    (documents : 0 ≤ snapshot.documents) :
    snapshot.figures.isOk = true ↔
      snapshot.nodes.length < Binary64.wholeLimit ∧
        snapshot.indices.length < Binary64.wholeLimit ∧
        snapshot.documents < Binary64.wholeLimit ∧
        snapshot.shardCount < Binary64.wholeLimit ∧
        snapshot.unassigned.length < Binary64.wholeLimit := by
  have ofCount (count : Nat) :
      (Binary64.ofInt count).isOk = true ↔ count < Binary64.wholeLimit := by
    rw [isOk_ofInt_iff_lt (Int.natCast_nonneg count), Int.ofNat_lt]
  rw [figures, isOk_mapM_iff]
  simp only [List.forall_mem_cons, isOk_map, ofCount,
    isOk_ofInt_iff_lt documents, List.not_mem_nil, false_imp_iff,
    implies_true, and_true]

end Snapshot

namespace Console

/-- The cells of a node can be computed just if its percentages can. -/
theorem isOk_nodeRow_iff
    (host : HostedNode) :
    (nodeRow host).isOk = true ↔
      host.node.heapPercent.isOk = true ∧
        host.node.diskPercent.isOk = true := by
  unfold nodeRow
  cases host.node.heapPercent with
  | error cause =>
      exact iff_of_false nofun fun both => nomatch both.1
  | ok heap =>
      cases host.node.diskPercent with
      | error cause =>
          exact iff_of_false nofun fun both => nomatch both.2
      | ok disk =>
          exact iff_of_true rfl ⟨rfl, rfl⟩

/-- An integer can be shown in a cell just if it does not have too many digits. -/
theorem isOk_cellNumber_iff
    (value : Int) :
    (cellNumber value).isOk = true ↔ Text.FitsDigits value := by
  rw [cellNumber, isOk_mapError, Text.isOk_printed_iff]

/-- The cells of an index with a size that is not negative can be computed just if they fit. -/
theorem isOk_indexRow_iff
    {index : IndexSummary}
    (notNegative : 0 ≤ index.bytes) :
    (indexRow index).isOk = true ↔ index.FitsCells := by
  have size :
      ((byteSize index.bytes).mapError Crash.overflow).isOk = true ↔
        index.bytes < Binary64.wholeLimit := by
    rw [isOk_mapError, ← isOk_ofInt_iff_lt notNegative]
    unfold byteSize
    cases Binary64.ofInt index.bytes <;> exact Iff.rfl
  have cells :
      (indexRow index).isOk = true ↔
        (cellNumber index.primaryShards).isOk = true ∧
          (cellNumber index.replicaShards).isOk = true ∧
          (cellNumber index.documents).isOk = true ∧
          ((byteSize index.bytes).mapError Crash.overflow).isOk = true ∧
          True :=
    isOk_bind_iff fun _ => isOk_bind_iff fun _ => isOk_bind_iff fun _ =>
      isOk_bind_iff fun _ => iff_of_true rfl trivial
  rw [cells, size, isOk_cellNumber_iff, isOk_cellNumber_iff,
    isOk_cellNumber_iff, and_true]
  constructor
  · rintro ⟨primaryShards, replicaShards, documents, bytes⟩
    exact ⟨primaryShards, replicaShards, documents, bytes⟩
  · intro fits
    exact
      ⟨fits.primaryShards, fits.replicaShards, fits.documents, fits.bytes⟩

/-- The table of the nodes can be computed just if all percentages can. -/
theorem isOk_nodeTable_iff
    (snapshot : Snapshot) :
    (nodeTable snapshot).isOk = true ↔
      ∀ host ∈ snapshot.nodes,
        host.node.heapPercent.isOk = true ∧
          host.node.diskPercent.isOk = true := by
  have rows :
      (nodeTable snapshot).isOk =
        ((mastersFirst snapshot.nodes).mapM nodeRow).isOk := by
    unfold nodeTable
    cases (mastersFirst snapshot.nodes).mapM nodeRow <;> rfl
  rw [rows, isOk_mapM_iff]
  simp only [isOk_nodeRow_iff, mastersFirst, List.mem_mergeSort]

/-- Whether a crash is for a number: one without a double, or one with too many digits. -/
def Crash.IsForNumber
    (crash : Crash) :
    Prop :=
  (∃ cause, crash = .overflow cause) ∨ ∃ cause, crash = .longInteger cause

/-- The cells of an index are missing only for a number. -/
theorem isForNumber_of_indexRow
    {index : IndexSummary}
    {crash : Crash}
    (missing : indexRow index = .error crash) :
    crash.IsForNumber := by
  have ofCell {value : Int} (missing : cellNumber value = .error crash) :
      crash.IsForNumber := by
    obtain ⟨cause, rfl, _⟩ := mapError_eq_error_iff.mp missing
    exact .inr ⟨cause, rfl⟩
  unfold indexRow at missing
  rcases bind_eq_error_iff.mp missing with primaryShards | ⟨_, _, missing⟩
  · exact ofCell primaryShards
  rcases bind_eq_error_iff.mp missing with replicaShards | ⟨_, _, missing⟩
  · exact ofCell replicaShards
  rcases bind_eq_error_iff.mp missing with documents | ⟨_, _, missing⟩
  · exact ofCell documents
  rcases bind_eq_error_iff.mp missing with bytes | ⟨_, _, missing⟩
  · obtain ⟨cause, rfl, _⟩ := mapError_eq_error_iff.mp bytes
    exact .inl ⟨cause, rfl⟩
  · cases missing

/-- The table of the indices is missing only for a number. -/
theorem isForNumber_of_indexTable
    {snapshot : Snapshot}
    {crash : Crash}
    (missing : indexTable snapshot = .error crash) :
    crash.IsForNumber := by
  unfold indexTable at missing
  rcases bind_eq_error_iff.mp missing with rows | ⟨_, _, missing⟩
  · obtain ⟨_, index, _, _, _, row⟩ := mapM_eq_error_iff.mp rows
    exact isForNumber_of_indexRow row
  · cases missing

/-- The table of the indices can be computed just if the cells of each index can. -/
theorem isOk_indexTable_iff
    (snapshot : Snapshot) :
    (indexTable snapshot).isOk = true ↔
      ∀ index ∈ snapshot.indices, (indexRow index).isOk = true := by
  have rows :
      (indexTable snapshot).isOk =
        (snapshot.indices.mapM indexRow).isOk := by
    unfold indexTable
    cases snapshot.indices.mapM indexRow <;> rfl
  rw [rows, isOk_mapM_iff]

/-- Both tables of a well-formed inventory can be computed just if their cells fit. -/
theorem isOk_tables_iff
    {inventory : Inventory}
    (wellFormed : inventory.WellFormed) :
    let snapshot := Snapshot.ofInventory inventory
    (nodeTable snapshot).isOk = true ∧ (indexTable snapshot).isOk = true ↔
      (∀ node ∈ inventory.nodes,
        FitsPercentage node.heapUsed node.heapMax ∧
          FitsPercentage node.diskUsed node.diskTotal) ∧
        ∀ index ∈ inventory.indices, index.FitsCells := by
  intro snapshot
  have ofNodes (holds : Node → Prop) :
      (∀ host ∈ snapshot.nodes, holds host.node) ↔
        ∀ node ∈ inventory.nodes, holds node := by
    rw [← Snapshot.map_node_nodes inventory, List.forall_mem_map]
  rw [isOk_nodeTable_iff, isOk_indexTable_iff,
    ofNodes fun node =>
      node.heapPercent.isOk = true ∧ node.diskPercent.isOk = true]
  refine
    and_congr
      (forall₂_congr fun node isNode => ?nodes)
      (forall₂_congr fun index isIndex => ?indices)
  case nodes =>
    have known := wellFormed.nodes node isNode
    exact
      and_congr (isOk_percentage_iff known.heapUsed known.heapMax)
        (isOk_percentage_iff known.diskUsed known.diskTotal)
  case indices =>
    exact isOk_indexRow_iff (wellFormed.indices index isIndex).bytes

/-- The cells of both tables of a built snapshot can be printed just if they fit. -/
theorem built_with_tables_iff_fitsTables
    {inventory : Inventory}
    (wellFormed : inventory.WellFormed) :
    (∃ built, Snapshot.build inventory = .ok built ∧
      (nodeTable built).isOk = true ∧ (indexTable built).isOk = true) ↔
      inventory.FitsTables := by
  have tables := isOk_tables_iff wellFormed
  simp only [Snapshot.build_eq_ok_iff]
  constructor
  · rintro ⟨_, ⟨rfl, strays⟩, computed⟩
    obtain ⟨nodes, indices⟩ := tables.mp computed
    exact
      { strays := strays
        heap := fun node isNode => (nodes node isNode).1
        disk := fun node isNode => (nodes node isNode).2
        indices := indices }
  · intro fits
    exact
      ⟨_, ⟨rfl, fits.strays⟩,
        tables.mpr
          ⟨fun node isNode => ⟨fits.heap node isNode, fits.disk node isNode⟩,
            fits.indices⟩⟩

/-- A well-formed inventory is built and can be shown just if all its numbers fit. -/
theorem built_isShowable_iff_fitsViews
    {inventory : Inventory}
    (wellFormed : inventory.WellFormed) :
    (∃ built, Snapshot.build inventory = .ok built ∧ built.IsShowable) ↔
      inventory.FitsViews := by
  have tables := built_with_tables_iff_fitsTables wellFormed
  have documents :
      (Snapshot.ofInventory inventory).documents =
        (inventory.indices.map IndexSummary.documents).sum := by
    rw [List.sum_eq_foldl]
    rfl
  have documentsNotNegative :
      0 ≤ (Snapshot.ofInventory inventory).documents := by
    rw [documents]
    apply List.sum_nonneg
    intro count member
    obtain ⟨index, isIndex, rfl⟩ := List.mem_map.mp member
    exact (wellFormed.indices index isIndex).documents
  have nodeCount :
      (Snapshot.ofInventory inventory).nodes.length =
        inventory.nodes.length := by
    rw [← Snapshot.map_node_nodes inventory, List.length_map]
  have shardCount :
      (Snapshot.ofInventory inventory).shardCount =
        inventory.shards.length :=
    (Snapshot.shards_ofInventory_perm inventory).length_eq
  have unassigned :
      (Snapshot.ofInventory inventory).unassigned.length ≤
        (Snapshot.ofInventory inventory).shardCount := by
    simp only [Snapshot.shardCount, Snapshot.shards, List.length_append]
    omega
  have figures := Snapshot.isOk_figures_iff documentsNotNegative
  constructor
  · rintro ⟨built, builds, measurable, nodes, indices⟩
    have fits := tables.mp ⟨built, builds, nodes, indices⟩
    obtain ⟨rfl, _⟩ := (Snapshot.build_eq_ok_iff inventory built).mp builds
    obtain ⟨fitNodes, fitIndices, fitDocuments, fitShards, _⟩ :=
      figures.mp measurable.figures
    exact
      { fits with
        documents := documents ▸ fitDocuments
        nodeCount := nodeCount ▸ fitNodes
        indexCount := fitIndices
        shardCount := shardCount ▸ fitShards }
  · intro fits
    obtain ⟨built, builds, nodes, indices⟩ := tables.mpr fits.toFitsTables
    obtain ⟨rfl, _⟩ := (Snapshot.build_eq_ok_iff inventory built).mp builds
    have percentages := (isOk_nodeTable_iff _).mp nodes
    have fitShards :
        (Snapshot.ofInventory inventory).shardCount <
          Binary64.wholeLimit :=
      shardCount ▸ fits.shardCount
    exact
      ⟨_, builds,
        { measurable :=
            { figures :=
                figures.mpr
                  ⟨nodeCount ▸ fits.nodeCount, fits.indexCount,
                    documents ▸ fits.documents, fitShards,
                    Nat.lt_of_le_of_lt unassigned fitShards⟩
              heap := fun host isHost => (percentages host isHost).1
              disk := fun host isHost => (percentages host isHost).2 }
          nodes := nodes
          indices := indices }⟩

/-! ## Deeds in turn -/

/-- What is done after a deed starts from what that leaves. -/
theorem run_bind_of_ok
    {deed : Deed α}
    {screen after : Screen}
    {result : α}
    (done : deed.run.run screen = (.ok result, after))
    (next : α → Deed β) :
    (deed >>= next).run.run screen = (next result).run.run after := by
  rw [ExceptT.run_bind, StateT.run_bind, done]
  rfl

/-- Nothing is done after a deed that stops. -/
theorem run_bind_of_error
    {deed : Deed α}
    {screen after : Screen}
    {stopped : Stopped}
    (stops : deed.run.run screen = (.error stopped, after))
    (next : α → Deed β) :
    (deed >>= next).run.run screen = (.error stopped, after) := by
  rw [ExceptT.run_bind, StateT.run_bind, stops]
  rfl

/-- Warnings are logged up to one that cannot be written, which is a crash. -/
theorem run_warn
    (warnings : List Message)
    (screen : Screen) :
    (warn warnings).run.run screen =
      ((Message.logged warnings).2.mapError fun cause =>
          .byCrash (.longInteger cause),
        screen.withLogged (Message.logged warnings).1) := by
  unfold warn
  rcases Message.logged warnings with ⟨texts, _ | _⟩ <;> rfl

/-- A dump with the document of an inventory gives its snapshot, if that can be built. -/
theorem exists_run_loadSnapshot
    {document : Json}
    {inventory : Inventory}
    (accepted : Payload.readFlat document = .ok inventory)
    {dump : Path}
    {screen : Screen}
    {content : String}
    (holds : screen.files.read dump = .ok (.text content))
    (reads :
      Json.readLimited (String.ofList (plainLineEnds content.toList)) =
        .ok document) :
    ∃ loaded,
      (loadSnapshot dump).run.run screen =
        ((Snapshot.build inventory).mapError fun cause =>
            .byCrash (.longInteger cause),
          loaded) := by
  have readDump :
      (readJson dump).run.run screen = (.ok document, screen) := by
    unfold readJson
    rw [run_bind_of_ok (show (get : Deed Screen).run.run screen = _ from rfl)]
    simp only [holds, readContent, reads]
    rfl
  unfold loadSnapshot
  rw [run_bind_of_ok readDump]
  simp only [accepted]
  have warned := run_warn (Snapshot.warnings inventory) screen
  unfold Snapshot.build Message.given
  cases logged : (Message.logged (Snapshot.warnings inventory)).2 with
  | error cause =>
      rw [logged] at warned
      exact ⟨_, run_bind_of_error warned _⟩
  | ok written =>
      rw [logged] at warned
      exact ⟨_, run_bind_of_ok warned _⟩

/-- A loaded cluster is shown just if both tables can be computed, and else there is a crash. -/
theorem run_showTopology
    {dump : Path}
    {screen loaded : Screen}
    {snapshot : Snapshot}
    (loads : (loadSnapshot dump).run.run screen = (.ok snapshot, loaded)) :
    if (nodeTable snapshot).isOk = true ∧
        (indexTable snapshot).isOk = true then
      ((showTopology dump).run.run screen).1 = .ok ()
    else
      ∃ crash,
        ((showTopology dump).run.run screen).1 = .error (.byCrash crash) ∧
          crash.IsForNumber := by
  -- The last line is printed or left out, and neither fails.
  have ends (isPrinted : Prop) [Decidable isPrinted] (line : String)
      (before : Screen) :
      ((if isPrinted then printLine line else pure () :
        Deed Unit).run.run before).1 = .ok () := by
    split <;> rfl
  unfold showTopology
  rw [run_bind_of_ok loads]
  cases nodeTable snapshot with
  | error cause =>
      rw [if_neg fun both => nomatch both.1]
      exact ⟨.overflow cause, rfl, .inl ⟨cause, rfl⟩⟩
  | ok nodes =>
      cases indices : indexTable snapshot with
      | error crash =>
          rw [if_neg fun both => nomatch both.2]
          exact ⟨crash, rfl, isForNumber_of_indexTable indices⟩
      | ok indices =>
          rw [if_pos ⟨rfl, rfl⟩]
          exact ends _ _ _

/--
Whatever document is accepted, all that the views of its cluster need can be computed just
if its numbers fit, and a dump with it is shown just if the cells of the tables do.

Where they do not, showing the dump ends in a crash for a number: one without a double, or one
with too many digits. A dump is shown when all of it has been handed to the console: printing
does not fail here, and no text in it is taken as markup.
-/
theorem accepted_shown_iff_numbers_fit
    {document : Json}
    {inventory : Inventory}
    (accepted : Payload.readFlat document = .ok inventory) :
    ((∃ built, Snapshot.build inventory = .ok built ∧ built.IsShowable) ↔
        inventory.FitsViews) ∧
      ∀ (dump : Path) (screen : Screen) (content : String),
        screen.files.read dump = .ok (.text content) →
          Json.readLimited (String.ofList (plainLineEnds content.toList)) =
              .ok document →
            let outcome := ((showTopology dump).run.run screen).1
            (inventory.FitsTables → outcome = .ok ()) ∧
              (¬inventory.FitsTables →
                ∃ crash,
                  outcome = .error (.byCrash crash) ∧
                    crash.IsForNumber) := by
  have wellFormed : inventory.WellFormed :=
    Payload.ensures_flatDocument document inventory
      (Payload.Checked.toShape_eq_ok_iff.mp accepted)
  refine ⟨built_isShowable_iff_fitsViews wellFormed, ?_⟩
  intro dump screen content holds reads outcome
  have tables := built_with_tables_iff_fitsTables wellFormed
  obtain ⟨loaded, loads⟩ := exists_run_loadSnapshot accepted holds reads
  cases builds : Snapshot.build inventory with
  | error cause =>
      rw [builds] at tables loads
      have unfit : ¬inventory.FitsTables := fun fits =>
        nomatch (tables.mpr fits).choose_spec.1
      refine ⟨fun fits => absurd fits unfit, fun _ => ?_⟩
      refine ⟨.longInteger cause, ?_, .inr ⟨cause, rfl⟩⟩
      exact congrArg Prod.fst (run_bind_of_error loads _)
  | ok built =>
      rw [builds] at tables loads
      have shown := run_showTopology loads
      constructor
      · intro fits
        obtain ⟨_, ⟨⟩, computed⟩ := tables.mpr fits
        rwa [if_pos computed] at shown
      · intro unfit
        rwa [if_neg fun computed => unfit (tables.mp ⟨built, rfl, computed⟩)]
          at shown


/-- A dump whose numbers take up 64 bits is shown. -/
theorem shown_with_greatest_words :
    let content :=
      "\x7b\"nodes\":[\x7b\"id\":\"a\",\"name\":\"a\"," ++
        "\"heapUsed\":18446744073709551615,\"heapMax\":1\x7d]," ++
        "\"indices\":[\x7b\"name\":\"b\"," ++
        "\"storeSize\":18446744073709551615\x7d]\x7d"
    let dump : Path := ⟨.working, ["dump.json"]⟩
    let screen : Screen :=
      { files :=
          { entries :=
              { entries := [(["dump.json"], .file (.text content))]
                keysNodup := by decide } } }
    let inventory : Inventory :=
      { nodes :=
          [ { id := "a"
              name := "a"
              heapUsed := 18446744073709551615
              heapMax := 1 } ]
        shards := []
        indices :=
          [ { name := "b"
              health := "yellow"
              status := .opened
              bytes := 18446744073709551615 } ] }
    ∃ document built,
      Payload.readFlat document = .ok inventory ∧
        screen.files.read dump = .ok (.text content) ∧
        Json.readLimited (String.ofList (plainLineEnds content.toList)) =
          .ok document ∧
        Snapshot.build inventory = .ok built ∧ built.IsShowable ∧
        ((showTopology dump).run.run screen).1 = .ok () := by
  intro content dump screen inventory
  have readAndAccepted :
      (Json.readLimited
        (String.ofList (plainLineEnds content.toList))).toOption.map
          Payload.readFlat = some (.ok inventory) := by
    decide +kernel
  obtain ⟨document, reads, accepted⟩ :
      ∃ document,
        Json.readLimited (String.ofList (plainLineEnds content.toList)) =
            .ok document ∧
          Payload.readFlat document = .ok inventory := by
    cases reading :
        Json.readLimited
          (String.ofList (plainLineEnds content.toList)) with
    | error fault =>
        rw [reading] at readAndAccepted
        cases readAndAccepted
    | ok document =>
        rw [reading] at readAndAccepted
        exact ⟨document, rfl, Option.some.inj readAndAccepted⟩
  have holds : screen.files.read dump = .ok (.text content) := by
    decide +kernel
  have fits : inventory.FitsViews := by
    decide +kernel
  obtain ⟨showable, shown⟩ := accepted_shown_iff_numbers_fit accepted
  obtain ⟨built, builds, isShowable⟩ := showable.mpr fits
  exact
    ⟨document, built, accepted, holds, reads, builds, isShowable,
      (shown dump screen content holds reads).1 fits.toFitsTables⟩

/-- The least size without a double is accepted, and then the indices cannot be shown. -/
theorem accepted_size_without_double :
    let document : Json :=
      .object
        [ ("nodes", .array []),
          ("indices",
            .array
              [ .object
                  [ ("name", .text "b"),
                    ("storeSize", .integer Binary64.wholeLimit) ] ]) ]
    let inventory : Inventory :=
      { nodes := []
        shards := []
        indices :=
          [ { name := "b"
              health := "yellow"
              status := .opened
              bytes := Binary64.wholeLimit } ] }
    Payload.readFlat document = .ok inventory ∧
      indexTable (Snapshot.ofInventory inventory) =
        .error (.overflow .integer) ∧
      ¬(Snapshot.ofInventory inventory).IsShowable := by
  intro document inventory
  have accepted : Payload.readFlat document = .ok inventory := by
    decide +kernel
  have overflows :
      indexTable (Snapshot.ofInventory inventory) =
        .error (.overflow .integer) := by
    decide +kernel
  refine ⟨accepted, overflows, fun showable => ?_⟩
  have computed := showable.indices
  rw [overflows] at computed
  cases computed

end Console

end ShardAtlas
