import Mathlib.Data.List.Nodup
import ShardAtlas.Proofs.ChangedDocuments
import ShardAtlas.Proofs.FlatImage
import ShardAtlas.Proofs.RoutedCopies

namespace ShardAtlas.Payload

/-!
# The figures of a copy

Numbers of documents and bytes are reported for each copy apart, in another document than the
copies themselves. An entry there may say on which node and in which role the copy is that it
is about. Here the figures of a copy are told by rules on those entries. They say as well
where no figures may be taken over, as an entry about another copy is worse than none.
-/

/-- Where a copy of the routing table is, as an entry about it says. -/
def RawCopy.place
    (copy : RawCopy) :
    RawCopyPlace :=
  { primary := copy.primary
    node := copy.node }

/-- Whether a copy is on a node; the empty text names none. -/
def RawCopy.IsOnNode
    (copy : RawCopy) :
    Prop :=
  copy.node ≠ none ∧ copy.node ≠ some ("" : Text)

/--
Documents and bytes of a copy, by the entries under its index and key.

They are those of the first entry about the copy. Where no entry says what it is about, they
are those of the first one. Otherwise, and for a copy on no node, they are zero.
-/
inductive FiguresOf
    (entries : List RawCopyStats)
    (copy : RawCopy) :
    Int →
    Int →
    Prop
  | own
      {before behind : List RawCopyStats}
      {entry : RawCopyStats}
      (onNode : copy.IsOnNode)
      (split : entries = before ++ entry :: behind)
      (isAbout : entry.place = some copy.place)
      (isFirst : ∀ other ∈ before, other.place ≠ some copy.place) :
      FiguresOf entries copy entry.documents entry.bytes
  | unmarked
      {behind : List RawCopyStats}
      {entry : RawCopyStats}
      (onNode : copy.IsOnNode)
      (split : entries = entry :: behind)
      (silent : ∀ other ∈ entries, other.place = none) :
      FiguresOf entries copy entry.documents entry.bytes
  | foreign
      (strange : ∀ entry ∈ entries, entry.place ≠ some copy.place)
      (marked : entries = [] ∨ ∃ entry ∈ entries, entry.place ≠ none) :
      FiguresOf entries copy 0 0
  | nowhere
      (offNode : ¬ copy.IsOnNode) :
      FiguresOf entries copy 0 0

/-- A copy is on a node just if its reference names one. -/
theorem RawCopy.isOnNode_iff
    (copy : RawCopy) :
    copy.IsOnNode ↔ namesNode copy.node = true := by
  rw [← Bool.not_eq_false, namesNode_eq_false_iff, not_or]
  rfl

/-- Entries are about a copy just if they have its place. -/
theorem RawCopyStats.areAbout_iff
    (entry : RawCopyStats)
    (copy : RawCopy) :
    entry.areAbout copy = true ↔ entry.place = some copy.place := by
  rw [areAbout, beq_iff_eq]
  rfl

/-- No entry is found for a copy just if none has its place. -/
theorem find?_areAbout_eq_none_iff
    (entries : List RawCopyStats)
    (copy : RawCopy) :
    (entries.find? fun stats => stats.areAbout copy) = none ↔
      ∀ entry ∈ entries, entry.place ≠ some copy.place := by
  simp only [List.find?_eq_none, RawCopyStats.areAbout_iff, ne_eq]

/-- Whether all entries are without a place, as a condition on each of them. -/
theorem all_isNone_place_iff
    (entries : List RawCopyStats) :
    (entries.all fun stats => stats.place.isNone) = true ↔
      ∀ entry ∈ entries, entry.place = none := by
  simp only [List.all_eq_true, Option.isNone_iff_eq_none]

/-- The entry that is matched with a copy gives its figures, and they are zero without one. -/
theorem figuresOf_matchStats?
    (entries : List RawCopyStats)
    (copy : RawCopy) :
    FiguresOf entries copy
      (((matchStats? entries copy).map RawCopyStats.documents).getD 0)
      (((matchStats? entries copy).map RawCopyStats.bytes).getD 0) := by
  unfold matchStats?
  split
  · next named =>
      have onNode := copy.isOnNode_iff.mpr named
      cases found : entries.find? fun stats => stats.areAbout copy with
      | some entry =>
          obtain ⟨isAbout, before, behind, split, others⟩ :=
            List.find?_eq_some_iff_append.mp found
          refine
            .own onNode split ((entry.areAbout_iff copy).mp isAbout) ?_
          intro other member isOther
          have missed := others other member
          rw [(other.areAbout_iff copy).mpr isOther] at missed
          cases missed
      | none =>
          have strange :=
            (find?_areAbout_eq_none_iff entries copy).mp found
          dsimp only
          split
          · next silent =>
              cases entries with
              | nil =>
                  exact .foreign strange (.inl rfl)
              | cons entry behind =>
                  exact
                    .unmarked onNode rfl
                      ((all_isNone_place_iff _).mp silent)
          · next marked =>
              simp only [all_isNone_place_iff, not_forall] at marked
              obtain ⟨entry, member, isMarked⟩ := marked
              exact .foreign strange (.inr ⟨entry, member, isMarked⟩)
  · next unnamed =>
      exact .nowhere fun onNode => unnamed (copy.isOnNode_iff.mp onNode)

/-- The rules give a copy nothing else than the figures of the entry that is matched with it. -/
theorem FiguresOf.eq_of_matchStats?
    {entries : List RawCopyStats}
    {copy : RawCopy}
    {documents bytes : Int}
    (figures : FiguresOf entries copy documents bytes) :
    documents =
        ((matchStats? entries copy).map RawCopyStats.documents).getD 0 ∧
      bytes =
        ((matchStats? entries copy).map RawCopyStats.bytes).getD 0 := by
  unfold matchStats?
  cases figures with
  | @own before behind entry onNode split isAbout isFirst =>
      have found :
          (entries.find? fun stats => stats.areAbout copy) =
            some entry := by
        rw [List.find?_eq_some_iff_append]
        refine
          ⟨(entry.areAbout_iff copy).mpr isAbout, before, behind, split,
            ?_⟩
        intro other member
        rw [Bool.not_eq_true', ← Bool.not_eq_true,
          RawCopyStats.areAbout_iff]
        exact isFirst other member
      rw [if_pos (copy.isOnNode_iff.mp onNode), found]
      exact ⟨rfl, rfl⟩
  | @unmarked behind entry onNode split silent =>
      have strange :
          ∀ other ∈ entries, other.place ≠ some copy.place := by
        intro other member isAbout
        rw [silent other member] at isAbout
        cases isAbout
      rw [if_pos (copy.isOnNode_iff.mp onNode),
        (find?_areAbout_eq_none_iff entries copy).mpr strange]
      simp only [if_pos ((all_isNone_place_iff entries).mpr silent)]
      rw [split]
      exact ⟨rfl, rfl⟩
  | foreign strange marked =>
      have nothing :
          (if entries.all fun stats => stats.place.isNone then
            entries.head? else none) = none := by
        rcases marked with rfl | ⟨entry, member, isMarked⟩
        · rfl
        · apply if_neg
          rw [all_isNone_place_iff]
          exact fun silent => isMarked (silent entry member)
      rw [(find?_areAbout_eq_none_iff entries copy).mpr strange]
      simp only [nothing, ite_self]
      exact ⟨rfl, rfl⟩
  | nowhere offNode =>
      rw [if_neg fun named => offNode (copy.isOnNode_iff.mpr named)]
      exact ⟨rfl, rfl⟩

/-- Matching is just what the rules say, which never give a copy two numbers of a kind. -/
theorem figuresOf_iff
    {entries : List RawCopyStats}
    {copy : RawCopy}
    {documents bytes : Int} :
    FiguresOf entries copy documents bytes ↔
      documents =
          ((matchStats? entries copy).map RawCopyStats.documents).getD 0 ∧
        bytes =
          ((matchStats? entries copy).map RawCopyStats.bytes).getD 0 := by
  constructor
  · exact FiguresOf.eq_of_matchStats?
  · rintro ⟨rfl, rfl⟩
    exact figuresOf_matchStats? entries copy

/-- Where every entry says what it is about, a copy has figures of its own or none. -/
theorem FiguresOf.own_or_zero
    {entries : List RawCopyStats}
    {copy : RawCopy}
    {documents bytes : Int}
    (figures : FiguresOf entries copy documents bytes)
    (marked : ∀ entry ∈ entries, entry.place ≠ none) :
    (documents = 0 ∧ bytes = 0) ∨
      ∃ entry ∈ entries,
        entry.place = some copy.place ∧
          entry.documents = documents ∧ entry.bytes = bytes := by
  cases figures with
  | @own before behind entry _ split isAbout _ =>
      have member : entry ∈ entries := by
        simp [split]
      exact .inr ⟨entry, member, isAbout, rfl, rfl⟩
  | @unmarked behind entry _ split silent =>
      have member : entry ∈ entries := by
        simp [split]
      exact absurd (silent entry member) (marked entry member)
  | foreign =>
      exact .inl ⟨rfl, rfl⟩
  | nowhere =>
      exact .inl ⟨rfl, rfl⟩

/-- Entries about different places are matched with a copy in any order of them. -/
theorem matchStats?_eq_of_perm
    {entries others : List RawCopyStats}
    (same : entries.Perm others)
    (marked : ∀ entry ∈ entries, entry.place ≠ none)
    (different : (entries.map RawCopyStats.place).Nodup)
    (copy : RawCopy) :
    matchStats? entries copy = matchStats? others copy := by
  have found :
      (entries.find? fun stats => stats.areAbout copy) =
        others.find? fun stats => stats.areAbout copy := by
    apply find?_eq_of_perm same
    intro entry member other otherMember isAbout isAboutOther
    apply List.inj_on_of_nodup_map different member otherMember
    rw [(entry.areAbout_iff copy).mp isAbout,
      (other.areAbout_iff copy).mp isAboutOther]
  -- The first entry is taken over only if no entry is marked, so only from an empty list.
  have unmarked :
      (if entries.all fun stats => stats.place.isNone then entries.head?
        else none) =
        if others.all fun stats => stats.place.isNone then others.head?
        else none := by
    cases entries with
    | nil =>
        rw [List.nil_perm.mp same]
    | cons entry behind =>
        have isMarked :
            ¬ ((entry :: behind).all fun stats =>
              stats.place.isNone) = true := by
          rw [all_isNone_place_iff]
          intro silent
          have member : entry ∈ entry :: behind :=
            List.mem_cons_self ..
          exact marked entry member (silent entry member)
        rw [← same.all_eq, if_neg isMarked, if_neg isMarked]
  simp only [matchStats?, found, unmarked]

/-! ## Entries in another order -/

/-- Whether statistics of an index are the same but for the order of the entries under a key. -/
structure RawIndexStats.ReorderedUnder
    (key : String)
    (before after : RawIndexStats) : Prop where
  rest : { after with shards := before.shards } = before
  shards : before.shards.AgreeBut key List.Perm after.shards

/-- A change of a document of index statistics: the entries under a key in another order. -/
def reorderStats
    (index key : String)
    (order : List Json → List Json) :
    Json →
    Json :=
  Json.changeMember "indices"
    (Json.changeMember index
      (Json.changeMember "shards"
        (Json.changeMember key (Json.changeItems order))))

/-- The same documents with the entries under a key of an index in another order. -/
def RawDocuments.reordered
    (documents : RawDocuments)
    (index key : String)
    (order : List Json → List Json) :
    RawDocuments :=
  { documents with
    indicesStats := reorderStats index key order documents.indicesStats }

section

variable
  {order : List Json → List Json}
  (keeps : ∀ items, (order items).Perm items)
  (index key : String)

include keeps

/-- The statistics of an index pass with the entries under a key in another order. -/
theorem carries_rawIndexStats :
    Carries rawIndexStats
      (Json.changeMember "shards"
        (Json.changeMember key (Json.changeItems order)))
      (RawIndexStats.ReorderedUnder key) := by
  refine
    ((Carries.listOf_perm rawCopyStats keeps).mapOf key).recordLast
      "ESIndexStats" "shards" OrderedMap.agree_empty ?_ ?_
  · intro members
    simp [optional_changeMembers_of_ne]
  · exact
      .seq_any
        (.seq_any
          (.seq_any
            (.map_any fun _ _ _ _ _ _ agree => ⟨rfl, agree⟩)))

/-- The document of index statistics passes with entries in another order. -/
theorem carries_rawIndicesStats :
    Carries rawIndicesStats (reorderStats index key order)
      (OrderedMap.AgreeBut index (RawIndexStats.ReorderedUnder key)) :=
  ((carries_rawIndexStats keeps key).mapOf index).record
    "ESIndicesStatsResponse" "indices" OrderedMap.agree_empty

end

section

variable
  {raw : RawInventory}
  {index key : String}
  {stats : OrderedMap String RawIndexStats}
  (agree :
    raw.indicesStats.AgreeBut index (RawIndexStats.ReorderedUnder key)
      stats)

include agree

/-- Entries are in another order under the one key, and under any other key they are the same. -/
theorem candidatesFor_reordered
    (other otherKey : String) :
    if other = index ∧ otherKey = key then
      (candidatesFor raw other otherKey).Perm
        (candidatesFor { raw with indicesStats := stats } other otherKey)
    else
      candidatesFor raw other otherKey =
        candidatesFor { raw with indicesStats := stats } other
          otherKey := by
  have both := agree.get? other
  unfold candidatesFor
  generalize raw.indicesStats.get? other = before at both ⊢
  generalize stats.get? other = after at both ⊢
  cases both with
  | none =>
      simp
  | @some statsBefore statsAfter isRelated =>
      by_cases sameIndex : other = index
      · rw [if_pos sameIndex] at isRelated
        have bothEntries := isRelated.shards.get? otherKey
        simp only [Option.bind_some]
        generalize statsBefore.shards.get? otherKey = entries
          at bothEntries ⊢
        generalize statsAfter.shards.get? otherKey = others
          at bothEntries ⊢
        cases bothEntries with
        | none =>
            simp
        | some sameEntries =>
            by_cases sameKey : otherKey = key
            · simpa [sameIndex, sameKey] using sameEntries
            · simpa [sameKey] using sameEntries
      · rw [if_neg sameIndex] at isRelated
        simp [sameIndex, isRelated]

/-- Summaries of indices do not depend on the order of the entries under a key. -/
theorem map_joinIndex_reordered :
    (stats.entries.map fun entry =>
        joinIndex { raw with indicesStats := stats } entry.1 entry.2) =
      raw.indicesStats.entries.map fun entry =>
        joinIndex raw entry.1 entry.2 := by
  symm
  rw [← List.forall₂_eq_eq_eq, List.forall₂_map_left_iff,
    List.forall₂_map_right_iff]
  refine List.Forall₂.imp ?_ agree
  rintro ⟨name, before⟩ ⟨_, after⟩ ⟨rfl, isRelated⟩
  simp only at isRelated
  split at isRelated
  · obtain ⟨rest, sameKeys⟩ := isRelated
    have sameSize : before.shards.size = after.shards.size :=
      sameKeys.length_eq
    rcases before with ⟨_, _, _, _, _⟩
    cases rest
    simp only [joinIndex, copyCounts, sameSize]
  · subst isRelated
    rfl

variable
  (marked : ∀ entry ∈ candidatesFor raw index key, entry.place ≠ none)
  (different :
    ((candidatesFor raw index key).map RawCopyStats.place).Nodup)

include marked different

/-- A copy has the same entry with entries about different places in another order. -/
theorem joinRouted_reordered
    (routed : RoutedCopy) :
    { raw with indicesStats := stats }.joinRouted routed =
      raw.joinRouted routed := by
  have matched :
      matchStats? (raw.statsFor routed) routed.copy =
        matchStats?
          ({ raw with indicesStats := stats }.statsFor routed)
          routed.copy := by
    have same := candidatesFor_reordered agree routed.index routed.key
    unfold RawInventory.statsFor
    split at same
    · next isThere =>
        obtain ⟨rfl, rfl⟩ := isThere
        exact matchStats?_eq_of_perm same marked different routed.copy
    · rw [same]
  simp only [RawInventory.joinRouted, joinCopy, matched]

/-- The inventory is the same with entries about different places in another order. -/
theorem join_reordered :
    { raw with indicesStats := stats }.join = raw.join := by
  have shards :
      joinShards { raw with indicesStats := stats } =
        joinShards raw := by
    rw [RawInventory.joinShards_eq_mapM, RawInventory.joinShards_eq_mapM,
      funext (joinRouted_reordered agree marked different)]
  simp only [RawInventory.join, shards, map_joinIndex_reordered agree]
  rfl

end

/-- Documents with entries about different places in another order give the same inventory. -/
theorem read_reordered
    {documents : RawDocuments}
    {inventory : Inventory}
    {raw : RawInventory}
    (passed : documents.check = .ok raw)
    (joined : raw.join = .ok inventory)
    {index key : String}
    {order : List Json → List Json}
    (keeps : ∀ items, (order items).Perm items)
    (marked : ∀ entry ∈ candidatesFor raw index key, entry.place ≠ none)
    (different :
      ((candidatesFor raw index key).map RawCopyStats.place).Nodup) :
    (documents.reordered index key order).read = .ok inventory := by
  obtain ⟨nodes, nodesStats, routing, indicesStats⟩ :=
    RawDocuments.check_eq_ok_iff.mp passed
  obtain ⟨stats, passedStats, agree⟩ :=
    carries_rawIndicesStats keeps index key _ _ indicesStats
  rw [RawDocuments.read_eq_ok_iff]
  refine
    ⟨{ raw with indicesStats := stats },
      RawDocuments.check_eq_ok_iff.mpr
        ⟨nodes, nodesStats, routing, passedStats⟩,
      ?_⟩
  rw [join_reordered agree marked different]
  exact joined

/--
The figures of each copy are told by the entries under its index and key.

Where all of them say what they are about, no copy has the figures of another one. Where they
are about different places as well, they may come in any order. Indices and keys are names of
members, which have no unpaired surrogates.
-/
theorem copies_have_figures_of_their_own
    {documents : RawDocuments}
    {inventory : Inventory}
    (isRead : documents.read = .ok inventory) :
    ∃ raw,
      documents.check = .ok raw ∧
        List.Forall₂
          (fun routed shard =>
            routed.IsRecordedAs shard ∧
              FiguresOf (raw.statsFor routed) routed.copy shard.documents
                shard.bytes ∧
              ((∀ entry ∈ raw.statsFor routed, entry.place ≠ none) →
                (shard.documents = 0 ∧ shard.bytes = 0) ∨
                  ∃ entry ∈ raw.statsFor routed,
                    entry.place = some routed.copy.place ∧
                      entry.documents = shard.documents ∧
                      entry.bytes = shard.bytes))
          raw.routing.copies inventory.shards ∧
        ∀ (index key : String) (order : List Json → List Json),
          (∀ items, (order items).Perm items) →
          (∀ entry ∈ candidatesFor raw index key, entry.place ≠ none) →
          ((candidatesFor raw index key).map RawCopyStats.place).Nodup →
          (documents.reordered index key order).read = .ok inventory := by
  obtain ⟨raw, passed, joined⟩ :=
    RawDocuments.read_eq_ok_iff.mp isRead
  refine ⟨raw, passed, ?_, ?_⟩
  · refine (RawInventory.join_eq_ok_iff.mp joined).2.1.imp ?_
    intro routed shard isShard
    obtain ⟨recorded, sameFigures⟩ :=
      RawInventory.joinRouted_eq_ok_iff.mp isShard
    have figures := figuresOf_iff.mpr sameFigures
    exact ⟨recorded, figures, figures.own_or_zero⟩
  · intro index key order keeps marked different
    exact read_reordered passed joined keeps marked different

/-- An entry about a copy, with the members that say where the copy is. -/
def statsJson
    (documents bytes : Int)
    (place : List (String × Json)) :
    Json :=
  .object
    (("docs", .object [("count", .integer documents)]) ::
      ("store", .object [("size_in_bytes", .integer bytes)]) ::
      place)

/-- The member that says in which role and on which node a copy is. -/
def placeJson
    (primary : Bool)
    (node : String) :
    String × Json :=
  ("routing",
    .object [("primary", .boolean primary), ("node", .text node)])

/-- Raw documents with entries that are marked, partly marked and not marked. -/
def partlyMarked : RawDocuments :=
  { nodes := .object []
    nodesStats := .object []
    routing :=
      routingJson
        [ ("logs",
            [ ("0",
                [ copyJson "STARTED" true (.text "a"),
                  copyJson "STARTED" false (.text "b") ]),
              ("1", [copyJson "STARTED" true (.text "a")]),
              ("2",
                [ copyJson "STARTED" true (.text "a"),
                  copyJson "UNASSIGNED" false .null ]) ]) ]
    indicesStats :=
      .object
        [ ("indices",
            .object
              [ ("logs",
                  .object
                    [ ("shards",
                        .object
                          [ ("0",
                              .array
                                [ statsJson 3 30 [placeJson false "b"],
                                  statsJson 5 50 [placeJson true "a"] ]),
                            ("1",
                              .array
                                [ statsJson 7 70 [],
                                  statsJson 9 90 [placeJson false "a"] ]),
                            ("2",
                              .array
                                [ statsJson 8 80 [],
                                  statsJson 6 60 [] ]) ]) ]) ]) ] }

/-- What the documents with marked and unmarked entries say. -/
def partlyMarkedInventory : Inventory :=
  { nodes := []
    shards :=
      [ { index := "logs", number := 0, primary := true, state := .started,
          node := some "a", documents := 5, bytes := 50 },
        { index := "logs", number := 0, primary := false,
          state := .started, node := some "b", documents := 3,
          bytes := 30 },
        { index := "logs", number := 1, primary := true, state := .started,
          node := some "a" },
        { index := "logs", number := 2, primary := true, state := .started,
          node := some "a", documents := 8, bytes := 80 },
        { index := "logs", number := 2, primary := false,
          state := .unassigned } ]
    indices :=
      [ { name := "logs", health := "yellow", status := .opened,
          primaryShards := 3, replicaShards := 2 } ] }

/-- Entries that are all marked are for their copies in both orders. -/
theorem figures_of_partlyMarked :
    partlyMarked.read = .ok partlyMarkedInventory ∧
      (partlyMarked.reordered "logs" "0" List.reverse).read =
        .ok partlyMarkedInventory := by
  have isRead : partlyMarked.read = .ok partlyMarkedInventory := by
    rfl
  obtain ⟨raw, passed, _, anyOrder⟩ :=
    copies_have_figures_of_their_own isRead
  have places :
      (candidatesFor raw "logs" "0").map RawCopyStats.place =
        [ some { primary := false, node := some "b" },
          some { primary := true, node := some "a" } ] := by
    cases passed
    rfl
  refine ⟨isRead, anyOrder "logs" "0" _ List.reverse_perm ?_ ?_⟩
  · intro entry member unmarked
    have isPlace := List.mem_map_of_mem (f := RawCopyStats.place) member
    rw [places, unmarked] at isPlace
    revert isPlace
    decide
  · rw [places]
    decide

end ShardAtlas.Payload
