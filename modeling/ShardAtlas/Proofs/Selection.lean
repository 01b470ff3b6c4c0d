import Mathlib.Data.Finset.Card
import Mathlib.Data.List.Induction
import ShardAtlas.Bulk
import ShardAtlas.Proofs.Identifiers

namespace ShardAtlas

/-!
# Both sides of a selection

A selection is divided by deciding its names one after the other. Here each side is given
by the whole list of names instead: the names without a refusal, and the others with
theirs, each side in the order in which the names first appear. What is decided of a name
depends on the first summary of that name and on nothing else in the selection.
-/

/-- The distinct names of a selection with one name more, which comes last if it is new. -/
theorem distinct_concat
    (names : List Text)
    (name : Text) :
    distinct (names ++ [name]) =
      if name ∈ distinct names then
        distinct names
      else
        distinct names ++ [name] := by
  rw [distinct, List.foldl_append]
  rfl

/-- The distinct names are those that are selected. -/
theorem mem_distinct_iff
    {names : List Text}
    {name : Text} :
    name ∈ distinct names ↔ name ∈ names := by
  induction names using List.reverseRecOn generalizing name with
  | nil =>
      rfl
  | append_singleton before last inductionHypothesis =>
      rw [distinct_concat, List.mem_append, List.mem_singleton]
      split
      · next known =>
          rw [inductionHypothesis] at known ⊢
          constructor
          · exact .inl
          · rintro (appears | rfl)
            · exact appears
            · exact known
      · rw [List.mem_append, List.mem_singleton, inductionHypothesis]

/-- The distinct names stand in the order in which they first appear. -/
theorem pairwise_distinct
    (names : List Text) :
    (distinct names).Pairwise fun first second =>
      names.idxOf first < names.idxOf second := by
  induction names using List.reverseRecOn with
  | nil =>
      exact .nil
  | append_singleton before last inductionHypothesis =>
      have samePlace
          {name : Text}
          (appears : name ∈ distinct before) :
          (before ++ [last]).idxOf name = before.idxOf name :=
        List.idxOf_append_of_mem (mem_distinct_iff.mp appears)
      have ordered :
          (distinct before).Pairwise fun first second =>
            (before ++ [last]).idxOf first <
              (before ++ [last]).idxOf second := by
        refine inductionHypothesis.imp_of_mem ?_
        intro first second firstAppears secondAppears less
        rwa [samePlace firstAppears, samePlace secondAppears]
      rw [distinct_concat]
      split
      · exact ordered
      · next fresh =>
          rw [mem_distinct_iff] at fresh
          rw [List.pairwise_append]
          refine ⟨ordered, List.pairwise_singleton _ _, ?_⟩
          intro name appears other isLast
          rw [List.mem_singleton.mp isLast, samePlace appears,
            List.idxOf_append_of_notMem fresh]
          have within :=
            List.idxOf_lt_length_of_mem (mem_distinct_iff.mp appears)
          omega

/-- The names of a selection appear once each. -/
theorem nodup_distinct
    (names : List Text) :
    (distinct names).Nodup := by
  refine (pairwise_distinct names).imp ?_
  rintro name _ less rfl
  exact Nat.lt_irrefl _ less

/-- There are as many distinct names as the set of the selected ones has. -/
theorem length_distinct
    (names : List Text) :
    (distinct names).length = names.toFinset.card := by
  rw [← List.toFinset_card_of_nodup (nodup_distinct names)]
  congr 1
  ext name
  simp [mem_distinct_iff]

/-- The summary that is known of a name is the first one. -/
theorem get?_firstByName
    (indices : List IndexSummary)
    (name : Text) :
    (firstByName indices).get? name =
      indices.find? fun index => index.name == name := by
  have shape :
      firstByName indices =
        OrderedMap.empty.entered
          (indices.map fun index => (index.name, index)) := by
    rw [OrderedMap.entered, List.foldl_map]
    rfl
  rw [shape, OrderedMap.get?_entered, OrderedMap.get?_empty,
    Option.none_or, List.find?_map, Option.map_map]
  exact Option.map_id'

namespace OrderedMap

/-- The keys of a map are those that have a value. -/
theorem keys_of_entries_eq_filterMap
    {map : OrderedMap κ ν}
    {keys : List κ}
    {value? : κ → Option ν}
    (shape :
      map.entries =
        keys.filterMap fun key =>
          (value? key).map fun value => (key, value)) :
    map.keys = keys.filter fun key => (value? key).isSome := by
  have withValue :
      (fun key =>
        ((value? key).map fun value => (key, value)).map Prod.fst) =
        Option.guard fun key => (value? key).isSome := by
    funext key
    cases found : value? key <;> simp [Option.guard, found]
  rw [OrderedMap.keys, shape, List.map_filterMap, withValue,
    List.filterMap_eq_filter]

/-- Looking up a key gives the value that it has, if it is one of the keys. -/
theorem get?_of_entries_eq_filterMap
    [DecidableEq κ]
    {map : OrderedMap κ ν}
    {keys : List κ}
    {value? : κ → Option ν}
    (shape :
      map.entries =
        keys.filterMap fun key =>
          (value? key).map fun value => (key, value))
    (key : κ) :
    map.get? key = if key ∈ keys then value? key else none := by
  rw [get?, shape]
  clear shape
  induction keys with
  | nil =>
      rfl
  | cons first rest inductionHypothesis =>
      rw [List.filterMap_cons]
      by_cases same : first = key
      · subst same
        cases found : value? first with
        | none =>
            simp only [Option.map_none, inductionHypothesis, found, ite_self]
        | some value =>
            simp
      · have different : key ≠ first :=
          Ne.symm same
        cases found : value? first with
        | none =>
            simp only [Option.map_none, inductionHypothesis, List.mem_cons,
              different, false_or]
        | some value =>
            simp only [Option.map_some, List.find?_cons, same, decide_false,
              inductionHypothesis, List.mem_cons, different, false_or]

end OrderedMap

namespace BulkOperation

/-- Why an operation does not apply to a name, if it does not. -/
def refusalOf?
    (operation : BulkOperation)
    (known : OrderedMap Text IndexSummary)
    (name : Text) :
    Option Refusal :=
  match known.get? name with
  | none => some .indexNotFound
  | some index => operation.refusal? index

end BulkOperation

namespace BulkAdmission

variable (known : OrderedMap Text IndexSummary)

/-- A name is approved or refused as the operation applies to it. -/
theorem decideName_eq
    (admission : BulkAdmission)
    (name : Text) :
    decideName known admission name =
      match admission.operation.refusalOf? known name with
      | none =>
          { admission with
            approved := admission.approved ++ [name] }
      | some reason =>
          { admission with
            refused := admission.refused.insert name reason } := by
  unfold decideName BulkOperation.refusalOf?
  cases known.get? name with
  | none =>
      rfl
  | some index =>
      cases admission.operation.refusal? index <;> rfl

/-- What deciding different names, none of them refused before, adds to an admission. -/
theorem foldl_decideName
    {names : List Text}
    (once : names.Nodup)
    (admission : BulkAdmission)
    (fresh : ∀ name ∈ names, name ∉ admission.refused.keys) :
    let refusal? := admission.operation.refusalOf? known
    let decided := names.foldl (decideName known) admission
    decided.operation = admission.operation ∧
      decided.approved =
        admission.approved ++
          names.filter (fun name => (refusal? name).isNone) ∧
      decided.refused.entries =
        admission.refused.entries ++
          names.filterMap fun name =>
            (refusal? name).map fun reason => (name, reason) := by
  induction names generalizing admission with
  | nil =>
      simp
  | cons name rest inductionHypothesis =>
      obtain ⟨freshName, freshRest⟩ := List.forall_mem_cons.mp fresh
      intro refusal? decided
      have shape :
          decided =
            rest.foldl (decideName known)
              (decideName known admission name) :=
        rfl
      rw [shape, decideName_eq]
      cases judged : admission.operation.refusalOf? known name with
      | none =>
          have later :=
            inductionHypothesis once.of_cons
              { admission with approved := admission.approved ++ [name] }
              freshRest
          simpa [refusal?, judged] using later
      | some reason =>
          have added :=
            OrderedMap.entries_insert_of_not_mem freshName reason
          have later :=
            inductionHypothesis once.of_cons
              { admission with
                refused := admission.refused.insert name reason }
              (OrderedMap.forall_not_mem_keys_insert once fresh reason)
          simpa [refusal?, judged, added] using later

end BulkAdmission

namespace BulkOperation

/-- The sides of a selection: the names the operation applies to, and the others. -/
theorem judgeSelection_sides
    (operation : BulkOperation)
    (selection : List Text)
    (indices : List IndexSummary) :
    let refusal? := operation.refusalOf? (firstByName indices)
    let admission := operation.judgeSelection selection indices
    admission.operation = operation ∧
      admission.approved =
        (distinct selection).filter
          (fun name => (refusal? name).isNone) ∧
      admission.refused.entries =
        (distinct selection).filterMap fun name =>
          (refusal? name).map fun reason => (name, reason) := by
  simpa [judgeSelection, OrderedMap.empty] using
    BulkAdmission.foldl_decideName (firstByName indices)
      (nodup_distinct selection) { operation := operation }
      (by simp [OrderedMap.keys, OrderedMap.empty])

/-- The refused names are those with a refusal. -/
theorem keys_refused
    (operation : BulkOperation)
    (selection : List Text)
    (indices : List IndexSummary) :
    (operation.judgeSelection selection indices).refused.keys =
      (distinct selection).filter fun name =>
        (operation.refusalOf? (firstByName indices) name).isSome :=
  OrderedMap.keys_of_entries_eq_filterMap
    (operation.judgeSelection_sides selection indices).2.2

/-- Every distinct name is on one of the sides. -/
theorem sides_perm
    (operation : BulkOperation)
    (selection : List Text)
    (indices : List IndexSummary) :
    let admission := operation.judgeSelection selection indices
    (admission.approved ++ admission.refused.keys).Perm
      (distinct selection) := by
  intro admission
  rw [show admission.approved = _ from
      (operation.judgeSelection_sides selection indices).2.1,
    operation.keys_refused selection indices]
  simp only [← Option.not_isNone]
  exact List.filter_append_perm _ _

/-- No name is approved twice. -/
theorem nodup_approved
    (operation : BulkOperation)
    (selection : List Text)
    (indices : List IndexSummary) :
    (operation.judgeSelection selection indices).approved.Nodup := by
  rw [(operation.judgeSelection_sides selection indices).2.1]
  exact (nodup_distinct selection).filter _

/-- No name is both approved and refused. -/
theorem not_mem_refused_of_approved
    (operation : BulkOperation)
    (selection : List Text)
    (indices : List IndexSummary)
    {name : Text}
    (approved :
      name ∈ (operation.judgeSelection selection indices).approved) :
    name ∉ (operation.judgeSelection selection indices).refused.keys := by
  have once :=
    (operation.sides_perm selection indices).nodup_iff.mpr
      (nodup_distinct selection)
  intro refused
  exact List.disjoint_of_nodup_append once approved refused

/-- An operation is never refused for want of an index where there is one. -/
theorem refusal?_ne_indexNotFound
    (operation : BulkOperation)
    (index : IndexSummary) :
    operation.refusal? index ≠ some .indexNotFound := by
  cases operation <;> simp only [refusal?] <;> (try split) <;> simp

/-- What is decided of a name is what the operation says to its first summary. -/
theorem refusalOf?_eq
    (operation : BulkOperation)
    (indices : List IndexSummary)
    (name : Text) :
    operation.refusalOf? (firstByName indices) name =
      (indices.find? fun index => index.name == name).elim
        (some .indexNotFound) operation.refusal? := by
  rw [refusalOf?, get?_firstByName]
  cases indices.find? fun index => index.name == name <;> rfl

/-- A selected name is refused just as the operation does not apply to it. -/
theorem get?_refused
    (operation : BulkOperation)
    (selection : List Text)
    (indices : List IndexSummary)
    (name : Text) :
    (operation.judgeSelection selection indices).refused.get? name =
      if name ∈ selection then
        operation.refusalOf? (firstByName indices) name
      else
        none := by
  rw [OrderedMap.get?_of_entries_eq_filterMap
    (operation.judgeSelection_sides selection indices).2.2]
  simp only [mem_distinct_iff]

/-- A name is approved just if it is selected and the operation applies to it. -/
theorem mem_approved_iff
    (operation : BulkOperation)
    (selection : List Text)
    (indices : List IndexSummary)
    (name : Text) :
    name ∈ (operation.judgeSelection selection indices).approved ↔
      name ∈ selection ∧
        operation.refusalOf? (firstByName indices) name = none := by
  rw [(operation.judgeSelection_sides selection indices).2.1,
    List.mem_filter, mem_distinct_iff, Option.isNone_iff_eq_none]

/-- A name is not found just if no summary has it. -/
theorem refusalOf?_eq_indexNotFound_iff
    (operation : BulkOperation)
    (indices : List IndexSummary)
    (name : Text) :
    operation.refusalOf? (firstByName indices) name =
        some .indexNotFound ↔
      ∀ index ∈ indices, index.name ≠ name := by
  rw [refusalOf?_eq]
  constructor
  · intro notFound index member same
    have isThere :
        (indices.find? fun index => index.name == name).isSome = true :=
      List.find?_isSome.mpr ⟨index, member, by simp [same]⟩
    obtain ⟨first, isFirst⟩ := Option.isSome_iff_exists.mp isThere
    rw [isFirst] at notFound
    exact operation.refusal?_ne_indexNotFound first notFound
  · intro noneHas
    rw [List.find?_eq_none.mpr (by simpa using noneHas)]
    rfl

/--
A selection is divided exactly.

No name is on both sides or twice on one, the names of both sides are the selected ones,
and each side stands in the order in which its names first appear. A name is not found just
if no summary has it, and else it is judged by the first summary that does, which is the one
that a snapshot finds. What is decided of a name is the same in every selection of the name,
whatever else is selected and in whichever order.
-/
theorem judgeSelection_partitions
    (operation : BulkOperation)
    (selection : List Text)
    (indices : List IndexSummary) :
    let admission := operation.judgeSelection selection indices
    (admission.approved ++ admission.refused.keys).Nodup ∧
      (∀ name,
        name ∈ admission.approved ∨ name ∈ admission.refused.keys ↔
          name ∈ selection) ∧
      admission.total = selection.toFinset.card ∧
      (admission.approved.Pairwise fun first second =>
        selection.idxOf first < selection.idxOf second) ∧
      (admission.refused.keys.Pairwise fun first second =>
        selection.idxOf first < selection.idxOf second) ∧
      (∀ name ∈ selection,
        (name ∈ admission.approved ↔
            admission.refused.get? name = none) ∧
          (admission.refused.get? name = some .indexNotFound ↔
            ∀ index ∈ indices, index.name ≠ name) ∧
          admission.refused.get? name =
            (indices.find? fun index => index.name == name).elim
              (some .indexNotFound) operation.refusal? ∧
          ∀ snapshot : Snapshot,
            snapshot.indices = indices →
              admission.refused.get? name =
                (snapshot.findIndex? name).elim
                  (some .indexNotFound) operation.refusal?) ∧
      ∀ (other : List Text) (name : Text),
        (name ∈ other ↔ name ∈ selection) →
          let again := operation.judgeSelection other indices
          (name ∈ again.approved ↔ name ∈ admission.approved) ∧
            again.refused.get? name = admission.refused.get? name := by
  intro admission
  have sides := operation.sides_perm selection indices
  obtain ⟨_, approvedSide, _⟩ :=
    operation.judgeSelection_sides selection indices
  have ordered := pairwise_distinct selection
  refine ⟨?_, ?_, ?_, ?_, ?_, ?_, ?_⟩
  · exact sides.nodup_iff.mpr (nodup_distinct selection)
  · intro name
    rw [← List.mem_append]
    exact sides.mem_iff.trans mem_distinct_iff
  · have counted := sides.length_eq
    rw [List.length_append, length_distinct, OrderedMap.keys,
      List.length_map] at counted
    exact counted
  · rw [show admission.approved = _ from approvedSide]
    exact ordered.filter _
  · rw [show admission.refused.keys = _ from
      operation.keys_refused selection indices]
    exact ordered.filter _
  · intro name selected
    have judged :
        admission.refused.get? name =
          operation.refusalOf? (firstByName indices) name := by
      rw [operation.get?_refused, if_pos selected]
    have byFirst := operation.refusalOf?_eq indices name
    refine ⟨?_, ?_, ?_, ?_⟩
    · rw [operation.mem_approved_iff, judged]
      exact and_iff_right selected
    · rw [judged]
      exact operation.refusalOf?_eq_indexNotFound_iff indices name
    · rw [judged, byFirst]
    · rintro snapshot rfl
      rw [judged, byFirst]
      rfl
  · intro other name same again
    rw [operation.mem_approved_iff, operation.mem_approved_iff,
      operation.get?_refused, operation.get?_refused]
    simp only [same, and_self]

/-- A selection with repeated names, of which two indices have the same. -/
theorem judgeSelection_repeatedNames :
    let first : IndexSummary :=
      { name := "a", health := "green", status := .closed }
    let indices : List IndexSummary :=
      [ first, { first with status := .opened },
        { first with name := "b", status := .opened } ]
    let selection : List Text := ["c", "b", "a", "b", "c"]
    let admission := openIndex.judgeSelection selection indices
    ("a" : Text) ∈ selection ∧
      admission.total = 3 ∧
      admission.refused.get? "c" = some .indexNotFound ∧
      admission.refused.get? "a" = openIndex.refusal? first ∧
      ("a" : Text) ∈ admission.approved ∧
      ("a" : Text) ∈
        (openIndex.judgeSelection ["a", "b"] indices).approved := by
  intro first indices selection admission
  obtain ⟨_, _, total, _, _, judged, again⟩ :=
    openIndex.judgeSelection_partitions selection indices
  have isSelected : ("a" : Text) ∈ selection := by
    decide
  obtain ⟨approved, _, byFirst, _⟩ := judged "a" isSelected
  obtain ⟨_, notFound, _⟩ := judged "c" (by decide)
  have isApproved : ("a" : Text) ∈ admission.approved :=
    approved.mpr byFirst
  exact
    ⟨isSelected, total, notFound.mpr (by decide), byFirst, isApproved,
      (again ["a", "b"] "a" (by decide)).1.mpr isApproved⟩

end BulkOperation

end ShardAtlas
