import Mathlib.Data.List.Perm.Basic
import ShardAtlas.Bulk.Report
import ShardAtlas.Proofs.Selection

namespace ShardAtlas

/-!
# Commands of an operation

Every approved name gets a command of its own, whatever comes of the commands before. So
the commands that are sent are known from the admission alone, and the result of a name is
what its own command came to.
-/

namespace OrderedMap

/-- Looking up a key where every key has a value of its own. -/
theorem get?_of_entries_eq
    [DecidableEq κ]
    {map : OrderedMap κ ν}
    {keys : List κ}
    {value : κ → ν}
    (shape : map.entries = keys.map fun key => (key, value key))
    (key : κ) :
    map.get? key = if key ∈ keys then some (value key) else none := by
  have allValued :
      map.entries =
        keys.filterMap fun key =>
          (some (value key)).map fun value => (key, value) := by
    rw [shape, ← List.filterMap_eq_map]
    rfl
  exact get?_of_entries_eq_filterMap allValued key

/-- The entries whose value passes a test, where every key has a value of its own. -/
theorem entries_filterValues_of_entries_eq
    {map : OrderedMap κ ν}
    {keys : List κ}
    {value : κ → ν}
    (shape : map.entries = keys.map fun key => (key, value key))
    (keeps : ν → Bool) :
    (map.filterValues keeps).entries =
      (keys.filter fun key => keeps (value key)).map fun key =>
        (key, value key) := by
  simp only [filterValues, shape, List.filter_map]
  rfl

end OrderedMap

namespace BulkReport

variable (executor : BulkOperation → Text → Reply)

/-- What commands for different names, none of which has a result yet, add to a report. -/
theorem foldl_execute
    {names : List Text}
    (once : names.Nodup)
    (report : BulkReport)
    (fresh : ∀ name ∈ names, name ∉ report.results.keys) :
    let done := names.foldl (execute executor) report
    done.admission = report.admission ∧
      done.sent =
        report.sent ++ names.map (fun name => (report.operation, name)) ∧
      done.results.entries =
        report.results.entries ++
          names.map fun name =>
            (name, (executor report.operation name).result) := by
  induction names generalizing report with
  | nil =>
      simp
  | cons name rest inductionHypothesis =>
      have freshName := fresh name (List.mem_cons_self ..)
      have added :
          (execute executor report name).results.entries =
            report.results.entries ++
              [(name, (executor report.operation name).result)] :=
        OrderedMap.entries_insert_of_not_mem freshName _
      have freshLater :
          ∀ other ∈ rest,
            other ∉ (execute executor report name).results.keys :=
        OrderedMap.forall_not_mem_keys_insert once fresh _
      obtain ⟨admission, sent, results⟩ :=
        inductionHypothesis once.of_cons (execute executor report name)
          freshLater
      refine ⟨admission, ?_, ?_⟩
      · rw [List.foldl_cons, sent]
        simp [execute, operation]
      · rw [List.foldl_cons, results, added]
        simp [execute, operation]

end BulkReport

namespace BulkOperation

variable (operation : BulkOperation)

/-- A run sends one command for each approved name, and has its result. -/
theorem run_parts
    (executor : BulkOperation → Text → Reply)
    (selection : List Text)
    (indices : List IndexSummary) :
    let admission := operation.judgeSelection selection indices
    let report := operation.run executor selection indices
    report.admission = admission ∧
      report.sent =
        admission.approved.map (fun name => (operation, name)) ∧
      report.results.entries =
        admission.approved.map fun name =>
          (name, (executor operation name).result) := by
  intro admission report
  have validated : admission.operation = operation :=
    (operation.judgeSelection_sides selection indices).1
  simpa [report, run, BulkReport.operation, admission, validated,
    OrderedMap.empty] using
    BulkReport.foldl_execute executor
      (operation.nodup_approved selection indices)
      { admission := admission }
      (by simp [OrderedMap.keys, OrderedMap.empty])

/--
An operation on a selection comes to a report, whatever its commands come to.

Each approved name gets exactly one command, in order, and no refused name gets one. The
results are those of the approved names in order: what the cluster answered, or a result
without success that has the message of the break. The names that succeeded and those that
failed are together the approved names, each once. What the command for one name comes to
makes no difference to the commands that are sent and to the result of any other name.
-/
theorem run_complete_and_isolated
    (executor : BulkOperation → Text → Reply)
    (selection : List Text)
    (indices : List IndexSummary) :
    let report := operation.run executor selection indices
    let approved := report.admission.approved
    let outcome (name : Text) : CommandResult :=
      match executor operation name with
      | .answered result =>
          result
      | .brokenOff message =>
          { success := false
            message := some message }
    report.admission = operation.judgeSelection selection indices ∧
      approved.Nodup ∧
      report.sent = approved.map (fun name => (operation, name)) ∧
      (∀ name ∈ report.admission.refused.keys,
        (operation, name) ∉ report.sent) ∧
      report.results.entries =
        approved.map (fun name => (name, outcome name)) ∧
      report.succeeded =
        approved.filter (fun name => (outcome name).success) ∧
      report.failed.entries =
        (approved.filter fun name => !(outcome name).success).map
          (fun name => (name, outcome name)) ∧
      (report.succeeded ++ report.failed.keys).Perm approved ∧
      ∀ (other : BulkOperation → Text → Reply) (name : Text),
        (∀ apart, apart ≠ name →
          other operation apart = executor operation apart) →
          let otherReport := operation.run other selection indices
          otherReport.sent = report.sent ∧
            otherReport.results.keys = report.results.keys ∧
            ∀ apart, apart ≠ name →
              otherReport.results.get? apart =
                report.results.get? apart := by
  intro report approved outcome
  obtain ⟨admission, sent, results⟩ :=
    operation.run_parts executor selection indices
  have admitted :
      approved = (operation.judgeSelection selection indices).approved :=
    congrArg BulkAdmission.approved admission
  have outcomes :
      ∀ name, (executor operation name).result = outcome name := by
    intro name
    cases replied : executor operation name <;>
      simp [outcome, Reply.result, replied]
  have entries :
      report.results.entries =
        approved.map fun name => (name, outcome name) := by
    rw [admitted]
    simpa only [outcomes] using results
  have keysOf
      (names : List Text) :
      (names.map fun name => (name, outcome name)).map Prod.fst =
        names := by
    simp [Function.comp_def]
  have succeeded :
      report.succeeded =
        approved.filter fun name => (outcome name).success := by
    rw [BulkReport.succeeded, OrderedMap.keys,
      OrderedMap.entries_filterValues_of_entries_eq entries, keysOf]
  have failed :
      report.failed.entries =
        (approved.filter fun name => !(outcome name).success).map
          fun name => (name, outcome name) :=
    OrderedMap.entries_filterValues_of_entries_eq entries _
  refine
    ⟨admission, ?_, ?_, ?_, entries, succeeded, failed, ?_, ?_⟩
  · rw [admitted]
    exact operation.nodup_approved selection indices
  · rw [admitted]
    exact sent
  · intro name refused member
    rw [show report.sent = _ from sent, List.mem_map] at member
    obtain ⟨other, isApproved, same⟩ := member
    cases same
    rw [show report.admission = _ from admission] at refused
    exact
      operation.not_mem_refused_of_approved selection indices isApproved
        refused
  · rw [succeeded, OrderedMap.keys, failed, keysOf]
    exact List.filter_append_perm _ approved
  · intro other name same otherReport
    obtain ⟨_, otherSent, otherResults⟩ :=
      operation.run_parts other selection indices
    refine ⟨otherSent.trans sent.symm, ?_, ?_⟩
    · rw [OrderedMap.keys, OrderedMap.keys,
        show report.results.entries = _ from results,
        show otherReport.results.entries = _ from otherResults]
      simp [Function.comp_def]
    · intro apart different
      rw [OrderedMap.get?_of_entries_eq results,
        OrderedMap.get?_of_entries_eq otherResults, same apart different]

/-- The first command of two breaks off, and the second one is as without the break. -/
theorem second_command_after_break :
    let breaking : BulkOperation → Text → Reply := fun _ name =>
      if name = ("b" : Text) then
        .brokenOff "no answer"
      else
        .answered { success := true }
    let answering : BulkOperation → Text → Reply := fun _ _ =>
      .answered { success := true }
    let indices : List IndexSummary :=
      [ { name := "a", health := "green", status := .opened },
        { name := "b", health := "green", status := .opened },
        { name := "c", health := "green", status := .closed } ]
    let report := closeIndex.run breaking ["b", "c", "a", "b"] indices
    let calm := closeIndex.run answering ["b", "c", "a", "b"] indices
    (∀ apart, apart ≠ ("b" : Text) →
        answering .closeIndex apart = breaking .closeIndex apart) ∧
      report.sent =
        [(closeIndex, ("b" : Text)), (closeIndex, ("a" : Text))] ∧
      report.failed.entries =
        [ (("b" : Text),
            { success := false
              message := some "no answer" }) ] ∧
      calm.sent = report.sent ∧
      calm.results.get? "a" = report.results.get? "a" ∧
      report.results.get? "a" = some { success := true } := by
  intro breaking answering indices report calm
  have same :
      ∀ apart, apart ≠ ("b" : Text) →
        answering .closeIndex apart = breaking .closeIndex apart := by
    intro apart different
    simp [answering, breaking, different]
  obtain ⟨_, _, _, _, _, _, _, _, isolated⟩ :=
    closeIndex.run_complete_and_isolated breaking ["b", "c", "a", "b"]
      indices
  obtain ⟨sent, _, results⟩ := isolated answering "b" same
  exact
    ⟨same, by decide, by decide, sent, results "a" (by decide),
      by decide⟩

end BulkOperation

end ShardAtlas
