import ShardAtlas.Bulk
import ShardAtlas.Command

namespace ShardAtlas

/-!
# Applying changes to indices

Each approved name gets a command of its own, in order. A command that fails is
noted and the others go on; nothing is undone.
-/

/-- What came of an operation on a selection. -/
structure BulkReport where
  admission : BulkAdmission
  results : OrderedMap Text CommandResult := .empty
  sent : List (BulkOperation × Text) := []
  warnings : List String := []
  deriving Repr, DecidableEq

namespace BulkReport

/-- The operation of a report. -/
def operation
    (report : BulkReport) :
    BulkOperation :=
  report.admission.operation

/-- The names whose command was accepted. -/
def succeeded
    (report : BulkReport) :
    List Text :=
  (report.results.filterValues CommandResult.success).keys

/-- The names whose command was not accepted, with the results. -/
def failed
    (report : BulkReport) :
    OrderedMap Text CommandResult :=
  report.results.filterValues fun result => !result.success

end BulkReport

/-- The warning about a command that broke off. -/
def BulkOperation.failureWarning
    (operation : BulkOperation)
    (name : Text)
    (message : String) :
    String :=
  operation.displayName ++ " failed for " ++ name.shown ++ ": " ++ message

/-- Send the command for one name and note what came of it. -/
def BulkReport.execute
    (executor : BulkOperation → Text → Reply)
    (report : BulkReport)
    (name : Text) :
    BulkReport :=
  let reply := executor report.operation name
  { report with
    results := report.results.insert name reply.result
    sent := report.sent ++ [(report.operation, name)]
    warnings :=
      report.warnings ++
        reply.failure?.toList.map
          (report.operation.failureWarning name) }

/-- Admit an operation on a selection and apply it to the approved names. -/
def BulkOperation.run
    (operation : BulkOperation)
    (executor : BulkOperation → Text → Reply)
    (selection : List Text)
    (indices : List IndexSummary) :
    BulkReport :=
  let admission := operation.judgeSelection selection indices
  admission.approved.foldl
    (BulkReport.execute executor)
    { admission := admission }

end ShardAtlas
