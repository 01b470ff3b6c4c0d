import ShardAtlas.Console.CommandLine
import ShardAtlas.Console.Dump
import ShardAtlas.Relocation

namespace ShardAtlas.Console

/-!
# Checking requests

What would be said about a request is printed, and nothing is sent. A request
that is refused ends with a failure.
-/

/--
The line about a move that would be admitted.

The number of the copy was read from the command line, where no integer has more
digits than are printed.
-/
def approvalLine
    (request : RelocationRequest) :
    String :=
  styled "green" Verdict.approved.text ++ ": " ++ request.index ++ "[" ++
    Text.integer request.number ++ "] " ++
    (if request.primary then "primary" else "replica") ++ " " ++
    request.source ++ " -> " ++ request.destination

/-- Print where a copy could be moved, if there is such a node. -/
def printDestinations
    (snapshot : Snapshot)
    (copy : Option Shard) :
    Deed Unit :=
  match copy.map snapshot.destinationsFor with
  | some (first :: rest) =>
      printLine
        ("Valid destinations: " ++
          ", ".intercalate
            ((first :: rest).map fun host => host.node.name.shown))
  | _ =>
      pure ()

/-- Check whether a shard copy may be moved. -/
def checkRelocation
    (request : RelocationRequest) :
    Deed Unit := do
  let snapshot ← loadSnapshot request.dump
  let copy :=
    snapshot.findCopy? request.index request.number request.primary
      (some request.source)
  let verdict :=
    snapshot.judgeRelocation copy (some request.source)
      (some request.destination)
  match verdict.reason? with
  | none =>
      printLine (approvalLine request)
  | some reason =>
      printLine (styled "red" verdict.text ++ ": " ++ reason.description)
      printDestinations snapshot copy
      throw (.withStatus failureStatus)

/-- The table of the names of a selection. -/
def admissionTable
    (admission : BulkAdmission) :
    Table :=
  { title := admission.operation.displayName ++ " Indices"
    columns := ["Index", "Verdict", "Reason"]
    rows :=
      admission.approved.map
          (fun name => [name.shown, styled "green" "approved", "-"]) ++
        admission.refused.entries.map fun (name, reason) =>
          [name.shown, styled "red" "rejected", reason.description] }

/-- Check which indices an operation would change. -/
def checkBulk
    (dump : Path)
    (names : List Text)
    (operation : BulkOperation) :
    Deed Unit := do
  let snapshot ← loadSnapshot dump
  let admission := operation.judgeSelection names snapshot.indices
  print (.table (admissionTable admission))
  printLine admission.summary
  if !admission.hasApproved then
    throw (.withStatus failureStatus)

end ShardAtlas.Console
