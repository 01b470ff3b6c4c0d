import ShardAtlas.OrderedMap
import ShardAtlas.Snapshot
import ShardAtlas.Verdict

namespace ShardAtlas

/-!
# Admitting changes to indices

An operation on a selection of indices divides the selected names into those it
applies to and those it must skip, each with a reason.

No summary says whether an index is read-only, so every open index may be made
read-only and no index may be made writable.
-/

/-- The changes that can be applied to a selection of indices. -/
inductive BulkOperation
  | openIndex
  | closeIndex
  | delete
  | refresh
  | setReadOnly
  | setWritable
  deriving Repr, DecidableEq

namespace BulkOperation

/-- All operations. -/
def all : List BulkOperation :=
  [ .openIndex, .closeIndex, .delete, .refresh, .setReadOnly,
    .setWritable ]

/-- The code of an operation. -/
def code :
    BulkOperation →
    String
  | .openIndex => "open"
  | .closeIndex => "close"
  | .delete => "delete"
  | .refresh => "refresh"
  | .setReadOnly => "set_read_only"
  | .setWritable => "set_writable"

/-- The name of an operation on a screen. -/
def displayName :
    BulkOperation →
    String
  | .openIndex => "Open"
  | .closeIndex => "Close"
  | .delete => "Delete"
  | .refresh => "Refresh"
  | .setReadOnly => "Set Read-Only"
  | .setWritable => "Set Writable"

/-- The operation with exactly this code. -/
def ofCode?
    (text : String) :
    Option BulkOperation :=
  all.find? fun operation => operation.code = text

/-- Why an operation does not apply to an index, if it does not. -/
def refusal?
    (operation : BulkOperation)
    (index : IndexSummary) :
    Option Refusal :=
  match operation with
  | .openIndex =>
      if index.isOpen then
        some .alreadyOpen
      else
        none
  | .closeIndex =>
      if index.isOpen then
        none
      else
        some .alreadyClosed
  | .delete =>
      none
  | .refresh =>
      if index.isOpen then
        none
      else
        some .closedForRefresh
  | .setReadOnly =>
      if index.isOpen then
        none
      else
        some .closedForSettings
  | .setWritable =>
      some .alreadyWritable

end BulkOperation

/-- A selection divided into names to act on and names to skip. -/
structure BulkAdmission where
  operation : BulkOperation
  approved : List Text := []
  refused : OrderedMap Text Refusal := .empty
  deriving Repr, DecidableEq

namespace BulkAdmission

/-- Whether there is a name to act on. -/
def hasApproved
    (admission : BulkAdmission) :
    Bool :=
  !admission.approved.isEmpty

/-- Number of names. -/
def total
    (admission : BulkAdmission) :
    Nat :=
  admission.approved.length + admission.refused.size

/-- The line that asks for a confirmation. -/
def summary
    (admission : BulkAdmission) :
    String :=
  if admission.refused.entries.isEmpty then
    "All " ++ Nat.repr admission.total ++
      " selected indices will be affected"
  else
    Nat.repr admission.approved.length ++ " will be affected, " ++
      Nat.repr admission.refused.size ++ " will be ignored"

end BulkAdmission

/-- The first summary of each name. -/
def firstByName
    (indices : List IndexSummary) :
    OrderedMap Text IndexSummary :=
  indices.foldl
    (fun known index => known.insertNew index.name index)
    .empty

/-- The names of a selection, each once, in the order of first appearance. -/
def distinct
    (names : List Text) :
    List Text :=
  names.foldl
    (fun seen name =>
      if name ∈ seen then
        seen
      else
        seen ++ [name])
    []

/-- Put a name on its side of an admission. -/
def BulkAdmission.decideName
    (known : OrderedMap Text IndexSummary)
    (admission : BulkAdmission)
    (name : Text) :
    BulkAdmission :=
  match known.get? name with
  | none =>
      { admission with
        refused := admission.refused.insert name .indexNotFound }
  | some index =>
      match admission.operation.refusal? index with
      | none =>
          { admission with
            approved := admission.approved ++ [name] }
      | some reason =>
          { admission with
            refused := admission.refused.insert name reason }

/-- Divide a selection by what is known of its indices. -/
def BulkOperation.judgeSelection
    (operation : BulkOperation)
    (selection : List Text)
    (indices : List IndexSummary) :
    BulkAdmission :=
  (distinct selection).foldl
    (BulkAdmission.decideName (firstByName indices))
    { operation := operation }

end ShardAtlas
