import ShardAtlas.Payload.Issue

namespace ShardAtlas.Payload

/-!
# Checked values

The outcome of checking a value: the value itself, or at least one issue. Parts
of a value are checked side by side, and their issues are put together in order;
a check that builds on an earlier one runs only if that one passed.
-/

/-- A value that passed its check, or the issues that were found. -/
inductive Checked
    (α : Type u)
  | passed (value : α)
  | failed (first : Issue) (rest : List Issue)
  deriving Repr, DecidableEq

namespace Checked

/-- The outcome with a single issue at the place of the value. -/
def fault
    (cause : Fault) :
    Checked α :=
  .failed { path := [], fault := cause } []

/-- The issues that were found. -/
def issues :
    Checked α →
    List Issue
  | .passed _ => []
  | .failed first rest => first :: rest

/-- The value, if the check passed. -/
def value? :
    Checked α →
    Option α
  | .passed value => some value
  | .failed .. => none

/-- Change the value of a passed check. -/
def map
    (change : α → β) :
    Checked α →
    Checked β
  | .passed value => .passed (change value)
  | .failed first rest => .failed first rest

/-- Two checks side by side, with the issues of both. -/
def apply
    (function : Checked (α → β))
    (argument : Checked α) :
    Checked β :=
  match function, argument with
  | .passed change, .passed value =>
      .passed (change value)
  | .passed _, .failed first rest =>
      .failed first rest
  | .failed first rest, argument =>
      .failed first (rest ++ argument.issues)

instance : Applicative Checked where
  pure := .passed
  map := map
  seq function argument := apply function (argument ())

/-- A further check on the value of a passed one. -/
def andThen
    (checked : Checked α)
    (next : α → Checked β) :
    Checked β :=
  match checked with
  | .passed value => next value
  | .failed first rest => .failed first rest

/-- The outcome seen from further out. -/
def within
    (step : Step) :
    Checked α →
    Checked α
  | .passed value =>
      .passed value
  | .failed first rest =>
      .failed (first.within step) (rest.map (Issue.within step))

/-- Check the items of a list side by side, given the position of the first. -/
def items
    (check : Nat → α → Checked β)
    (position : Nat) :
    List α →
    Checked (List β)
  | [] =>
      .passed []
  | item :: rest =>
      List.cons <$> check position item <*>
        items check (position + 1) rest

/-- The outcome as a value or a malformed document. -/
def toShape
    (source : String) :
    Checked α →
    Except ShapeFault α
  | .passed value =>
      .ok value
  | .failed first rest =>
      .error
        { source := source
          first := first
          rest := rest }

/-- The issues of two checks side by side. -/
theorem issues_apply
    (function : Checked (α → β))
    (argument : Checked α) :
    (apply function argument).issues =
      function.issues ++ argument.issues := by
  cases function <;> cases argument <;> simp [apply, issues]

/-- A check passes exactly when it finds no issue. -/
theorem issues_eq_nil_iff
    (checked : Checked α) :
    checked.issues = [] ↔ ∃ value, checked = .passed value := by
  cases checked <;> simp [issues]

/-- The issues of a check seen from further out. -/
theorem issues_within
    (step : Step)
    (checked : Checked α) :
    (checked.within step).issues =
      checked.issues.map (Issue.within step) := by
  cases checked <;> simp [within, issues]

end Checked

end ShardAtlas.Payload
