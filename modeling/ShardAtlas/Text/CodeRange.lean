namespace ShardAtlas.Text

/-!
# Ranges of code points

Character classes are given as lists of inclusive ranges of code points.
-/

/-- An inclusive range of code points. -/
structure CodeRange where
  first : Nat
  last : Nat
  deriving Repr, DecidableEq

/-- Whether a code point lies in a range. -/
def CodeRange.holds
    (range : CodeRange)
    (code : Nat) :
    Bool :=
  range.first ≤ code && code ≤ range.last

/-- A range has the code points from its first one to its last one. -/
theorem CodeRange.holds_iff
    {range : CodeRange}
    {code : Nat} :
    range.holds code = true ↔ range.first ≤ code ∧ code ≤ range.last := by
  rw [holds, Bool.and_eq_true, decide_eq_true_iff, decide_eq_true_iff]

/-- Whether a character lies in one of some ranges. -/
def liesIn
    (ranges : List CodeRange)
    (char : Char) :
    Bool :=
  ranges.any (·.holds char.toNat)

end ShardAtlas.Text
