namespace ShardAtlas.Rounding

/-!
# Rounding quotients

Quotients of natural numbers rounded to whole numbers. Both the arithmetic on
doubles and the printing of fixed decimals rest on this one rule, so that
"nearest, ties to even" is written once.
-/

/--
The quotient rounded to the nearest whole number.

A quotient halfway between two whole numbers goes to the even one.
-/
def halfEven
    (numerator denominator : Nat) :
    Nat :=
  if 2 * (numerator % denominator) < denominator then
    numerator / denominator
  else if denominator < 2 * (numerator % denominator) then
    numerator / denominator + 1
  else
    numerator / denominator + numerator / denominator % 2

/-- The quotient rounded up to a whole number. -/
def ceiling
    (numerator : Int)
    (denominator : Nat) :
    Int :=
  -(-numerator / (denominator : Int))

/-- A whole quotient is its own rounding. -/
theorem halfEven_mul_right
    (value : Nat)
    {denominator : Nat}
    (positive : 0 < denominator) :
    halfEven (value * denominator) denominator = value := by
  simp [halfEven, Nat.mul_div_cancel value positive, positive]

/-- Rounding gives the floor of the quotient or the number after it. -/
theorem halfEven_between
    (numerator denominator : Nat) :
    numerator / denominator ≤ halfEven numerator denominator ∧
      halfEven numerator denominator ≤ numerator / denominator + 1 := by
  unfold halfEven
  split
  · omega
  · split <;> omega

/-- Rounding never moves a quotient by more than half a unit. -/
theorem halfEven_error
    (numerator : Nat)
    {denominator : Nat}
    (positive : 0 < denominator) :
    2 * (halfEven numerator denominator * denominator) ≤
        2 * numerator + denominator ∧
      2 * numerator ≤
        2 * (halfEven numerator denominator * denominator) + denominator := by
  have split := Nat.div_add_mod numerator denominator
  have small := Nat.mod_lt numerator positive
  rw [Nat.mul_comm] at split
  have grown :
      (numerator / denominator + 1) * denominator =
        numerator / denominator * denominator + denominator := by
    rw [Nat.add_mul, Nat.one_mul]
  unfold halfEven
  split
  · omega
  · split
    · rw [grown]
      omega
    · rcases Nat.mod_two_eq_zero_or_one (numerator / denominator) with even | odd
      · rw [even, Nat.add_zero]
        omega
      · rw [odd, grown]
        omega

/-- Rounding a quotient keeps the order of numerators. -/
theorem halfEven_mono
    {smaller larger : Nat}
    (denominator : Nat)
    (ordered : smaller ≤ larger) :
    halfEven smaller denominator ≤ halfEven larger denominator := by
  have quotients := Nat.div_le_div_right (c := denominator) ordered
  have smallerBounds := halfEven_between smaller denominator
  have largerBounds := halfEven_between larger denominator
  rcases Nat.lt_or_eq_of_le quotients with less | same
  · omega
  · have smallerSplit := Nat.div_add_mod smaller denominator
    have largerSplit := Nat.div_add_mod larger denominator
    have remainders :
        smaller % denominator ≤ larger % denominator := by
      rw [same] at smallerSplit
      omega
    unfold halfEven
    rw [same]
    split <;> split <;> (try split) <;> (try split) <;> omega

end ShardAtlas.Rounding
