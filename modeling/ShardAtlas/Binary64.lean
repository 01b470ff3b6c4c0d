import ShardAtlas.Rounding

namespace ShardAtlas

/-!
# Double-precision numbers

A finite double is a whole number of quanta, one quantum being `2 ^ -1074`, the
smallest positive double. On this grid order is the order of integers, and every
operation is one exact quotient of natural numbers followed by one rounding to
53 significant bits.
-/

/--
A double-precision number.

The sign is kept apart from the magnitude, so the two zeros stay different.
-/
inductive Binary64
  | finite (negative : Bool) (quanta : Nat)
  | infinite (negative : Bool)
  | nan
  deriving Repr, DecidableEq, Inhabited

/-- Why a number is too large for its new form. -/
inductive Overflow
  | integer
  | quotient
  | infinity
  deriving Repr, DecidableEq

/-- The text shown for a number that is too large. -/
def Overflow.message :
    Overflow →
    String
  | .integer => "int too large to convert to float"
  | .quotient => "integer division result too large for a float"
  | .infinity => "cannot convert float infinity to integer"

namespace Binary64

/-- Number of quanta in one unit. -/
def quantaPerUnit : Nat :=
  Nat.pow 2 1074

/-- Number of significant bits of a double. -/
def precision : Nat :=
  53

/-- The first magnitude, in quanta, beyond every finite double. -/
def magnitudeLimit : Nat :=
  Nat.pow 2 2098

/--
Distance between neighbouring doubles just above a whole number of quanta.

Below `2 ^ 53` quanta every whole number is a double.
-/
def spacing
    (quanta : Nat) :
    Nat :=
  Nat.pow 2 (quanta.log2 + 1 - precision)

/-- The quotient rounded to a whole number of quanta with 53 significant bits. -/
def roundQuanta
    (numerator denominator : Nat) :
    Nat :=
  Rounding.halfEven numerator
      (denominator * spacing (numerator / denominator)) *
    spacing (numerator / denominator)

/-- The zero without a sign. -/
def zero : Binary64 :=
  .finite false 0

/-- The double of a magnitude in quanta; none beyond the largest double. -/
def ofQuanta?
    (negative : Bool)
    (quanta : Nat) :
    Option Binary64 :=
  if quanta < magnitudeLimit then
    some (.finite negative quanta)
  else
    none

/-- The double nearest to a quotient; none beyond the largest double. -/
def ofRatio?
    (negative : Bool)
    (numerator denominator : Nat) :
    Option Binary64 :=
  ofQuanta? negative
    (roundQuanta (numerator * quantaPerUnit) denominator)

/-- The double nearest to a quotient, infinite beyond the largest double. -/
def ofRatio
    (negative : Bool)
    (numerator denominator : Nat) :
    Binary64 :=
  (ofRatio? negative numerator denominator).getD (.infinite negative)

/-- The double nearest to a number, or why there is none. -/
def orOverflow
    (cause : Overflow) :
    Option Binary64 →
    Except Overflow Binary64
  | some result =>
      .ok result
  | none =>
      .error cause

/-- A number is too large just if it has no double. -/
@[simp] theorem isOk_orOverflow
    (cause : Overflow)
    (nearest? : Option Binary64) :
    (orOverflow cause nearest?).isOk = nearest?.isSome := by
  cases nearest? <;> rfl

/-- The double nearest to an integer. -/
def ofInt
    (value : Int) :
    Except Overflow Binary64 :=
  orOverflow .integer (ofRatio? (value < 0) value.natAbs 1)

/-- The double nearest to the quotient of two integers. -/
def ofQuotient
    (dividend divisor : Int) :
    Except Overflow Binary64 :=
  orOverflow .quotient
    (ofRatio?
      (decide (dividend < 0) != decide (divisor < 0))
      dividend.natAbs
      divisor.natAbs)

/-- The product with a natural number, rounded to a double. -/
def times
    (factor : Nat) :
    Binary64 →
    Binary64
  | .finite negative quanta =>
      (ofQuanta? negative (roundQuanta (quanta * factor) 1)).getD
        (.infinite negative)
  | .infinite negative =>
      .infinite negative
  | .nan =>
      .nan

/-- The quotient by a natural number, rounded to a double. -/
def dividedBy
    (divisor : Nat) :
    Binary64 →
    Binary64
  | .finite negative quanta =>
      .finite negative (roundQuanta quanta divisor)
  | .infinite negative =>
      .infinite negative
  | .nan =>
      .nan

/-- A signed number of quanta. -/
def signedQuanta
    (negative : Bool)
    (quanta : Nat) :
    Int :=
  if negative then
    -(quanta : Int)
  else
    quanta

/-- The order of doubles; no number is below or above a NaN. -/
def lessThan :
    Binary64 →
    Binary64 →
    Bool
  | .finite leftNegative left, .finite rightNegative right =>
      signedQuanta leftNegative left < signedQuanta rightNegative right
  | .finite .., .infinite negative =>
      !negative
  | .infinite negative, .finite .. =>
      negative
  | .infinite leftNegative, .infinite rightNegative =>
      leftNegative && !rightNegative
  | .nan, _ =>
      false
  | _, .nan =>
      false

/-- The smaller of two doubles; the first one unless the second is below it. -/
def minimum
    (first second : Binary64) :
    Binary64 :=
  if second.lessThan first then
    second
  else
    first

/-- The larger of two doubles; the first one unless the second is above it. -/
def maximum
    (first second : Binary64) :
    Binary64 :=
  if first.lessThan second then
    second
  else
    first

/-- The integer equal to a double, if there is one. -/
def toInt? :
    Binary64 →
    Option Int
  | .finite negative quanta =>
      if quanta % quantaPerUnit = 0 then
        some (signedQuanta negative (quanta / quantaPerUnit))
      else
        none
  | .infinite _ =>
      none
  | .nan =>
      none

/-- The least integer that is not below a finite double. -/
def ceiling? :
    Binary64 →
    Option Int
  | .finite negative quanta =>
      some (Rounding.ceiling (signedQuanta negative quanta) quantaPerUnit)
  | .infinite _ =>
      none
  | .nan =>
      none

/-- Bits of a magnitude: the biased exponent above the 52 stored bits. -/
def magnitudeBits
    (quanta : Nat) :
    Nat :=
  (quanta.log2 - 52) * Nat.pow 2 52 +
    quanta / Nat.pow 2 (quanta.log2 - 52)

/-- The 64 bits of a double. -/
def bits :
    Binary64 →
    Nat
  | .finite negative quanta =>
      negative.toNat * Nat.pow 2 63 + magnitudeBits quanta
  | .infinite negative =>
      negative.toNat * Nat.pow 2 63 + 2047 * Nat.pow 2 52
  | .nan =>
      2047 * Nat.pow 2 52 + Nat.pow 2 51

/-- The 64 bits of a double as sixteen lower-case hexadecimal digits. -/
def hexadecimal
    (value : Binary64) :
    String :=
  String.ofList
    ((List.range 16).reverse.map fun position =>
      Nat.digitChar (value.bits / Nat.pow 16 position % 16))

end Binary64

end ShardAtlas
