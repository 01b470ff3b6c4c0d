import Mathlib.Tactic.Ring
import ShardAtlas.Binary64

namespace ShardAtlas

/-!
# Which numbers have a double

A quotient has a double just if it is below the greatest double by less than half the
distance of its neighbours. Exactly halfway the rounding goes to the even side, which is
beyond every double.
-/

/-- Half a spacing beyond the greatest double: the least whole number without a double. -/
def Binary64.wholeLimit : Nat :=
  (2 ^ 54 - 1) * 2 ^ 970

namespace Rounding

/-- A quotient is rounded to an odd number or below just if it is below the half after it. -/
theorem halfEven_le_odd_iff
    (numerator half : Nat)
    {denominator : Nat}
    (positive : 0 < denominator) :
    halfEven numerator denominator ≤ 2 * half + 1 ↔
      2 * numerator < (4 * half + 3) * denominator := by
  have split := Nat.div_add_mod numerator denominator
  have small := Nat.mod_lt numerator positive
  rcases Nat.lt_trichotomy (numerator / denominator) (2 * half + 1) with
    below | same | above
  · have rounded := (halfEven_between numerator denominator).2
    have product :
        denominator * (numerator / denominator) ≤
          denominator * (2 * half) :=
      Nat.mul_le_mul_left _ (by omega)
    have bound :
        (4 * half + 3) * denominator =
          2 * (denominator * (2 * half)) + 3 * denominator := by
      ring
    constructor <;> intro <;> omega
  · have bound :
        (4 * half + 3) * denominator =
          2 * (denominator * (numerator / denominator)) + denominator := by
      rw [same]
      ring
    unfold halfEven
    rw [same] at split bound ⊢
    split
    · constructor <;> intro <;> omega
    · split <;> constructor <;> intro <;> omega
  · have rounded := (halfEven_between numerator denominator).1
    have product :
        denominator * (2 * half + 2) ≤
          denominator * (numerator / denominator) :=
      Nat.mul_le_mul_left _ (by omega)
    have bound :
        (4 * half + 3) * denominator + denominator =
          2 * (denominator * (2 * half + 2)) := by
      ring
    constructor <;> intro <;> omega

end Rounding

namespace Binary64

/-- The distance between neighbours is a power of two. -/
theorem spacing_eq_two_pow
    (quanta : Nat) :
    spacing quanta = 2 ^ (quanta.log2 + 1 - precision) :=
  rfl

/-- A quotient is rounded to one of the neighbours that it lies between. -/
theorem roundQuanta_between
    (numerator denominator : Nat) :
    let quotient := numerator / denominator
    quotient / spacing quotient * spacing quotient ≤
        roundQuanta numerator denominator ∧
      roundQuanta numerator denominator ≤
        (quotient / spacing quotient + 1) * spacing quotient := by
  intro quotient
  have multiple :=
    Rounding.halfEven_between numerator (denominator * spacing quotient)
  rw [← Nat.div_div_eq_div_mul] at multiple
  exact
    ⟨Nat.mul_le_mul_right _ multiple.1, Nat.mul_le_mul_right _ multiple.2⟩

/-- A quotient below a power of two is rounded to that power at most. -/
theorem roundQuanta_le_two_pow
    {numerator denominator exponent : Nat}
    (below : numerator / denominator < 2 ^ exponent) :
    roundQuanta numerator denominator ≤ 2 ^ exponent := by
  have rounded := (roundQuanta_between numerator denominator).2
  rw [spacing_eq_two_pow] at rounded
  generalize numerator / denominator = quotient at *
  have fits : quotient.log2 + 1 - precision ≤ exponent := by
    rcases Nat.eq_zero_or_pos quotient with rfl | positive
    · simp [precision]
    · have := (Nat.log2_lt positive.ne').mpr below
      omega
  obtain ⟨rest, rfl⟩ := Nat.exists_eq_add_of_le fits
  rw [Nat.pow_add] at below ⊢
  have floor := Nat.div_lt_of_lt_mul below
  calc
    roundQuanta numerator denominator ≤
        (quotient / 2 ^ (quotient.log2 + 1 - precision) + 1) *
          2 ^ (quotient.log2 + 1 - precision) :=
      rounded
    _ ≤ 2 ^ rest * 2 ^ (quotient.log2 + 1 - precision) :=
      Nat.mul_le_mul_right _ floor
    _ = 2 ^ (quotient.log2 + 1 - precision) * 2 ^ rest :=
      Nat.mul_comm _ _

/-- A quotient not below a power of two is not rounded below it. -/
theorem two_pow_le_roundQuanta
    {numerator denominator exponent : Nat}
    (notBelow : 2 ^ exponent ≤ numerator / denominator) :
    2 ^ exponent ≤ roundQuanta numerator denominator := by
  have rounded := (roundQuanta_between numerator denominator).1
  rw [spacing_eq_two_pow] at rounded
  generalize numerator / denominator = quotient at *
  have positive : quotient ≠ 0 :=
    (Nat.lt_of_lt_of_le (Nat.two_pow_pos exponent) notBelow).ne'
  have fits : quotient.log2 + 1 - precision ≤ quotient.log2 := by
    simp only [precision]
    omega
  -- The greatest power of two in the quotient is a multiple of the spacing.
  have isMultiple := Nat.pow_dvd_pow 2 fits
  calc
    2 ^ exponent ≤ 2 ^ quotient.log2 :=
      Nat.pow_le_pow_right (by decide) ((Nat.le_log2 positive).mpr notBelow)
    _ = 2 ^ quotient.log2 / 2 ^ (quotient.log2 + 1 - precision) *
          2 ^ (quotient.log2 + 1 - precision) :=
      (Nat.div_mul_cancel isMultiple).symm
    _ ≤ quotient / 2 ^ (quotient.log2 + 1 - precision) *
          2 ^ (quotient.log2 + 1 - precision) :=
      Nat.mul_le_mul_right _
        (Nat.div_le_div_right (Nat.log2_self_le positive))
    _ ≤ roundQuanta numerator denominator :=
      rounded

/--
A quotient is rounded below a power of two just if it is below the middle between that
power and the double before it.
-/
theorem roundQuanta_lt_two_pow_iff
    (numerator shift : Nat)
    {denominator : Nat}
    (positive : 0 < denominator) :
    roundQuanta numerator denominator < 2 ^ (shift + precision) ↔
      2 * numerator < (2 ^ 54 - 1) * (denominator * 2 ^ shift) := by
  have scaled (exponent : Nat) :
      2 ^ (shift + exponent) * denominator =
        2 ^ exponent * (denominator * 2 ^ shift) := by
    ring
  have unitPositive : 0 < denominator * 2 ^ shift :=
    Nat.mul_pos positive (Nat.two_pow_pos shift)
  rcases Nat.lt_or_ge (numerator / denominator) (2 ^ (shift + 52)) with
    isSmall | notSmall
  · -- Then it is at least one binade below the power.
    have rounded := roundQuanta_le_two_pow isSmall
    have power : 2 ^ (shift + 52) < 2 ^ (shift + precision) :=
      Nat.pow_lt_pow_right (by decide) (by simp [precision])
    have bound := (Nat.div_lt_iff_lt_mul positive).mp isSmall
    rw [scaled] at bound
    constructor <;> intro <;> omega
  · rcases Nat.lt_or_ge (numerator / denominator) (2 ^ (shift + 53)) with
      isBelow | notBelow
    · -- Only here the rounding decides.
      have log : (numerator / denominator).log2 = shift + 52 :=
        (Nat.log2_eq_iff
          (Nat.lt_of_lt_of_le (Nat.two_pow_pos _) notSmall).ne').mpr
            ⟨notSmall, isBelow⟩
      have spaced : spacing (numerator / denominator) = 2 ^ shift := by
        rw [spacing_eq_two_pow, log]
        rfl
      have power : 2 ^ (shift + precision) = 2 ^ 53 * 2 ^ shift :=
        (Nat.pow_add 2 shift 53).trans (Nat.mul_comm _ _)
      have odd :=
        Rounding.halfEven_le_odd_iff numerator (2 ^ 52 - 1) unitPositive
      rw [roundQuanta, spaced, power,
        Nat.mul_lt_mul_right (Nat.two_pow_pos shift)]
      exact Nat.lt_succ_iff.trans odd
    · -- Then it is not below the power, and so is not rounded below it.
      have rounded := two_pow_le_roundQuanta notBelow
      have power : 2 ^ (shift + precision) = 2 ^ (shift + 53) :=
        rfl
      have bound := (Nat.le_div_iff_mul_le positive).mp notBelow
      rw [scaled] at bound
      constructor <;> intro <;> omega

/-- A unit and half a spacing beyond the greatest double, both in half quanta. -/
theorem twice_wholeLimit_mul_quantaPerUnit :
    2 * (wholeLimit * quantaPerUnit) = (2 ^ 54 - 1) * 2 ^ 2045 := by
  decide +kernel

/-- A quotient has a double just if it is below the limit for whole numbers. -/
theorem isSome_ofRatio?_iff
    (negative : Bool)
    (numerator : Nat)
    {denominator : Nat}
    (positive : 0 < denominator) :
    (ofRatio? negative numerator denominator).isSome = true ↔
      numerator < wholeLimit * denominator := by
  have limit : magnitudeLimit = 2 ^ (2045 + precision) := by
    decide +kernel
  have unitPositive : 0 < 2 * quantaPerUnit := by
    decide +kernel
  have scaled :
      (2 ^ 54 - 1) * (denominator * 2 ^ 2045) =
        wholeLimit * denominator * (2 * quantaPerUnit) := by
    rw [Nat.mul_left_comm, ← twice_wholeLimit_mul_quantaPerUnit]
    ring
  have isBelow :
      (ofRatio? negative numerator denominator).isSome = true ↔
        roundQuanta (numerator * quantaPerUnit) denominator <
          magnitudeLimit := by
    rw [ofRatio?, ofQuanta?]
    split
    · next below =>
        exact ⟨fun _ => below, fun _ => rfl⟩
    · next notBelow =>
        exact ⟨nofun, fun below => absurd below notBelow⟩
  rw [isBelow, limit, roundQuanta_lt_two_pow_iff _ _ positive, scaled,
    Nat.mul_left_comm, Nat.mul_lt_mul_right unitPositive]

/-- A whole number has a double just if it is below the limit, whatever its sign. -/
theorem isOk_ofInt_iff
    (value : Int) :
    (ofInt value).isOk = true ↔ value.natAbs < wholeLimit := by
  rw [ofInt, isOk_orOverflow, isSome_ofRatio?_iff _ _ Nat.one_pos,
    Nat.mul_one]

/-- A quotient of integers has a double just if it is below the limit, whatever its sign. -/
theorem isOk_ofQuotient_iff
    (dividend : Int)
    {divisor : Int}
    (nonzero : divisor ≠ 0) :
    (ofQuotient dividend divisor).isOk = true ↔
      dividend.natAbs < wholeLimit * divisor.natAbs := by
  rw [ofQuotient, isOk_orOverflow,
    isSome_ofRatio?_iff _ _ (Int.natAbs_pos.mpr nonzero)]

end Binary64

end ShardAtlas
