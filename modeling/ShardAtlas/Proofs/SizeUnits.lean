import Mathlib.Algebra.Order.Field.Basic
import Mathlib.Tactic.FieldSimp
import Mathlib.Tactic.Linarith
import Mathlib.Tactic.NormNum
import ShardAtlas.ByteSize
import ShardAtlas.Proofs.DoubleRange

namespace ShardAtlas

/-!
# Units for sizes

A size of 53 bits is a double, and dividing it by 1024 is exact. So the unit is chosen by the
exact size, as the last one that is not above it, and only the number of units is rounded. The
rounded numbers are close to the size, and in the order of the sizes also where the unit changes,
since none is beyond the end of its unit. But one may reach it: then 1024 of a unit are shown.
-/

/-- A common factor makes no difference to a rounded quotient. -/
theorem Rounding.halfEven_mul_mul
    (numerator denominator : Nat)
    {factor : Nat}
    (positive : 0 < factor) :
    halfEven (numerator * factor) (denominator * factor) =
      halfEven numerator denominator := by
  have lower (first second : Nat) :
      2 * (first * factor) < second * factor ↔ 2 * first < second := by
    rw [← Nat.mul_assoc, Nat.mul_lt_mul_right positive]
  have upper (first second : Nat) :
      second * factor < 2 * (first * factor) ↔ second < 2 * first := by
    rw [← Nat.mul_assoc, Nat.mul_lt_mul_right positive]
  simp only [halfEven, Nat.mul_mod_mul_right,
    Nat.mul_div_mul_right _ _ positive, lower, upper]

namespace Binary64

/-- What has 53 significant bits at most is not rounded. -/
theorem roundQuanta_exact
    {significand power denominator : Nat}
    (fits : significand < 2 ^ precision)
    (isPower : ∃ exponent, power = 2 ^ exponent)
    (positive : 0 < denominator) :
    roundQuanta (significand * power * denominator) denominator =
      significand * power := by
  obtain ⟨exponent, rfl⟩ := isPower
  have quotient :
      significand * 2 ^ exponent * denominator / denominator =
        significand * 2 ^ exponent :=
    Nat.mul_div_cancel _ positive
  have log :
      (significand * 2 ^ exponent).log2 + 1 - precision ≤ exponent := by
    rcases Nat.eq_zero_or_pos significand with rfl | nonzero
    · simp [precision]
    · have isBelow :
          significand * 2 ^ exponent < 2 ^ (precision + exponent) := by
        rw [Nat.pow_add]
        exact Nat.mul_lt_mul_of_pos_right fits (Nat.two_pow_pos exponent)
      have bound :=
        (Nat.log2_lt (Nat.mul_pos nonzero (Nat.two_pow_pos _)).ne').mpr
          isBelow
      omega
  rw [roundQuanta, quotient, spacing_eq_two_pow]
  generalize (significand * 2 ^ exponent).log2 + 1 - precision = shift at log
  obtain ⟨rest, rfl⟩ := Nat.exists_eq_add_of_le log
  have multiple :
      significand * 2 ^ (shift + rest) * denominator =
        significand * 2 ^ rest * (denominator * 2 ^ shift) := by
    ring
  rw [multiple,
    Rounding.halfEven_mul_right _
      (Nat.mul_pos positive (Nat.two_pow_pos shift))]
  ring

end Binary64

namespace ByteUnit

/-- All units, each 1024 times the one before. -/
def all : List ByteUnit :=
  bytes :: multiples

/-- The first unit above single bytes. -/
def kibibytes : ByteUnit :=
  ⟨"KiB", 1⟩

/-- The greatest unit. -/
def tebibytes : ByteUnit :=
  ⟨"TiB", 1⟩

/-- The number of bytes in a unit. -/
def weight
    (unit : ByteUnit) :
    Nat :=
  step ^ all.idxOf unit

/-- Number of bits behind the point of a byte in quanta. -/
def quantaBits : Nat :=
  1074

/-- Number of quanta in a byte that is divided by 1024 some times. -/
def quantaAfter
    (times : Nat) :
    Nat :=
  2 ^ (quantaBits - 10 * times)

/-- A size divided by 1024 some times, as an exact double. -/
def scaledDown
    (size times : Nat) :
    Binary64 :=
  .finite false (size * quantaAfter times)

/-- The number of quanta is a power of two. -/
theorem exists_quantaAfter_eq_two_pow
    (times : Nat) :
    ∃ exponent, quantaAfter times = 2 ^ exponent :=
  ⟨_, rfl⟩

/-- There are quanta in a byte, however often it is divided. -/
theorem quantaAfter_pos
    (times : Nat) :
    0 < quantaAfter times :=
  Nat.two_pow_pos _

/-- Up to 107 divisions are exact. -/
theorem quantaPerUnit_eq
    {times : Nat}
    (low : times ≤ 107) :
    Binary64.quantaPerUnit = step ^ times * quantaAfter times := by
  have bits : Binary64.quantaPerUnit = 2 ^ quantaBits := by
    decide +kernel
  have stepPower : step = 2 ^ 10 := rfl
  have enough : 10 * 107 ≤ quantaBits := by
    decide
  have split : quantaBits = 10 * times + (quantaBits - 10 * times) := by
    omega
  rw [bits, stepPower, quantaAfter, ← Nat.pow_mul, ← Nat.pow_add, ← split]

/-- One more division takes a factor of 1024 away. -/
theorem quantaAfter_eq
    {times : Nat}
    (low : times < 107) :
    quantaAfter times = quantaAfter (times + 1) * step := by
  have enough : 10 * 107 ≤ quantaBits := by
    decide
  have split :
      quantaBits - 10 * times = quantaBits - 10 * (times + 1) + 10 := by
    omega
  rw [quantaAfter, quantaAfter, split, Nat.pow_add]
  rfl

section

variable {size : Nat} (small : size < 2 ^ Binary64.precision)

include small

/-- A size of 53 bits is a double. -/
theorem ofInt_eq_scaledDown :
    Binary64.ofInt size = .ok (scaledDown size 0) := by
  have quanta : Binary64.quantaPerUnit = quantaAfter 0 := by
    rw [quantaPerUnit_eq (Nat.zero_le 107), Nat.pow_zero, Nat.one_mul]
  have exact :=
    Binary64.roundQuanta_exact small (exists_quantaAfter_eq_two_pow 0)
      Nat.one_pos
  rw [Nat.mul_one] at exact
  have inRange : size * quantaAfter 0 < Binary64.magnitudeLimit := by
    calc
      size * quantaAfter 0 < 2 ^ Binary64.precision * quantaAfter 0 :=
        Nat.mul_lt_mul_of_pos_right small (quantaAfter_pos 0)
      _ ≤ Binary64.magnitudeLimit := by
        decide +kernel
  have notNegative : decide ((size : Int) < 0) = false := by
    simp
  rw [Binary64.ofInt, notNegative, Binary64.ofRatio?, Int.natAbs_natCast,
    quanta, exact, Binary64.ofQuanta?, if_pos inRange]
  rfl

/-- Dividing once more by 1024 is exact. -/
theorem dividedBy_scaledDown
    {times : Nat}
    (low : times < 107) :
    (scaledDown size times).dividedBy step = scaledDown size (times + 1) := by
  have exact :=
    Binary64.roundQuanta_exact small
      (exists_quantaAfter_eq_two_pow (times + 1)) (show 0 < step by decide)
  rw [scaledDown, Binary64.dividedBy, quantaAfter_eq low, ← Nat.mul_assoc,
    exact, scaledDown]

omit small in
/-- A size is below the limit of a unit just if it is below the next unit. -/
theorem lessThan_limit_iff
    {times : Nat}
    (low : times ≤ 107) :
    (scaledDown size times).lessThan limit = true ↔
      size < step ^ (times + 1) := by
  have isFinite :
      limit = .finite false (step * Binary64.quantaPerUnit) := by
    decide +kernel
  rw [isFinite, scaledDown, Binary64.lessThan, decide_eq_true_iff,
    Binary64.signedQuanta, Binary64.signedQuanta, if_neg Bool.false_ne_true,
    if_neg Bool.false_ne_true, Int.ofNat_lt, quantaPerUnit_eq low,
    ← Nat.mul_assoc, Nat.mul_lt_mul_right (quantaAfter_pos times), Nat.pow_succ,
    Nat.mul_comm step]

/-- The unit that is chosen is the last one that is not above the size, if there is one. -/
theorem exists_fitted_eq_shown
    (rest : List ByteUnit)
    (unit : ByteUnit)
    (times : Nat)
    (low : times + rest.length ≤ 107)
    (notAbove : times = 0 ∨ step ^ times ≤ size) :
    ∃ place chosen,
      (unit :: rest)[place]? = some chosen ∧
        unit.fitted (scaledDown size times) rest =
          chosen.shown (scaledDown size (times + place)) ∧
        (times + place = 0 ∨ step ^ (times + place) ≤ size) ∧
        (place < rest.length → size < step ^ (times + place + 1)) := by
  induction rest generalizing unit times with
  | nil =>
      exact ⟨0, unit, rfl, rfl, notAbove, nofun⟩
  | cons next rest inductionHypothesis =>
      rw [List.length_cons] at low
      by_cases isBelow : size < step ^ (times + 1)
      · refine ⟨0, unit, rfl, ?_, notAbove, fun _ => isBelow⟩
        rw [fitted, if_pos ((lessThan_limit_iff (by omega)).mpr isBelow)]
        rfl
      · obtain ⟨place, chosen, found, shows, stillNotAbove, below⟩ :=
          inductionHypothesis next (times + 1) (by omega)
            (.inr (Nat.not_lt.mp isBelow))
        have order : times + (place + 1) = times + 1 + place := by
          omega
        refine ⟨place + 1, chosen, found, ?_, ?_, ?_⟩
        · rw [fitted, if_neg (mt (lessThan_limit_iff (by omega)).mp isBelow),
            dividedBy_scaledDown small (by omega), order]
          exact shows
        · rw [order]
          exact stillNotAbove
        · intro isInner
          rw [order]
          rw [List.length_cons] at isInner
          exact below (Nat.lt_of_succ_lt_succ isInner)

end

/-- The number of units to which a size is rounded where it is shown. -/
def rounded
    (unit : ByteUnit)
    (size : Nat) :
    ℚ :=
  (Rounding.halfEven (size * 10 ^ unit.places) unit.weight : ℚ) /
    10 ^ unit.places

/-- Whether a unit is the one that fits a size: the last one that is not above it. -/
structure Fits
    (unit : ByteUnit)
    (size : Nat) :
    Prop where
  isUnit : unit ∈ all
  notAbove : unit = bytes ∨ unit.weight ≤ size
  belowNext : unit = tebibytes ∨ size < step * unit.weight

/-- There are bytes in a unit. -/
theorem weight_pos
    (unit : ByteUnit) :
    0 < unit.weight :=
  Nat.pow_pos (by decide)

/-- All units but single bytes have one place. -/
theorem places_eq_one
    {unit : ByteUnit}
    (isUnit : unit ∈ all)
    (notBytes : unit ≠ bytes) :
    unit.places = 1 := by
  have each : ∀ unit ∈ all, unit ≠ bytes → unit.places = 1 := by
    decide
  exact each unit isUnit notBytes

/-- Single bytes are not rounded. -/
theorem rounded_bytes
    (size : Nat) :
    bytes.rounded size = size := by
  have exact : Rounding.halfEven (size * 1) 1 = size := by
    rw [Nat.mul_one]
    simpa using Rounding.halfEven_mul_right size Nat.one_pos
  have weight : bytes.weight = 1 := by
    decide
  have places : bytes.places = 0 := rfl
  rw [rounded, weight, places, Nat.pow_zero, exact, pow_zero, div_one]

/-- Whole numbers of units are not rounded. -/
theorem rounded_mul_weight
    (unit : ByteUnit)
    (count : Nat) :
    unit.rounded (count * unit.weight) = count := by
  rw [rounded, Nat.mul_right_comm,
    Rounding.halfEven_mul_right _ unit.weight_pos]
  push_cast
  exact mul_div_cancel_right₀ _ (by positivity)

/-- Rounding keeps the order of sizes in one unit. -/
theorem rounded_mono
    (unit : ByteUnit)
    {smaller larger : Nat}
    (ordered : smaller ≤ larger) :
    unit.rounded smaller ≤ unit.rounded larger := by
  have rounds :=
    Rounding.halfEven_mono unit.weight
      (Nat.mul_le_mul_right (10 ^ unit.places) ordered)
  rw [rounded, rounded]
  gcongr

/-- From a unit on, at least one is shown. -/
theorem one_le_rounded
    {unit : ByteUnit}
    {size : Nat}
    (notAbove : unit.weight ≤ size) :
    1 ≤ unit.rounded size := by
  have one := unit.rounded_mul_weight 1
  rw [Nat.one_mul, Nat.cast_one] at one
  calc
    1 = unit.rounded unit.weight := one.symm
    _ ≤ unit.rounded size := unit.rounded_mono notAbove

/-- Up to the next unit, no more than 1024 are shown. -/
theorem rounded_le_step
    {unit : ByteUnit}
    {size : Nat}
    (notBeyond : size ≤ step * unit.weight) :
    unit.rounded size ≤ 1024 := by
  have whole := unit.rounded_mul_weight step
  calc
    unit.rounded size ≤ unit.rounded (step * unit.weight) :=
      unit.rounded_mono notBeyond
    _ = 1024 := whole.trans (by norm_num [step])

/-- Rounding moves a size by half of the last place at most. -/
theorem abs_rounded_sub_le
    (unit : ByteUnit)
    (size : Nat) :
    |unit.rounded size * unit.weight - size| ≤
      unit.weight / (2 * 10 ^ unit.places) := by
  obtain ⟨upper, lower⟩ :=
    Rounding.halfEven_error (size * 10 ^ unit.places) unit.weight_pos
  rw [rounded]
  generalize Rounding.halfEven (size * 10 ^ unit.places) unit.weight =
    multiple at upper lower
  have upperBound :
      2 * ((multiple : ℚ) * unit.weight) ≤
        2 * (size * 10 ^ unit.places) + unit.weight := by
    exact_mod_cast upper
  have lowerBound :
      2 * ((size : ℚ) * 10 ^ unit.places) ≤
        2 * (multiple * unit.weight) + unit.weight := by
    exact_mod_cast lower
  have positive : (0 : ℚ) < 10 ^ unit.places := by
    positivity
  have difference :
      (multiple : ℚ) / 10 ^ unit.places * unit.weight - size =
        (multiple * unit.weight - size * 10 ^ unit.places) /
          10 ^ unit.places := by
    field_simp
  rw [difference, abs_div, abs_of_pos positive,
    div_le_div_iff₀ positive (by positivity)]
  have bound :
      |(multiple : ℚ) * unit.weight - size * 10 ^ unit.places| ≤
        unit.weight / 2 := by
    rw [abs_le]
    constructor <;> linarith
  calc
    _ ≤ (unit.weight : ℚ) / 2 * (2 * 10 ^ unit.places) := by
      gcongr
    _ = unit.weight * 10 ^ unit.places := by
      ring

/-- A size is rounded below the next unit just if it is not half of the last place from it. -/
theorem rounded_lt_step_iff
    {unit : ByteUnit}
    (onePlace : unit.places = 1)
    (size : Nat) :
    unit.rounded size < 1024 ↔ 20 * size < 20479 * unit.weight := by
  have rounds :=
    Rounding.halfEven_le_odd_iff (size * 10) 5119 unit.weight_pos
  have scaled :
      unit.rounded size < 1024 ↔
        Rounding.halfEven (size * 10) unit.weight < 10240 := by
    rw [rounded, onePlace, pow_one, pow_one,
      div_lt_iff₀ (by norm_num : (0 : ℚ) < 10)]
    norm_num
  rw [scaled]
  omega

/-- An earlier unit is not the greatest one, a later one not the least, and it is heavier. -/
theorem step_mul_weight_le
    {earlier later : ByteUnit}
    (isUnit : later ∈ all)
    (isEarlier : all.idxOf earlier < all.idxOf later) :
    earlier ≠ tebibytes ∧
      later ≠ bytes ∧
      step * earlier.weight ≤ later.weight := by
  have within := List.idxOf_lt_length_of_mem isUnit
  have ends :
      all.idxOf bytes = 0 ∧ all.idxOf tebibytes = 4 ∧ all.length = 5 := by
    decide
  refine ⟨?_, ?_, ?_⟩
  · rintro rfl
    omega
  · rintro rfl
    omega
  · rw [weight, weight, Nat.mul_comm, ← Nat.pow_succ]
    exact Nat.pow_le_pow_right (by decide) isEarlier

/-- A unit stands in one place only. -/
theorem idxOf_of_getElem?
    {place : Nat}
    {unit : ByteUnit}
    (found : all[place]? = some unit) :
    all.idxOf unit = place := by
  have distinct : all.Nodup := by
    decide
  obtain ⟨within, isItem⟩ := List.getElem?_eq_some_iff.mp found
  rw [← isItem]
  exact distinct.idxOf_getElem place within

namespace Fits

/-- The unit in the place at which the search for it ends is the one that fits. -/
theorem of_getElem?
    {place size : Nat}
    {unit : ByteUnit}
    (found : all[place]? = some unit)
    (notAbove : place = 0 ∨ step ^ place ≤ size)
    (below : place < multiples.length → size < step ^ (place + 1)) :
    unit.Fits size := by
  have weight : unit.weight = step ^ place := by
    rw [ByteUnit.weight, idxOf_of_getElem? found]
  refine ⟨List.mem_of_getElem? found, ?_, ?_⟩
  · rw [weight]
    refine notAbove.imp_left ?_
    rintro rfl
    exact (Option.some.inj found).symm
  · rw [weight, Nat.mul_comm, ← Nat.pow_succ]
    by_cases isInner : place < multiples.length
    · exact .inr (below isInner)
    · have within := (List.getElem?_eq_some_iff.mp found).1
      have lengths : all.length = 5 ∧ multiples.length = 4 :=
        ⟨rfl, rfl⟩
      obtain rfl : place = 4 := by
        omega
      exact .inl (Option.some.inj found).symm

variable {first second : ByteUnit} {smaller larger : Nat}

/-- Of two sizes in different units, the smaller one is below the unit of the larger one. -/
theorem weight_le_of_ne
    (firstFits : first.Fits smaller)
    (secondFits : second.Fits larger)
    (ordered : smaller ≤ larger)
    (different : first ≠ second) :
    smaller < step * first.weight ∧
      step * first.weight ≤ second.weight ∧
      second.weight ≤ larger := by
  rcases Nat.lt_trichotomy (all.idxOf first) (all.idxOf second) with
    isEarlier | same | isLater
  · obtain ⟨notGreatest, notBytes, heavier⟩ :=
      step_mul_weight_le secondFits.isUnit isEarlier
    exact
      ⟨firstFits.belowNext.resolve_left notGreatest, heavier,
        secondFits.notAbove.resolve_left notBytes⟩
  · have firstPlace := List.getElem?_idxOf firstFits.isUnit
    rw [same, List.getElem?_idxOf secondFits.isUnit] at firstPlace
    exact absurd (Option.some.inj firstPlace).symm different
  · -- Then the smaller size is not below the unit of the larger one.
    obtain ⟨notGreatest, notBytes, heavier⟩ :=
      step_mul_weight_le firstFits.isUnit isLater
    have above := firstFits.notAbove.resolve_left notBytes
    have below := secondFits.belowNext.resolve_left notGreatest
    omega

/-- Only one unit fits a size. -/
theorem unique
    (firstFits : first.Fits smaller)
    (secondFits : second.Fits smaller) :
    first = second := by
  by_contra different
  obtain ⟨below, heavier, notAbove⟩ :=
    firstFits.weight_le_of_ne secondFits (Nat.le_refl smaller) different
  omega

/-- What is shown of a smaller size is not more than what is shown of a larger one. -/
theorem rounded_mul_weight_le
    (firstFits : first.Fits smaller)
    (secondFits : second.Fits larger)
    (ordered : smaller ≤ larger) :
    first.rounded smaller * first.weight ≤
      second.rounded larger * second.weight := by
  by_cases same : first = second
  · subst same
    have rounds := first.rounded_mono ordered
    gcongr
  · obtain ⟨below, heavier, notAbove⟩ :=
      firstFits.weight_le_of_ne secondFits ordered same
    have firstRounds := rounded_le_step below.le
    have secondRounds := one_le_rounded notAbove
    have heavierToo : 1024 * (first.weight : ℚ) ≤ second.weight := by
      exact_mod_cast heavier
    calc
      first.rounded smaller * first.weight ≤ 1024 * first.weight := by
        gcongr
      _ ≤ 1 * second.weight := by
        rw [one_mul]
        exact heavierToo
      _ ≤ second.rounded larger * second.weight := by
        gcongr

/-- What is shown differs from the size by a twentieth of the unit at most. -/
theorem abs_rounded_sub_le_twentieth
    (fits : first.Fits smaller) :
    |first.rounded smaller * first.weight - smaller| ≤
      1 / 20 * first.weight := by
  by_cases isBytes : first = bytes
  · subst isBytes
    have weight : bytes.weight = 1 := by
      decide
    rw [rounded_bytes, weight]
    simp
  · have error := first.abs_rounded_sub_le smaller
    rw [places_eq_one fits.isUnit isBytes, pow_one] at error
    linarith

end Fits

/-- Whether a size is rounded up to the end of its unit. -/
def ReachesNext
    (size : Nat) :
    Prop :=
  ∃ unit ∈ all,
    unit ≠ bytes ∧ unit ≠ tebibytes ∧
      20479 * unit.weight ≤ 20 * size ∧ size < step * unit.weight

instance
    (size : Nat) :
    Decidable (ReachesNext size) :=
  inferInstanceAs (Decidable (∃ unit ∈ all, _))

/-- Less than 1024 of a unit are shown just if the size is not rounded up to its end. -/
theorem Fits.rounded_lt_step_iff
    {unit : ByteUnit}
    {size : Nat}
    (fits : unit.Fits size) :
    unit = tebibytes ∨ unit.rounded size < 1024 ↔ ¬ReachesNext size := by
  constructor
  · rintro below ⟨other, isUnit, notBytes, notGreatest, reaches, notBeyond⟩
    have otherFits : other.Fits size :=
      ⟨isUnit, .inr (by omega), .inr notBeyond⟩
    obtain rfl := fits.unique otherFits
    have isBelow :=
      (ByteUnit.rounded_lt_step_iff (places_eq_one isUnit notBytes)
        size).mp (below.resolve_left notGreatest)
    omega
  · intro notReaching
    by_cases notGreatest : unit = tebibytes
    · exact .inl notGreatest
    · have below := fits.belowNext.resolve_left notGreatest
      refine .inr ?_
      by_cases isBytes : unit = bytes
      · subst isBytes
        rw [rounded_bytes]
        exact_mod_cast below
      · rw [ByteUnit.rounded_lt_step_iff
          (places_eq_one fits.isUnit isBytes)]
        by_contra reaches
        exact
          notReaching
            ⟨unit, fits.isUnit, isBytes, notGreatest,
              Nat.not_lt.mp reaches, below⟩

end ByteUnit

end ShardAtlas
