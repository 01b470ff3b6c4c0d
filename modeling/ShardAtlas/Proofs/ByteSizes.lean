import ShardAtlas.Proofs.FixedPlaces
import ShardAtlas.Proofs.SizeUnits

namespace ShardAtlas

/-!
# Sizes as they are shown

The text of a size is a decimal with one place and the name of a unit. It is read back here as
an amount of bytes, which is that of the unit that fits the size and the number to which the size
is rounded in it. So what holds of units and rounding holds of the texts.
-/

namespace ByteUnit

variable {unit : ByteUnit} (isUnit : unit ∈ all)

include isUnit

/-- The name of a unit is no part of the decimal in front of it. -/
theorem ends_name :
    Binary64.Decimal.Ends unit.name.toList := by
  have each : ∀ unit ∈ all, Binary64.Decimal.Ends unit.name.toList := by
    decide
  exact each unit isUnit

/-- A unit is found by its name. -/
theorem find?_name :
    (all.find? fun other => other.name.toList = unit.name.toList) =
      some unit := by
  have each :
      ∀ unit ∈ all,
        (all.find? fun other => other.name.toList = unit.name.toList) =
          some unit := by
    decide
  exact each unit isUnit

/-- A size is shown as the multiple of the last place to which it is rounded. -/
theorem shown_scaledDown
    (size : Nat) :
    unit.shown (scaledDown size (all.idxOf unit)) =
      Binary64.fixedText unit.places
          (Rounding.halfEven (size * 10 ^ unit.places) unit.weight) ++
        unit.name := by
  have low : all.idxOf unit ≤ 107 := by
    have isPlace := List.idxOf_lt_length_of_mem isUnit
    have five : all.length = 5 := rfl
    omega
  rw [shown, scaledDown, Binary64.fixed, Binary64.signText,
    if_neg Bool.false_ne_true, String.empty_append,
    Binary64.fixedMagnitude_eq, quantaPerUnit_eq low, Nat.mul_right_comm,
    Rounding.halfEven_mul_mul _ _ (quantaAfter_pos _), weight]

end ByteUnit

/-- An amount of bytes as it is shown: a number of units. -/
structure Amount where
  number : ℚ
  unit : ByteUnit
  deriving DecidableEq

namespace Amount

/-- The number of bytes that an amount says. -/
def bytes
    (amount : Amount) :
    ℚ :=
  amount.number * amount.unit.weight

/-- The amount that a text says: a decimal with the name of a unit behind it. -/
def ofText?
    (text : String) :
    Option Amount := do
  let (decimal, name) ← Binary64.Decimal.leading? text.toList
  let unit ← ByteUnit.all.find? fun unit => unit.name.toList = name
  pure { number := decimal.value, unit := unit }

/-- A size that is shown in a unit is read as the number to which it was rounded. -/
theorem ofText?_shown
    {unit : ByteUnit}
    (isUnit : unit ∈ ByteUnit.all)
    (size : Nat) :
    ofText? (unit.shown (ByteUnit.scaledDown size (ByteUnit.all.idxOf unit))) =
      some { number := unit.rounded size, unit := unit } := by
  rw [ofText?, ByteUnit.shown_scaledDown isUnit, String.toList_append,
    Binary64.leading?_fixedText _ _ (ByteUnit.ends_name isUnit)]
  simp only [Option.bind_eq_bind, Option.bind_some,
    ByteUnit.find?_name isUnit]
  rw [ByteUnit.rounded, Binary64.Decimal.value, zpow_neg, zpow_natCast,
    div_eq_mul_inv]
  rfl

end Amount

/-- A size of 53 bits is shown in the unit that fits it, as the number to which it is rounded. -/
theorem exists_byteSize
    {size : Nat}
    (small : size < 2 ^ Binary64.precision) :
    ∃ unit text,
      unit.Fits size ∧
        byteSize size = .ok text ∧
        Amount.ofText? text =
          some { number := unit.rounded size, unit := unit } := by
  obtain ⟨place, unit, found, shows, notAbove, below⟩ :=
    ByteUnit.exists_fitted_eq_shown small ByteUnit.multiples ByteUnit.bytes
      0 (by decide) (.inl rfl)
  rw [Nat.zero_add] at shows notAbove below
  have read :=
    Amount.ofText?_shown (List.mem_of_getElem? found) size
  rw [ByteUnit.idxOf_of_getElem? found] at read
  refine ⟨unit, _, .of_getElem? found notAbove below, ?_, read⟩
  rw [byteSize, ByteUnit.ofInt_eq_scaledDown small]
  exact congrArg Except.ok shows

/-- Whether the text of a size says an amount. -/
def Amount.IsShownFor
    (amount : Amount)
    (size : Nat) :
    Prop :=
  ∃ text, byteSize size = .ok text ∧ ofText? text = some amount

namespace Amount.IsShownFor

variable {size : Nat} {amount : Amount}

/-- The text of a size says one amount only. -/
theorem unique
    {other : Amount}
    (shown : amount.IsShownFor size)
    (shownToo : other.IsShownFor size) :
    amount = other := by
  obtain ⟨text, written, read⟩ := shown
  obtain ⟨_, writtenToo, readToo⟩ := shownToo
  obtain rfl := Except.ok.inj (written.symm.trans writtenToo)
  exact Option.some.inj (read.symm.trans readToo)

/-- An amount that is shown is in the unit that fits, and has the rounded number. -/
theorem exists_fits
    (shown : amount.IsShownFor size)
    (small : size < 2 ^ Binary64.precision) :
    ∃ unit : ByteUnit,
      unit.Fits size ∧
        amount = { number := unit.rounded size, unit := unit } := by
  obtain ⟨unit, text, fits, written, read⟩ := exists_byteSize small
  exact ⟨unit, fits, shown.unique ⟨text, written, read⟩⟩

end Amount.IsShownFor

/--
The text of a size can be read back.

The amount that is read differs from the size by a twentieth of its unit at most, and not at all
in single bytes; and amounts are in the order of the sizes, whatever their units.
-/
theorem byteSize_close_and_in_order :
    (∀ size : Nat, size < 2 ^ 53 →
      ∃ amount : Amount,
        amount.IsShownFor size ∧
          |amount.bytes - size| ≤ 1 / 20 * amount.unit.weight ∧
          (amount.unit = .bytes → amount.bytes = size)) ∧
      ∀ (smaller larger : Nat) (first second : Amount),
        smaller ≤ larger → larger < 2 ^ 53 →
          first.IsShownFor smaller → second.IsShownFor larger →
            first.bytes ≤ second.bytes := by
  constructor
  · intro size small
    obtain ⟨unit, text, fits, written, read⟩ := exists_byteSize small
    refine
      ⟨_, ⟨text, written, read⟩, fits.abs_rounded_sub_le_twentieth, ?_⟩
    rintro rfl
    have weight : ByteUnit.bytes.weight = 1 := by
      decide
    rw [Amount.bytes, ByteUnit.rounded_bytes, weight, Nat.cast_one, mul_one]
  · intro smaller larger first second ordered small shown shownToo
    obtain ⟨unit, fits, rfl⟩ :=
      shown.exists_fits (Nat.lt_of_le_of_lt ordered small)
    obtain ⟨other, fitsToo, rfl⟩ := shownToo.exists_fits small
    exact fits.rounded_mul_weight_le fitsToo ordered

/-- The last size below a mebibyte reads back as a mebibyte, no more than the next size. -/
theorem byteSize_around_mebibyte :
    let kibibytes : Amount := { number := 1024, unit := .kibibytes }
    let mebibyte : Amount := { number := 1, unit := ⟨"MiB", 1⟩ }
    1048576 < 2 ^ 53 ∧
      kibibytes.IsShownFor 1048575 ∧
      mebibyte.IsShownFor 1048576 ∧
      kibibytes.bytes ≤ mebibyte.bytes ∧
      ∃ amount : Amount,
        amount.IsShownFor 1048575 ∧
          |amount.bytes - 1048575| ≤ 1 / 20 * amount.unit.weight := by
  intro kibibytes mebibyte
  obtain ⟨close, inOrder⟩ := byteSize_close_and_in_order
  have shown : kibibytes.IsShownFor 1048575 :=
    ⟨"1024.0KiB", by decide +kernel, by decide +kernel⟩
  have shownNext : mebibyte.IsShownFor 1048576 :=
    ⟨"1.0MiB", by decide +kernel, by decide +kernel⟩
  obtain ⟨amount, isShown, isClose, _⟩ := close 1048575 (by decide)
  exact
    ⟨by decide, shown, shownNext,
      inOrder _ _ _ _ (by decide) (by decide) shown shownNext, amount,
      isShown, by exact_mod_cast isClose⟩

/--
A size is shown in the greatest unit that is not above it.

So at least one is shown, except in single bytes. Less than 1024 are shown, except in the
greatest unit, just if the size is not rounded up to the end of its unit; then it is 1024.
-/
theorem byteSize_in_one_unit_iff
    {size : Nat}
    (small : size < 2 ^ 53) :
    ∃ amount : Amount,
      amount.IsShownFor size ∧
        (amount.unit = .bytes ∨ 1 ≤ amount.number) ∧
        (amount.unit = .tebibytes ∨ amount.number < 1024 ↔
          ¬ByteUnit.ReachesNext size) ∧
        (ByteUnit.ReachesNext size → amount.number = 1024) := by
  obtain ⟨unit, text, fits, written, read⟩ := exists_byteSize small
  have below := fits.rounded_lt_step_iff
  refine
    ⟨_, ⟨text, written, read⟩,
      fits.notAbove.imp_right ByteUnit.one_le_rounded, below, ?_⟩
  intro reaches
  obtain ⟨notGreatest, notBelow⟩ :=
    not_or.mp (mt below.mp (not_not.mpr reaches))
  exact
    le_antisymm
      (ByteUnit.rounded_le_step
        (fits.belowNext.resolve_left notGreatest).le)
      (not_lt.mp notBelow)

/-- The last size that is not rounded up to a mebibyte. -/
theorem byteSize_before_mebibyte :
    1048524 < 2 ^ 53 ∧
      byteSize 1048524 = .ok "1023.9KiB" ∧
      ¬ByteUnit.ReachesNext 1048524 ∧
      ∃ amount : Amount,
        amount.IsShownFor 1048524 ∧
          (amount.unit = .tebibytes ∨ amount.number < 1024) := by
  have small : 1048524 < 2 ^ 53 := by
    decide
  have notReaching : ¬ByteUnit.ReachesNext 1048524 := by
    decide
  obtain ⟨amount, shown, _, below, _⟩ := byteSize_in_one_unit_iff small
  exact
    ⟨small, by decide +kernel, notReaching, amount, shown,
      below.mpr notReaching⟩

/-- The last size below a mebibyte is shown as 1024 of the unit before, the next size as one. -/
theorem byteSize_reaches_mebibyte :
    let kibibytes : Amount := { number := 1024, unit := .kibibytes }
    let mebibyte : Amount := { number := 1, unit := ⟨"MiB", 1⟩ }
    byteSize 1048575 = .ok "1024.0KiB" ∧
      Amount.ofText? "1024.0KiB" = some kibibytes ∧
      byteSize 1048576 = .ok "1.0MiB" ∧
      Amount.ofText? "1.0MiB" = some mebibyte ∧
      kibibytes.bytes = mebibyte.bytes ∧
      ¬∀ size : Nat, size < 2 ^ 53 →
        ∀ amount : Amount, amount.IsShownFor size →
          (amount.unit = .tebibytes ∨ amount.number < 1024) ∧
            (amount.unit = .bytes ∨ 1 ≤ amount.number) := by
  intro kibibytes mebibyte
  have written : byteSize 1048575 = .ok "1024.0KiB" := by
    decide +kernel
  have read : Amount.ofText? "1024.0KiB" = some kibibytes := by
    decide +kernel
  refine
    ⟨written, read, by decide +kernel, by decide +kernel,
      by decide +kernel, ?_⟩
  intro always
  have isBelow :=
    (always 1048575 (by decide) kibibytes ⟨_, written, read⟩).1
  rcases isBelow with isGreatest | isLess
  · exact absurd isGreatest (by decide)
  · exact absurd isLess (by decide +kernel)

end ShardAtlas
