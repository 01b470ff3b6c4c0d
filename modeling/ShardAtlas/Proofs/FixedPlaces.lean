import Mathlib.Algebra.Order.Field.Rat
import Mathlib.Tactic.Positivity
import ShardAtlas.Json.Reader
import ShardAtlas.Proofs.Numerals

namespace ShardAtlas

/-!
# Decimals with fixed places

A double is printed with a fixed number of places by rounding it to a multiple of the last place
and writing the digits of that multiple with a point among them. So the text is read back as
exactly the multiple to which the double was rounded, whatever stands behind it that is neither
a digit nor a point.
-/

namespace Json

/-- Digits are read up to where a character stands that is none. -/
theorem digitsOf_append
    {digits behind : List Char}
    (areDigits : ∀ char ∈ digits, char.isDigit = true)
    (ends : ∀ char ∈ behind.head?, char.isDigit = false) :
    digitsOf (digits ++ behind) = (digits, behind) := by
  rw [digitsOf, List.takeWhile_append_of_pos areDigits,
    List.dropWhile_append_of_pos areDigits]
  cases behind with
  | nil =>
      simp
  | cons first rest =>
      have notDigit := ends first rfl
      simp [notDigit]

/-- The natural number of decimal digits. -/
theorem naturalOf_eq_ofDigitChars
    {digits : List Char}
    (areDigits : ∀ char ∈ digits, char.isDigit = true) :
    naturalOf digits = Nat.ofDigitChars 10 digits 0 :=
  Text.ofDigits_filterMap_asciiDigit? areDigits

end Json

namespace Binary64

/-- The digits with leading zeros. -/
theorem toList_paddedDigits
    (width value : Nat) :
    (paddedDigits width value).toList =
      List.replicate (width - decimalLength value) '0' ++
        Nat.toDigits 10 value :=
  String.toList_ofList

/-- Leading zeros are digits too. -/
theorem isDigit_of_mem_paddedDigits
    {width value : Nat} :
    ∀ char ∈ (paddedDigits width value).toList, char.isDigit = true := by
  intro char member
  rw [toList_paddedDigits, List.mem_append] at member
  rcases member with isZero | isDigit
  · rw [List.eq_of_mem_replicate isZero]
    rfl
  · exact Nat.isDigit_of_mem_toDigits (by decide) (by decide) isDigit

/-- Leading zeros fill a number up to the width, if it is not wider. -/
theorem length_paddedDigits
    {width value : Nat}
    (positive : 0 < width)
    (fits : value < 10 ^ width) :
    (paddedDigits width value).toList.length = width := by
  have narrow : decimalLength value ≤ width :=
    (Nat.length_toDigits_le_iff (by decide) positive).mpr fits
  rw [toList_paddedDigits, List.length_append, List.length_replicate]
  exact Nat.sub_add_cancel narrow

/-- Leading zeros make no difference to a number. -/
theorem ofDigitChars_paddedDigits
    (width value : Nat) :
    Nat.ofDigitChars 10 (paddedDigits width value).toList 0 = value := by
  rw [toList_paddedDigits, Nat.ofDigitChars_append,
    Nat.ofDigitChars_replicate_zero, Nat.mul_zero,
    Nat.ofDigitChars_ten_toDigits]

namespace Decimal

/-- The number that a decimal is. -/
def value
    (decimal : Decimal) :
    ℚ :=
  decimal.digits * 10 ^ decimal.exponent

/-- The decimal at the start of some characters, and the characters behind it. -/
def leading?
    (chars : List Char) :
    Option (Decimal × List Char) :=
  let (whole, afterWhole) := Json.digitsOf chars
  let (fraction, behind) := Json.fractionOf afterWhole
  if whole.isEmpty then
    none
  else
    some
      ({ digits := Json.naturalOf (whole ++ fraction)
         exponent := -fraction.length }, behind)

/-- A decimal is read by its digits in front of the point and behind it. -/
theorem leading?_append
    {whole afterWhole fraction behind : List Char}
    (filled : whole ≠ [])
    (areDigits : ∀ char ∈ whole, char.isDigit = true)
    (ends : ∀ char ∈ afterWhole.head?, char.isDigit = false)
    (split : Json.fractionOf afterWhole = (fraction, behind)) :
    leading? (whole ++ afterWhole) =
      some
        ({ digits := Json.naturalOf (whole ++ fraction)
           exponent := -fraction.length }, behind) := by
  simp [leading?, Json.digitsOf_append areDigits ends, split, filled]

/-- Whether what stands behind a decimal is no part of it. -/
def Ends
    (behind : List Char) :
    Prop :=
  ∀ char ∈ behind.head?, char.isDigit = false ∧ char ≠ '.'

instance
    (behind : List Char) :
    Decidable (Ends behind) :=
  Option.decidableForallMem behind.head?

/-- Without a point there is no fraction. -/
theorem fractionOf_of_ends
    {behind : List Char}
    (ends : Ends behind) :
    Json.fractionOf behind = ([], behind) := by
  unfold Json.fractionOf
  split
  · exact absurd rfl (ends '.' rfl).2
  · rfl

/-- Behind a point the digits are the fraction. -/
theorem fractionOf_append
    {digits behind : List Char}
    (filled : digits ≠ [])
    (areDigits : ∀ char ∈ digits, char.isDigit = true)
    (ends : Ends behind) :
    Json.fractionOf ('.' :: (digits ++ behind)) = (digits, behind) := by
  have read :=
    Json.digitsOf_append areDigits fun char first => (ends char first).1
  simp only [Json.fractionOf, read]
  cases digits with
  | nil => exact absurd rfl filled
  | cons => rfl

end Decimal

/-- The text of a multiple of the last place. -/
def fixedText
    (places multiple : Nat) :
    String :=
  if places = 0 then
    Nat.repr multiple
  else
    Nat.repr (multiple / 10 ^ places) ++ "." ++
      paddedDigits places (multiple % 10 ^ places)

/-- A magnitude is rounded to a multiple of the last place, which is written out. -/
theorem fixedMagnitude_eq
    (places quanta : Nat) :
    fixedMagnitude places quanta =
      fixedText places
        (Rounding.halfEven (quanta * 10 ^ places) quantaPerUnit) :=
  rfl

/-- The number of the digits in front of the point and behind it. -/
theorem naturalOf_fixedDigits
    {places : Nat}
    (positive : 0 < places)
    (multiple : Nat) :
    Json.naturalOf
        (Nat.toDigits 10 (multiple / 10 ^ places) ++
          (paddedDigits places (multiple % 10 ^ places)).toList) =
      multiple := by
  have areDigits :
      ∀ char ∈ Nat.toDigits 10 (multiple / 10 ^ places) ++
          (paddedDigits places (multiple % 10 ^ places)).toList,
        char.isDigit = true :=
    List.forall_mem_append.mpr
      ⟨fun _ => Nat.isDigit_of_mem_toDigits (by decide) (by decide),
        isDigit_of_mem_paddedDigits⟩
  have isBelow : multiple % 10 ^ places < 10 ^ places :=
    Nat.mod_lt _ (by positivity)
  rw [Json.naturalOf_eq_ofDigitChars areDigits, Nat.ofDigitChars_append,
    Nat.ofDigitChars_eq_ofDigitChars_zero,
    length_paddedDigits positive isBelow, ofDigitChars_paddedDigits,
    Nat.ofDigitChars_ten_toDigits, Nat.div_add_mod]

/-- A text with fixed places is read as the multiple that was written. -/
theorem leading?_fixedText
    (places multiple : Nat)
    {behind : List Char}
    (ends : Decimal.Ends behind) :
    Decimal.leading? ((fixedText places multiple).toList ++ behind) =
      some ({ digits := multiple, exponent := -places }, behind) := by
  have areDigits (number : Nat) :
      ∀ char ∈ Nat.toDigits 10 number, char.isDigit = true :=
    fun _ => Nat.isDigit_of_mem_toDigits (by decide) (by decide)
  unfold fixedText
  split
  · next noPlaces =>
      have read :=
        Decimal.leading?_append Nat.toDigits_ne_nil (areDigits multiple)
          (fun char first => (ends char first).1)
          (Decimal.fractionOf_of_ends ends)
      rw [Nat.toList_repr, read, List.append_nil,
        Json.naturalOf_eq_ofDigitChars (areDigits multiple),
        Nat.ofDigitChars_ten_toDigits, noPlaces]
      rfl
  · next isPlaces =>
      have positive : 0 < places :=
        Nat.pos_of_ne_zero isPlaces
      have width :
          (paddedDigits places (multiple % 10 ^ places)).toList.length =
            places :=
        length_paddedDigits positive (Nat.mod_lt _ (by positivity))
      have filled :
          (paddedDigits places (multiple % 10 ^ places)).toList ≠ [] := by
        rw [← List.length_pos_iff, width]
        exact positive
      have read :=
        Decimal.leading?_append Nat.toDigits_ne_nil
          (areDigits (multiple / 10 ^ places)) (by simp)
          (Decimal.fractionOf_append filled isDigit_of_mem_paddedDigits
            ends)
      rw [naturalOf_fixedDigits positive, width] at read
      rw [String.toList_append, String.toList_append, Nat.toList_repr,
        List.append_assoc, List.append_assoc]
      exact read

end Binary64
end ShardAtlas
