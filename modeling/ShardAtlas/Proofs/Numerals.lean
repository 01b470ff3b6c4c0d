import Mathlib.Data.List.Basic
import ShardAtlas.Text.Numeral

namespace ShardAtlas.Text

/-!
# Numerals of plain digits

A text of ASCII digits alone is a numeral: nothing is taken off at its ends, no sign and no
separator is in it, and the digits of all scripts have the ASCII ones among them. So it is read
as the number with its digits, unless they are too many.
-/

/-- Characters that are kept at both ends are all kept. -/
theorem trimmed_eq_self
    {drops : Char → Bool}
    {chars : List Char}
    (keeps : ∀ char ∈ chars, drops char = false) :
    trimmed drops chars = chars := by
  have atFront
      (kept : List Char)
      (within : ∀ char ∈ kept, char ∈ chars) :
      kept.dropWhile drops = kept := by
    cases kept with
    | nil =>
        rfl
    | cons first rest =>
        apply List.dropWhile_cons_of_neg
        simp [keeps first (within first (List.mem_cons_self ..))]
  rw [trimmed, atFront chars fun _ member => member,
    atFront chars.reverse fun _ member => List.mem_reverse.mp member,
    List.reverse_reverse]

/-- The digits of no script are blank. -/
theorem isBlank_of_decimalDigit
    {char : Char}
    (isDigit : (decimalDigit? char).isSome = true) :
    isBlank char = false := by
  -- Each row of ten digits lies apart from every range of blanks.
  have apart :
      ∀ first ∈ digitZeros,
        ∀ range ∈ informationSeparators :: whiteSpace,
          first + 9 < range.first ∨ range.last < first := by
    decide
  rw [decimalDigit?, Option.isSome_map, List.find?_isSome] at isDigit
  obtain ⟨first, member, inRow⟩ := isDigit
  rw [Bool.and_eq_true, decide_eq_true_iff, decide_eq_true_iff] at inRow
  rw [← Bool.not_eq_true, isBlank_iff]
  rintro ⟨range, isRange, within⟩
  rw [CodeRange.holds_iff] at within
  have separate := apart first member range isRange
  omega

section

variable
  {char : Char}
  (isDigit : (asciiDigit? char).isSome = true)

include isDigit

/-- An ASCII digit has one of ten code points. -/
theorem toNat_of_asciiDigit :
    0x30 ≤ char.toNat ∧ char.toNat ≤ 0x39 := by
  unfold asciiDigit? at isDigit
  split at isDigit
  · assumption
  · cases isDigit

/-- An ASCII digit has the same value among the digits of all scripts. -/
theorem decimalDigit?_eq_asciiDigit? :
    decimalDigit? char = asciiDigit? char := by
  obtain ⟨least, greatest⟩ := toNat_of_asciiDigit isDigit
  have isFirst :
      (digitZeros.find? fun code =>
          code ≤ char.toNat && char.toNat ≤ code + 9) = some 0x30 :=
    List.find?_cons_of_pos (by simp [least, greatest])
  have ascii : '0' ≤ char ∧ char ≤ '9' :=
    ⟨least, greatest⟩
  rw [decimalDigit?, isFirst, asciiDigit?, if_pos ascii]
  rfl

/-- An ASCII digit is no white space. -/
theorem isWhiteSpace_of_asciiDigit :
    isWhiteSpace char = false := by
  have notBlank : isBlank char = false :=
    isBlank_of_decimalDigit
      (decimalDigit?_eq_asciiDigit? isDigit ▸ isDigit)
  exact (Bool.or_eq_false_iff.mp notBlank).1

/-- An ASCII digit is no separator. -/
theorem ne_underscore_of_asciiDigit :
    char ≠ '_' := by
  rintro rfl
  exact absurd isDigit (by decide)

/-- An ASCII digit is no sign. -/
theorem ne_sign_of_asciiDigit :
    char ≠ '-' ∧ char ≠ '+' := by
  constructor <;> rintro rfl <;> exact absurd isDigit (by decide)

end

/-- Digits are read up to the end, where nothing else follows. -/
theorem moreDigits_of_asciiDigits
    {chars : List Char}
    (areDigits : ∀ char ∈ chars, (asciiDigit? char).isSome = true) :
    moreDigits chars = (chars.filterMap asciiDigit?, []) := by
  induction chars with
  | nil =>
      rfl
  | cons char rest inductionHypothesis =>
      obtain ⟨isDigit, areDigitsBehind⟩ := List.forall_mem_cons.mp areDigits
      obtain ⟨digit, found⟩ := Option.isSome_iff_exists.mp isDigit
      have known := (decimalDigit?_eq_asciiDigit? isDigit).trans found
      have notSeparator := ne_underscore_of_asciiDigit isDigit
      have read := inductionHypothesis areDigitsBehind
      -- The first equation is for separators, and a digit is none.
      rw [moreDigits.eq_2 char rest fun _ _ isSeparator =>
        absurd isSeparator notSeparator]
      simp [known, found, read]

/-- A text of digits is read as the number with its digits, unless they are too many. -/
theorem readInteger_of_asciiDigits
    {text : String}
    (filled : text ≠ "")
    (areDigits : ∀ char ∈ text.toList, (asciiDigit? char).isSome = true) :
    readInteger text =
      integerOf false (text.toList.filterMap asciiDigit?) := by
  have whole : trimmed isWhiteSpace text.toList = text.toList :=
    trimmed_eq_self fun char member =>
      isWhiteSpace_of_asciiDigit (areDigits char member)
  rw [readInteger, whole]
  cases shape : text.toList with
  | nil =>
      exact absurd (String.toList_eq_nil_iff.mp shape) filled
  | cons first rest =>
      rw [shape] at areDigits
      obtain ⟨isDigit, areDigitsBehind⟩ := List.forall_mem_cons.mp areDigits
      obtain ⟨digit, found⟩ := Option.isSome_iff_exists.mp isDigit
      have known := (decimalDigit?_eq_asciiDigit? isDigit).trans found
      obtain ⟨notMinus, notPlus⟩ := ne_sign_of_asciiDigit isDigit
      have unsigned : signed (first :: rest) = (false, first :: rest) := by
        simp [signed, notMinus, notPlus]
      simp [readBareInteger, unsigned, digitGroup?, known, found,
        moreDigits_of_asciiDigits areDigitsBehind]

/-- The ASCII digits are those of the core library. -/
theorem isSome_asciiDigit?_iff
    {char : Char} :
    (asciiDigit? char).isSome = true ↔ char.isDigit = true := by
  rw [asciiDigit?, Char.isDigit_iff_toNat]
  split
  · next within => exact iff_of_true rfl within
  · next outside => exact iff_of_false nofun outside

/-- Decimal digits have the number that they spell. -/
theorem ofDigits_filterMap_asciiDigit?
    {chars : List Char}
    (areDigits : ∀ char ∈ chars, char.isDigit = true) :
    ofDigits (chars.filterMap asciiDigit?) = Nat.ofDigitChars 10 chars 0 := by
  have digitOf (char : Char) (member : char ∈ chars) :
      asciiDigit? char = some (char.toNat - '0'.toNat) := by
    have found := isSome_asciiDigit?_iff.mpr (areDigits char member)
    unfold asciiDigit? at found ⊢
    split at found
    · next within => rw [if_pos within]
    · cases found
  have mapped :
      chars.filterMap asciiDigit? =
        chars.map fun char => char.toNat - '0'.toNat := by
    rw [← List.filterMap_eq_map]
    exact List.filterMap_congr digitOf
  rw [mapped, ofDigits, List.foldl_map, Nat.ofDigitChars_eq_foldl]

/-- A number is read again from its digits, unless they are too many. -/
theorem readInteger_repr
    {value : Nat}
    (short : (Nat.repr value).length ≤ digitLimit) :
    readInteger (Nat.repr value) = .ok value := by
  have chars : (Nat.repr value).toList = Nat.toDigits 10 value :=
    Nat.toList_repr
  have areDigits :
      ∀ char ∈ (Nat.repr value).toList, char.isDigit = true := by
    rw [chars]
    exact fun _ => Nat.isDigit_of_mem_toDigits (by decide) (by decide)
  have areAscii :
      ∀ char ∈ (Nat.repr value).toList, (asciiDigit? char).isSome = true :=
    fun char member => isSome_asciiDigit?_iff.mpr (areDigits char member)
  have length :
      ((Nat.repr value).toList.filterMap asciiDigit?).length =
        (Nat.repr value).length :=
    (List.filterMap_length_eq_length.mpr areAscii).trans
      String.length_toList
  rw [readInteger_of_asciiDigits Nat.repr_ne_empty areAscii, integerOf,
    length, if_neg (Nat.not_lt.mpr short),
    ofDigits_filterMap_asciiDigit? areDigits, chars,
    Nat.ofDigitChars_ten_toDigits]
  rfl

end ShardAtlas.Text
