import Mathlib.Data.List.TakeWhile
import ShardAtlas.Proofs.Numerals

namespace ShardAtlas.Text

/-!
# Numerals between blanks

Every numeral stands between white space that is taken off. No character of a numeral is blank,
so nothing changes where blanks are taken off before, unless a separator goes away with them:
a separator is blank, but no white space, and a text with one in it is no numeral.
-/

section

variable {drops : Char → Bool}

/-- Characters at the ends that are dropped make no difference. -/
theorem trimmed_append_append
    {front back : List Char}
    (chars : List Char)
    (frontDropped : ∀ char ∈ front, drops char = true)
    (backDropped : ∀ char ∈ back, drops char = true) :
    trimmed drops (front ++ chars ++ back) = trimmed drops chars := by
  have reversed : ∀ char ∈ back.reverse, drops char = true :=
    fun char member => backDropped char (List.mem_reverse.mp member)
  rw [trimmed, trimmed, List.append_assoc,
    List.dropWhile_append_of_pos frontDropped, List.dropWhile_append]
  split
  · next nothingLeft =>
      rw [List.isEmpty_iff.mp nothingLeft,
        List.dropWhile_eq_nil_iff.mpr backDropped]
  · rw [List.reverse_append, List.dropWhile_append_of_pos reversed]

/-- What is trimmed away at the ends is all dropped. -/
theorem exists_eq_append_trimmed
    (drops : Char → Bool)
    (chars : List Char) :
    ∃ front back,
      (∀ char ∈ front, drops char = true) ∧
        (∀ char ∈ back, drops char = true) ∧
        chars = front ++ trimmed drops chars ++ back := by
  refine
    ⟨chars.takeWhile drops,
      ((chars.dropWhile drops).reverse.takeWhile drops).reverse,
      fun _ => List.mem_takeWhile_imp,
      fun _ member => List.mem_takeWhile_imp (List.mem_reverse.mp member), ?_⟩
  rw [trimmed, List.append_assoc, ← List.reverse_append,
    List.takeWhile_append_dropWhile, List.reverse_reverse,
    List.takeWhile_append_dropWhile]

/-- Trimming twice is trimming once. -/
theorem trimmed_trimmed
    (drops : Char → Bool)
    (chars : List Char) :
    trimmed drops (trimmed drops chars) = trimmed drops chars := by
  obtain ⟨front, back, frontDropped, backDropped, shape⟩ :=
    exists_eq_append_trimmed drops chars
  have same :=
    trimmed_append_append (trimmed drops chars) frontDropped backDropped
  rw [← shape] at same
  exact same.symm

/-- Classes that agree on some characters trim them alike. -/
theorem trimmed_congr
    {others : Char → Bool}
    {chars : List Char}
    (agree : ∀ char ∈ chars, drops char = others char) :
    trimmed drops chars = trimmed others chars := by
  have within
      (kept : List Char)
      (isPart : ∀ char ∈ kept, char ∈ chars) :
      kept.dropWhile drops = kept.dropWhile others := by
    induction kept with
    | nil => rfl
    | cons first rest inductionHypothesis =>
        obtain ⟨firstPart, restPart⟩ := List.forall_mem_cons.mp isPart
        rw [List.dropWhile_cons, List.dropWhile_cons, agree first firstPart,
          inductionHypothesis restPart]
  rw [trimmed, trimmed, within chars fun _ member => member,
    within _ fun char member =>
      (List.dropWhile_suffix others).subset (List.mem_reverse.mp member)]

end

/-- Whether a character can stand in a numeral: a sign, a separator or a digit. -/
def isNumeralChar
    (char : Char) :
    Bool :=
  char == '-' || char == '+' || char == '_' || (decimalDigit? char).isSome

/-- The characters of numerals are not blank. -/
theorem isBlank_of_isNumeralChar
    {char : Char}
    (isPart : isNumeralChar char = true) :
    isBlank char = false := by
  simp only [isNumeralChar, Bool.or_eq_true, beq_iff_eq] at isPart
  rcases isPart with ((rfl | rfl) | rfl) | isDigit
  · decide
  · decide
  · decide
  · exact isBlank_of_decimalDigit isDigit

/-- Further digits up to the end have numeral characters only. -/
theorem isNumeralChar_of_moreDigits
    {chars : List Char}
    (ends : (moreDigits chars).2 = []) :
    ∀ char ∈ chars, isNumeralChar char = true := by
  fun_induction moreDigits chars with
  | case1 char rest digit isDigit digits after found inductionHypothesis =>
      have behind := inductionHypothesis (by rw [found]; exact ends)
      have first : isNumeralChar char = true := by
        simp [isNumeralChar, isDigit]
      exact
        List.forall_mem_cons.mpr
          ⟨rfl, List.forall_mem_cons.mpr ⟨first, behind⟩⟩
  | case2 =>
      cases ends
  | case3 char rest _ digit isDigit digits after found inductionHypothesis =>
      have behind := inductionHypothesis (by rw [found]; exact ends)
      have first : isNumeralChar char = true := by
        simp [isNumeralChar, isDigit]
      exact List.forall_mem_cons.mpr ⟨first, behind⟩
  | case4 =>
      cases ends
  | case5 =>
      exact nofun

/-- A group of digits up to the end has numeral characters only. -/
theorem isNumeralChar_of_digitGroup?
    {chars : List Char}
    {digits : List Nat}
    (isGroup : digitGroup? chars = some (digits, [])) :
    ∀ char ∈ chars, isNumeralChar char = true := by
  cases chars with
  | nil =>
      cases isGroup
  | cons first rest =>
      obtain ⟨digit, isDigit, read⟩ := Option.map_eq_some_iff.mp isGroup
      have isFirst : isNumeralChar first = true := by
        simp [isNumeralChar, isDigit]
      exact
        List.forall_mem_cons.mpr
          ⟨isFirst, isNumeralChar_of_moreDigits (congrArg Prod.snd read)⟩

/-- What is read as an integer has numeral characters only. -/
theorem isNumeralChar_of_readBareInteger
    {chars : List Char}
    {value : Int}
    (isRead : readBareInteger chars = .ok value) :
    ∀ char ∈ chars, isNumeralChar char = true := by
  have unsignedChars :
      ∀ char ∈ (signed chars).2, isNumeralChar char = true := by
    unfold readBareInteger at isRead
    split at isRead
    next negative unsigned shape =>
      split at isRead
      · next digits isGroup =>
          rw [shape]
          exact isNumeralChar_of_digitGroup? isGroup
      · cases isRead
  unfold signed at unsignedChars
  split at unsignedChars
  · exact List.forall_mem_cons.mpr ⟨rfl, unsignedChars⟩
  · exact List.forall_mem_cons.mpr ⟨rfl, unsignedChars⟩
  · exact unsignedChars

/-- A text that is read has numeral characters only, with white space around them. -/
theorem isNumeralChar_of_readInteger
    {text : String}
    {value : Int}
    (isRead : readInteger text = .ok value) :
    ∀ char ∈ text.toList,
      isWhiteSpace char = true ∨ isNumeralChar char = true := by
  obtain ⟨front, back, frontWhite, backWhite, shape⟩ :=
    exists_eq_append_trimmed isWhiteSpace text.toList
  have middle := isNumeralChar_of_readBareInteger isRead
  intro char member
  rw [shape, List.mem_append, List.mem_append] at member
  rcases member with (inFront | inMiddle) | inBack
  · exact .inl (frontWhite char inFront)
  · exact .inr (middle char inMiddle)
  · exact .inl (backWhite char inBack)

/-- A text that is read is read in the same way when blanks are taken off its ends. -/
theorem readInteger_withoutBlanks_of_readInteger
    {text : String}
    {value : Int}
    (isRead : readInteger text = .ok value) :
    readInteger (withoutBlanks text) = .ok value := by
  obtain ⟨front, back, frontWhite, backWhite, shape⟩ :=
    exists_eq_append_trimmed isWhiteSpace text.toList
  have notBlank :
      ∀ char ∈ trimmed isWhiteSpace text.toList, isBlank char = false :=
    fun char member =>
      isBlank_of_isNumeralChar
        (isNumeralChar_of_readBareInteger isRead char member)
  have stripped :
      trimmed isBlank text.toList = trimmed isWhiteSpace text.toList := by
    rw [shape,
      trimmed_append_append _
        (fun char member => isBlank_of_isWhiteSpace (frontWhite char member))
        (fun char member => isBlank_of_isWhiteSpace (backWhite char member)),
      trimmed_append_append _ frontWhite backWhite, trimmed_trimmed,
      trimmed_eq_self notBlank]
  rw [readInteger, withoutBlanks, String.toList_ofList, stripped,
    trimmed_trimmed]
  exact isRead

/-- Whether a text has blanks only. -/
def IsBlank
    (text : String) :
    Prop :=
  ∀ char ∈ text.toList, isBlank char = true

/-- Whether an information separator stands in a text. -/
def HasSeparator
    (text : String) :
    Prop :=
  ∃ char ∈ text.toList, informationSeparators.holds char.toNat = true

instance
    (text : String) :
    Decidable (IsBlank text) :=
  List.decidableBAll _ text.toList

instance
    (text : String) :
    Decidable (HasSeparator text) :=
  List.decidableBEx _ text.toList

/-- Blanks at the ends make no difference where blanks are taken off. -/
theorem withoutBlanks_append_append
    {front back : String}
    (text : String)
    (frontBlank : IsBlank front)
    (backBlank : IsBlank back) :
    withoutBlanks (front ++ text ++ back) = withoutBlanks text := by
  rw [withoutBlanks, String.toList_append, String.toList_append,
    trimmed_append_append _ frontBlank backBlank, withoutBlanks]

/-- Without separators blanks are white space, which is taken off anyway. -/
theorem readInteger_withoutBlanks
    {text : String}
    (noSeparator : ¬HasSeparator text) :
    readInteger (withoutBlanks text) = readInteger text := by
  have agree :
      ∀ char ∈ text.toList, isBlank char = isWhiteSpace char := by
    intro char member
    have other : informationSeparators.holds char.toNat = false := by
      rw [← Bool.not_eq_true]
      exact fun isSeparator => noSeparator ⟨char, member, isSeparator⟩
    rw [isBlank, other, Bool.or_false]
  rw [readInteger, withoutBlanks, String.toList_ofList, trimmed_congr agree,
    trimmed_trimmed, readInteger]

/-- No separator stands in a text that is read. -/
theorem not_hasSeparator_of_readInteger
    {text : String}
    {value : Int}
    (isRead : readInteger text = .ok value) :
    ¬HasSeparator text := by
  rintro ⟨char, member, isSeparator⟩
  rcases isNumeralChar_of_readInteger isRead char member with white | isPart
  · have apart :
        ∀ range ∈ whiteSpace,
          range.last < informationSeparators.first ∨
            informationSeparators.last < range.first := by
      decide
    obtain ⟨range, isRange, within⟩ := List.any_eq_true.mp white
    have separate := apart range isRange
    rw [CodeRange.holds_iff] at within isSeparator
    omega
  · have notBlank := isBlank_of_isNumeralChar isPart
    rw [isBlank, isSeparator, Bool.or_true] at notBlank
    cases notBlank

end ShardAtlas.Text
