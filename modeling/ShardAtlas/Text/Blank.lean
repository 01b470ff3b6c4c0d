import ShardAtlas.Text.CodeRange

namespace ShardAtlas.Text

/-!
# Blank characters

Two classes are in use. White space is the property of that name in the
character standard and surrounds numerals. Blanks add the four information
separators and surround names.
-/

/-- The characters with the property White_Space. -/
def whiteSpace : List CodeRange :=
  [ ⟨0x0009, 0x000d⟩, ⟨0x0020, 0x0020⟩, ⟨0x0085, 0x0085⟩, ⟨0x00a0, 0x00a0⟩,
    ⟨0x1680, 0x1680⟩, ⟨0x2000, 0x200a⟩, ⟨0x2028, 0x2029⟩, ⟨0x202f, 0x202f⟩,
    ⟨0x205f, 0x205f⟩, ⟨0x3000, 0x3000⟩ ]

/-- The four information separators. -/
def informationSeparators : CodeRange :=
  ⟨0x001c, 0x001f⟩

/-- Whether a character is white space. -/
def isWhiteSpace
    (char : Char) :
    Bool :=
  liesIn whiteSpace char

/-- Whether a character is blank: white space or an information separator. -/
def isBlank
    (char : Char) :
    Bool :=
  isWhiteSpace char || informationSeparators.holds char.toNat

/-- Characters without those of a class at either end. -/
def trimmed
    (drops : Char → Bool)
    (chars : List Char) :
    List Char :=
  ((chars.dropWhile drops).reverse.dropWhile drops).reverse

/-- A text without blanks at either end. -/
def withoutBlanks
    (text : String) :
    String :=
  String.ofList (trimmed isBlank text.toList)

/-- White space is blank. -/
theorem isBlank_of_isWhiteSpace
    {char : Char}
    (white : isWhiteSpace char = true) :
    isBlank char = true := by
  simp [isBlank, white]

/-- A character is blank just if it lies in one of the ranges of blanks. -/
theorem isBlank_iff
    {char : Char} :
    isBlank char = true ↔
      ∃ range ∈ informationSeparators :: whiteSpace,
        range.holds char.toNat = true := by
  rw [← List.any_eq_true, List.any_cons, isBlank, isWhiteSpace, liesIn,
    Bool.or_comm]

end ShardAtlas.Text
