import ShardAtlas.Proofs.SpacedNumerals
import ShardAtlas.Refresh.Interval

namespace ShardAtlas

/-!
# The texts of intervals

An interval is read from a text that was remembered and from one that an operator gives. The
first reader takes blanks off and refuses negative numbers, the second one knows the labels and
takes off white space only. Apart from labels and separators they agree, and both read every
number that is written out, unless it has too many digits.
-/

namespace Refresh

/-- Whether a text is the label of an interval on offer. -/
def IsLabel
    (text : String) :
    Prop :=
  ∃ choice ∈ choices, choice.label = text

instance
    (text : String) :
    Decidable (IsLabel text) :=
  inferInstanceAs (Decidable (∃ choice ∈ choices, _))

/-- A text that is no label is taken for a number of milliseconds. -/
theorem readChoice_of_not_isLabel
    {text : String}
    (noLabel : ¬IsLabel text) :
    readChoice text =
      (Text.readInteger text).mapError fun _ => { value := .text text } := by
  have notFound :
      (choices.find? fun choice => choice.label == text) = none := by
    rw [List.find?_eq_none]
    intro choice member same
    exact noLabel ⟨choice, member, eq_of_beq same⟩
  rw [readChoice, notFound]
  cases Text.readInteger text <;> rfl

/-- A text that is no label is taken for an interval just if it is read as one. -/
theorem readChoice_eq_ok_iff
    {text : String}
    (noLabel : ¬IsLabel text)
    (interval : Int) :
    readChoice text = .ok interval ↔
      Text.readInteger text = .ok interval := by
  rw [readChoice_of_not_isLabel noLabel]
  cases Text.readInteger text <;> simp [Except.mapError]

/-- A remembered text stands for what is read between blanks, if that is not negative. -/
theorem readRemembered?_eq_some_iff
    {text : String}
    {interval : Int} :
    readRemembered? text = some interval ↔
      Text.readInteger (Text.withoutBlanks text) = .ok interval ∧
        0 ≤ interval := by
  unfold readRemembered?
  cases Text.readInteger (Text.withoutBlanks text) with
  | error fault =>
      simp
  | ok found =>
      by_cases negative : found < 0
      · simp only [negative, if_true, Except.ok.injEq]
        refine iff_of_false nofun ?_
        rintro ⟨rfl, notNegative⟩
        omega
      · simp only [negative, if_false, Option.some.injEq, Except.ok.injEq]
        refine ⟨?_, And.left⟩
        rintro rfl
        exact ⟨rfl, Int.not_lt.mp negative⟩

/-- The number with some digits is no label. -/
theorem not_isLabel_repr
    (value : Nat) :
    ¬IsLabel (Nat.repr value) := by
  have noNumbers :
      ∀ choice ∈ choices,
        choice.label.toList.all (·.isDigit) = false := by
    decide
  rintro ⟨choice, member, same⟩
  have noNumber := noNumbers choice member
  rw [same, Nat.toList_repr, List.all_eq_false] at noNumber
  obtain ⟨char, isPart, noDigit⟩ := noNumber
  exact
    noDigit (Nat.isDigit_of_mem_toDigits (by decide) (by decide) isPart)

/-- A text that is no label and has no separators is read alike in both ways. -/
theorem readRemembered?_eq_some_iff_readChoice
    {text : String}
    (noLabel : ¬IsLabel text)
    (noSeparator : ¬Text.HasSeparator text)
    (interval : Int) :
    readRemembered? text = some interval ↔
      readChoice text = .ok interval ∧ 0 ≤ interval := by
  rw [readRemembered?_eq_some_iff, readChoice_eq_ok_iff noLabel,
    Text.readInteger_withoutBlanks noSeparator]

/-- A chosen interval that is not negative is remembered. -/
theorem readRemembered?_of_readChoice
    {text : String}
    {interval : Int}
    (noLabel : ¬IsLabel text)
    (notNegative : 0 ≤ interval)
    (chosen : readChoice text = .ok interval) :
    readRemembered? text = some interval := by
  rw [readChoice_eq_ok_iff noLabel] at chosen
  exact
    readRemembered?_eq_some_iff.mpr
      ⟨Text.readInteger_withoutBlanks_of_readInteger chosen, notNegative⟩

/-- A remembered text can be chosen just if it has no separators. -/
theorem readChoice_iff_not_hasSeparator
    {text : String}
    {interval : Int}
    (noLabel : ¬IsLabel text)
    (remembered : readRemembered? text = some interval) :
    readChoice text = .ok interval ↔ ¬Text.HasSeparator text := by
  constructor
  · intro chosen
    rw [readChoice_eq_ok_iff noLabel] at chosen
    exact Text.not_hasSeparator_of_readInteger chosen
  · intro noSeparator
    exact
      ((readRemembered?_eq_some_iff_readChoice noLabel noSeparator
        interval).mp remembered).1

/-- Without separators, a text is not remembered just if it is refused or negative. -/
theorem readRemembered?_eq_none_iff
    {text : String}
    (noLabel : ¬IsLabel text)
    (noSeparator : ¬Text.HasSeparator text) :
    readRemembered? text = none ↔
      readChoice text = .error { value := .text text } ∨
        ∃ interval < 0, readChoice text = .ok interval := by
  have agree :=
    readRemembered?_eq_some_iff_readChoice noLabel noSeparator
  have outcome := readChoice_of_not_isLabel noLabel
  rw [Option.eq_none_iff_forall_not_mem]
  simp only [Option.mem_def, agree]
  cases read : Text.readInteger text with
  | error fault =>
      rw [read] at outcome
      simp [outcome, Except.mapError]
  | ok found =>
      rw [read] at outcome
      simp [outcome, Except.mapError]

/-- A number is read again from its text, by itself and between blanks. -/
theorem reads_integer
    {value : Nat}
    (short : (Text.integer value).length ≤ Text.digitLimit) :
    readChoice (Text.integer value) = .ok (value : Int) ∧
      ∀ front back, Text.IsBlank front → Text.IsBlank back →
        readRemembered? (front ++ Text.integer value ++ back) =
          some (value : Int) := by
  have written : Text.integer value = Nat.repr value := by
    simp [Text.integer]
  rw [written] at short ⊢
  have chosen : readChoice (Nat.repr value) = .ok (value : Int) :=
    (readChoice_eq_ok_iff (not_isLabel_repr value) _).mpr
      (Text.readInteger_repr short)
  refine ⟨chosen, ?_⟩
  intro front back frontBlank backBlank
  have remembered :=
    readRemembered?_of_readChoice (not_isLabel_repr value)
      (Int.natCast_nonneg value) chosen
  rw [readRemembered?_eq_some_iff] at remembered ⊢
  rwa [Text.withoutBlanks_append_append _ frontBlank backBlank]

/--
Both readers of intervals agree on texts that are no labels, and both undo printing.

They differ on separators alone, of which only blanks are taken off, and on negative numbers,
which are not remembered.
-/
theorem readers_agree_and_undo_printing :
    (∀ text, ¬IsLabel text →
      (∀ interval, 0 ≤ interval →
        readChoice text = .ok interval →
          readRemembered? text = some interval) ∧
        (∀ interval, readRemembered? text = some interval →
          (readChoice text = .ok interval ↔ ¬Text.HasSeparator text)) ∧
        (¬Text.HasSeparator text →
          (readRemembered? text = none ↔
            readChoice text = .error { value := .text text } ∨
              ∃ interval < 0, readChoice text = .ok interval))) ∧
      ∀ value : Nat,
        (Text.integer value).length ≤ Text.digitLimit →
          readChoice (Text.integer value) = .ok (value : Int) ∧
            ∀ front back, Text.IsBlank front → Text.IsBlank back →
              readRemembered? (front ++ Text.integer value ++ back) =
                some (value : Int) := by
  refine ⟨fun text noLabel => ⟨?_, ?_, ?_⟩, fun _ => reads_integer⟩
  · intro interval notNegative chosen
    exact readRemembered?_of_readChoice noLabel notNegative chosen
  · intro interval remembered
    exact readChoice_iff_not_hasSeparator noLabel remembered
  · intro noSeparator
    exact readRemembered?_eq_none_iff noLabel noSeparator

/-- A signed number in digits of two scripts, one behind a separator, and one between blanks. -/
theorem readers_on_strangeTexts :
    let mixed := "\u00a0+5_0\u0663\n"
    let separated := "\x1c7"
    ¬IsLabel mixed ∧
      readChoice mixed = .ok 503 ∧
      readRemembered? mixed = some 503 ∧
      ¬IsLabel separated ∧
      readRemembered? separated = some 7 ∧
      Text.HasSeparator separated ∧
      readChoice separated ≠ .ok 7 ∧
      ¬Text.HasSeparator "-1" ∧
      readChoice "-1" = .ok (-1) ∧
      readRemembered? "-1" = none ∧
      readRemembered? ("\x1f " ++ Text.integer 15 ++ "\u3000") =
        some 15 := by
  intro mixed separated
  obtain ⟨agree, undo⟩ := readers_agree_and_undo_printing
  have noLabel : ¬IsLabel mixed := by
    decide
  have chosen : readChoice mixed = .ok 503 :=
    (readChoice_eq_ok_iff noLabel _).mpr (by decide +kernel)
  have noLabelSeparated : ¬IsLabel separated := by
    decide
  have remembered : readRemembered? separated = some 7 := by
    decide +kernel
  have isSeparated : Text.HasSeparator separated := by
    decide +kernel
  have noSeparator : ¬Text.HasSeparator "-1" := by
    decide +kernel
  have noLabelNegative : ¬IsLabel "-1" := by
    decide
  have negative : readChoice "-1" = .ok (-1) :=
    (readChoice_eq_ok_iff noLabelNegative _).mpr (by decide +kernel)
  refine
    ⟨noLabel, chosen, (agree mixed noLabel).1 503 (by decide) chosen,
      noLabelSeparated, remembered, isSeparated, ?_, noSeparator, negative,
      ?_, ?_⟩
  · intro chosenToo
    exact
      ((agree separated noLabelSeparated).2.1 7 remembered).mp chosenToo
        isSeparated
  · exact
      ((agree "-1" noLabelNegative).2.2 noSeparator).mpr
        (.inr ⟨-1, by decide, negative⟩)
  · exact
      (undo 15 (by decide +kernel)).2 _ _ (by decide +kernel)
        (by decide +kernel)

end Refresh

end ShardAtlas
