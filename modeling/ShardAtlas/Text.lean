namespace ShardAtlas

/-!
# Texts

An escape in a document may name one half of a surrogate pair without the other
one. Such a half is no character and has no place in a string. A text is a string
with the unpaired halves behind it, and the string behind each of them; nearly all
texts are strings.
-/

/-- One half of a surrogate pair, by its place among all of them. -/
structure Surrogate where
  place : Fin 0x800
  deriving Repr, DecidableEq

namespace Surrogate

/-- The first code point of a half. -/
def firstCode : Nat :=
  0xd800

/-- The code point of a half. -/
def code
    (half : Surrogate) :
    Nat :=
  firstCode + half.place.val

/-- The half with a code point. -/
def ofCode?
    (code : Nat) :
    Option Surrogate :=
  if within : firstCode ≤ code ∧ code < firstCode + 0x800 then
    some ⟨⟨code - firstCode, by omega⟩⟩
  else
    none

/-- A half is the one with its code point. -/
theorem ofCode?_code
    (half : Surrogate) :
    ofCode? half.code = some half := by
  simp [ofCode?, code]

/-- A character is no half. -/
theorem ofCode?_toNat
    (char : Char) :
    ofCode? char.toNat = none := by
  have valid : char.toNat.isValidChar := char.valid
  have first : firstCode = 0xd800 := rfl
  apply dif_neg
  intro within
  unfold Nat.isValidChar at valid
  omega

end Surrogate

/-- A string, and the unpaired halves behind it, each with what follows it. -/
structure Text where
  lead : String
  behind : List (Surrogate × String) := []
  deriving Repr, DecidableEq

namespace Text

instance : Coe String Text :=
  ⟨fun content => { lead := content }⟩

instance : Inhabited Text :=
  ⟨{ lead := "" }⟩

/-- The string that a text is, if there is no half in it. -/
def whole?
    (text : Text) :
    Option String :=
  if text.behind.isEmpty then
    some text.lead
  else
    none

/-- A string is a text without halves. -/
@[simp] theorem whole?_coe
    (content : String) :
    (content : Text).whole? = some content := by
  simp [whole?]

/-- A text without halves is a string. -/
theorem whole?_eq_some_iff
    (text : Text)
    (content : String) :
    text.whole? = some content ↔ text = (content : Text) := by
  rcases text with ⟨lead, behind⟩
  cases behind <;> simp [whole?]

/-- The strings between the halves. -/
def pieces
    (text : Text) :
    List String :=
  text.lead :: text.behind.map Prod.snd

/-- The code points of a string. -/
def charCodes
    (content : String) :
    List Nat :=
  content.toList.map Char.toNat

/-- The code points of a text. -/
def codes
    (text : Text) :
    List Nat :=
  charCodes text.lead ++
    text.behind.flatMap fun (half, following) =>
      half.code :: charCodes following

/-- Code points up to the first half, and the halves with what follows them. -/
def splitCodes :
    List Nat →
    List Char × List (Surrogate × List Char)
  | [] =>
      ([], [])
  | code :: rest =>
      let (chars, behind) := splitCodes rest
      match Surrogate.ofCode? code with
      | some half => ([], (half, chars) :: behind)
      | none => (Char.ofNat code :: chars, behind)

/-- The text with some code points. -/
def ofCodes
    (codes : List Nat) :
    Text :=
  let (chars, behind) := splitCodes codes
  { lead := String.ofList chars
    behind :=
      behind.map fun (half, following) =>
        (half, String.ofList following) }

/-- Characters are read before what follows them. -/
theorem splitCodes_append
    (chars : List Char)
    (rest : List Nat) :
    splitCodes (chars.map Char.toNat ++ rest) =
      (chars ++ (splitCodes rest).1, (splitCodes rest).2) := by
  induction chars with
  | nil =>
      rfl
  | cons char chars step =>
      simp [splitCodes, step, Surrogate.ofCode?_toNat]

/-- A half ends the characters before it and starts what is behind them. -/
theorem splitCodes_behind
    (behind : List (Surrogate × String)) :
    splitCodes
        (behind.flatMap fun (half, following) =>
          half.code :: charCodes following) =
      ([], behind.map fun (half, following) =>
        (half, following.toList)) := by
  induction behind with
  | nil =>
      rfl
  | cons first behind step =>
      simp [splitCodes, charCodes, splitCodes_append,
        Surrogate.ofCode?_code, List.flatMap_cons] at step ⊢
      simp [step]

/-- A text is the one with its code points. -/
theorem ofCodes_codes
    (text : Text) :
    ofCodes text.codes = text := by
  rcases text with ⟨lead, behind⟩
  simp [ofCodes, codes, charCodes, splitCodes_append]
  have split := splitCodes_behind behind
  simp [charCodes] at split
  simp [split, Function.comp_def]

/-- Whether a text comes no later than another one, by code points. -/
def noLater
    (first second : Text) :
    Bool :=
  !List.lex second.codes first.codes fun left right => left < right

/-- The character that stands for a half where texts are shown. -/
def replacement : String :=
  "\ufffd"

/-- A text as it can be shown. -/
def shown
    (text : Text) :
    String :=
  text.behind.foldl
    (fun start (_, following) => start ++ replacement ++ following)
    text.lead

/-- A string is shown as it is. -/
@[simp] theorem shown_coe
    (content : String) :
    (content : Text).shown = content :=
  rfl

end Text

end ShardAtlas
