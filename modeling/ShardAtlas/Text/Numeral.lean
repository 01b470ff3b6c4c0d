import ShardAtlas.Text.Blank
import ShardAtlas.Text.DecimalDigit

namespace ShardAtlas.Text

/-!
# Integer numerals

Integers are written with a sign and decimal digits of any script, between which
single underscores may stand. No more than 4300 digits are read, and no more are
printed: an integer with more of them stands in no text.
-/

/-- The greatest number of digits that is read or printed. -/
def digitLimit : Nat :=
  4300

/-- Why a text is no integer. -/
inductive NumeralFault
  | unreadable
  | tooLong (digits : Nat)
  deriving Repr, DecidableEq

/-- The natural number with some decimal digits, the first one leading. -/
def ofDigits
    (digits : List Nat) :
    Nat :=
  digits.foldl (fun value digit => 10 * value + digit) 0

/-- Further digits after a first one, and the characters behind them. -/
def moreDigits :
    List Char →
    List Nat × List Char
  | '_' :: char :: rest =>
      match decimalDigit? char with
      | some digit =>
          let (digits, after) := moreDigits rest
          (digit :: digits, after)
      | none =>
          ([], '_' :: char :: rest)
  | char :: rest =>
      match decimalDigit? char with
      | some digit =>
          let (digits, after) := moreDigits rest
          (digit :: digits, after)
      | none =>
          ([], char :: rest)
  | [] =>
      ([], [])

/-- Digits with single underscores between them, and what stands behind. -/
def digitGroup? :
    List Char →
    Option (List Nat × List Char)
  | [] =>
      none
  | char :: rest =>
      (decimalDigit? char).map fun digit =>
        let (digits, after) := moreDigits rest
        (digit :: digits, after)

/-- An optional sign and what stands behind it. -/
def signed
    (chars : List Char) :
    Bool × List Char :=
  match chars with
  | '-' :: rest =>
      (true, rest)
  | '+' :: rest =>
      (false, rest)
  | _ =>
      (false, chars)

/-- An integer by its sign and magnitude. -/
def withSign
    (negative : Bool)
    (magnitude : Nat) :
    Int :=
  if negative then
    -(magnitude : Int)
  else
    magnitude

/-- The integer with a sign and digits, unless the digits are too many. -/
def integerOf
    (negative : Bool)
    (digits : List Nat) :
    Except NumeralFault Int :=
  if digitLimit < digits.length then
    .error (.tooLong digits.length)
  else
    .ok (withSign negative (ofDigits digits))

/-- The integer of a text without white space around it. -/
def readBareInteger
    (chars : List Char) :
    Except NumeralFault Int :=
  let (negative, unsigned) := signed chars
  match digitGroup? unsigned with
  | some (digits, []) =>
      integerOf negative digits
  | _ =>
      .error .unreadable

/-- The integer of a text with white space around it. -/
def readInteger
    (text : String) :
    Except NumeralFault Int :=
  readBareInteger (trimmed isWhiteSpace text.toList)

/-- An integer in decimal digits, with a sign if it is negative. -/
def integer
    (value : Int) :
    String :=
  if value < 0 then
    "-" ++ Nat.repr value.natAbs
  else
    Nat.repr value.natAbs

/-- The least number with more digits than are printed. -/
@[irreducible]
def printLimit : Nat :=
  Nat.pow 10 digitLimit

/-- Whether an integer has no more digits than are printed. -/
def FitsDigits
    (value : Int) :
    Prop :=
  value.natAbs < printLimit

/-- Whether an integer has too many digits is told by comparing it with the limit. -/
instance decidableFitsDigits
    (value : Int) :
    Decidable (FitsDigits value) :=
  inferInstanceAs (Decidable (value.natAbs < printLimit))

/-- The limit itself has too many digits. -/
theorem not_fitsDigits_printLimit :
    ¬FitsDigits printLimit := by
  rw [FitsDigits, Int.natAbs_natCast]
  exact Nat.lt_irrefl printLimit

/-- An integer that has more digits than are printed. -/
structure LongInteger where
  value : Int
  isLong : ¬FitsDigits value
  deriving Repr, DecidableEq

/-- The text about an integer that has too many digits. -/
def LongInteger.message
    (_ : LongInteger) :
    String :=
  "Exceeds the limit (" ++ Nat.repr digitLimit ++
    " digits) for integer string conversion; " ++
    "use sys.set_int_max_str_digits() to increase the limit"

/-- An integer in decimal digits, unless it has too many of them. -/
def printed
    (value : Int) :
    Except LongInteger String :=
  if fits : FitsDigits value then
    .ok (integer value)
  else
    .error
      { value := value
        isLong := fits }

/-- An integer is printed just if it does not have too many digits. -/
theorem isOk_printed_iff
    (value : Int) :
    (printed value).isOk = true ↔ FitsDigits value := by
  unfold printed
  split
  · next fits =>
      exact iff_of_true rfl fits
  · next isLong =>
      exact iff_of_false Bool.false_ne_true isLong

/-- What cannot be printed is the integer itself. -/
theorem printed_eq_error_iff
    (value : Int)
    (cause : LongInteger) :
    printed value = .error cause ↔ cause.value = value := by
  unfold printed
  split
  · next fits =>
      refine iff_of_false nofun fun same => cause.isLong ?_
      rwa [same]
  · constructor
    · rintro ⟨⟩
      rfl
    · rintro rfl
      rfl

end ShardAtlas.Text
