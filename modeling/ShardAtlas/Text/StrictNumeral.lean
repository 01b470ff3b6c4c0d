import ShardAtlas.Text.Numeral

namespace ShardAtlas.Text

/-!
# Integer numerals in documents

A plain numeral is a zero, or ASCII digits led by another one, behind an optional
minus. A text that is no plain numeral is tidied: white space around it, a plus,
leading zeros, a fraction of zeros and single underscores are taken out. What is
left must be a plain numeral.

Zeros are dropped up to the first other digit, whatever separators stand between
them, and a minus may stand behind them: it is then the sign of the number.
-/

/-- Whether a character is a digit other than zero. -/
def leadsNumeral
    (char : Char) :
    Bool :=
  '1' ≤ char && char ≤ '9'

/-- An optional minus and what stands behind it. -/
def minusBefore
    (chars : List Char) :
    Bool × List Char :=
  match chars with
  | '-' :: rest =>
      (true, rest)
  | _ =>
      (false, chars)

/--
The integer of digits that begin with another one than zero.

The sign counts among the digits, and they are counted before it is known whether
something else stands behind them.
-/
def readLedDigits
    (negative : Bool)
    (chars : List Char) :
    Except NumeralFault Int :=
  let digits := chars.takeWhile fun char => (asciiDigit? char).isSome
  let length := digits.length + negative.toNat
  if digitLimit < length then
    .error (.tooLong length)
  else if digits.length < chars.length then
    .error .unreadable
  else
    .ok (withSign negative (ofDigits (digits.filterMap asciiDigit?)))

/-- The integer of a plain numeral. -/
def readPlainInteger
    (chars : List Char) :
    Except NumeralFault Int :=
  let (negative, unsigned) := minusBefore chars
  match unsigned with
  | ['0'] =>
      .ok 0
  | first :: _ =>
      if leadsNumeral first then
        readLedDigits negative unsigned
      else
        .error .unreadable
  | [] =>
      .error .unreadable

/--
What is left behind a leading zero, given the character before.

Where nothing but zeros and underscores follows, the last of them is left; in
front of a point, the character before it.
-/
def afterZeros?
    (before : Char) :
    List Char →
    Option (List Char)
  | [] =>
      some [before]
  | char :: rest =>
      if char = '0' ∨ char = '_' then
        afterZeros? char rest
      else if char = '-' ∨ leadsNumeral char then
        some (char :: rest)
      else if char = '.' then
        some (before :: char :: rest)
      else
        none

/-- Characters without leading zeros; none if they do not begin a number. -/
def withoutZeros?
    (chars : List Char) :
    Option (List Char) :=
  match chars with
  | '0' :: rest =>
      afterZeros? '0' rest
  | first :: _ =>
      if first = '-' ∨ leadsNumeral first then
        some chars
      else
        none
  | [] =>
      none

/-- Characters without a fraction of zeros at the end. -/
def withoutZeroFraction
    (chars : List Char) :
    List Char :=
  match chars.dropWhile (· != '.') with
  | '.' :: zero :: zeros =>
      if (zero :: zeros).all (· == '0') then
        chars.takeWhile (· != '.')
      else
        chars
  | _ =>
      chars

/-- Whether every underscore stands alone between two other characters. -/
def separatesSingly :
    List Char →
    Bool
  | [] => true
  | ['_'] => false
  | '_' :: '_' :: _ => false
  | _ :: rest => separatesSingly rest

/-- Characters without underscores, if each stands alone between two others. -/
def withoutSeparators
    (chars : List Char) :
    List Char :=
  if chars.head? ≠ some '_' ∧ separatesSingly chars then
    chars.filter (· != '_')
  else
    chars

/-- Characters without a plus in front, unless a minus stands behind it. -/
def withoutPlus?
    (chars : List Char) :
    Option (List Char) :=
  match chars with
  | '+' :: '-' :: _ =>
      none
  | '+' :: rest =>
      some rest
  | _ =>
      some chars

/-- The tidied form of a text, if it begins like a number. -/
def tidied?
    (chars : List Char) :
    Option (List Char) := do
  let unmarked ← withoutPlus? (trimmed isWhiteSpace chars)
  let (negative, unsigned) := minusBefore unmarked
  let led ← withoutZeros? unsigned
  pure
    (withoutSeparators
      (withoutZeroFraction (if negative then '-' :: led else led)))

/--
The integer of a text in the strict spelling.

Only a plain numeral is too long; a tidied one that is as long is unreadable.
-/
def readStrictInteger
    (text : String) :
    Except NumeralFault Int :=
  match readPlainInteger text.toList with
  | .error .unreadable =>
      match (tidied? text.toList).map readPlainInteger with
      | some (.ok value) =>
          .ok value
      | _ =>
          .error .unreadable
  | outcome =>
      outcome

end ShardAtlas.Text
