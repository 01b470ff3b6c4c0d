import ShardAtlas.Binary64.Decimal
import ShardAtlas.Json
import ShardAtlas.Text.Numeral

namespace ShardAtlas.Json

/-!
# Reading JSON

A reader for JSON texts that says where and why a text is refused. Beyond the
standard it takes `NaN`, `Infinity` and `-Infinity`; a repeated member keeps its
first place and its last value; and an escape may name one half of a surrogate
pair.

Every function returns what it read and the characters behind it. A refusal
carries the characters that were left, from which the position is computed once.
-/

/-- Why a text is no JSON. -/
inductive SyntaxFault
  | value
  | propertyName
  | colon
  | comma
  | extraData
  | unterminatedText
  | controlCharacter
  | escape
  | unicodeEscape
  | byteOrderMark
  deriving Repr, DecidableEq

/-- The text of a refusal. -/
def SyntaxFault.message :
    SyntaxFault →
    String
  | .value => "Expecting value"
  | .propertyName => "Expecting property name enclosed in double quotes"
  | .colon => "Expecting ':' delimiter"
  | .comma => "Expecting ',' delimiter"
  | .extraData => "Extra data"
  | .unterminatedText => "Unterminated string starting at"
  | .controlCharacter => "Invalid control character at"
  | .escape => "Invalid \\escape"
  | .unicodeEscape => "Invalid \\uXXXX escape"
  | .byteOrderMark => "Unexpected UTF-8 BOM (decode using utf-8-sig)"

/-- A kind of value that holds others. -/
inductive Container
  | array
  | object
  deriving Repr, DecidableEq

/-- The name of a kind of value. -/
def Container.name :
    Container →
    String
  | .array => "array"
  | .object => "object"

/-- Why reading stopped, with the characters from the fault on. -/
inductive Stop
  | fault (cause : SyntaxFault) (rest : List Char)
  | longInteger (digits : Nat)
  | tooDeep (container : Container)
  deriving Repr, DecidableEq

/-- How much a text may hold; there may be no limit. -/
structure Limits where
  digits : Option Nat := none
  depth : Option Nat := none
  deriving Repr, DecidableEq

/-- The limits inside a container, or a stop where it may hold nothing. -/
def Limits.inside
    (limits : Limits)
    (container : Container) :
    Except Stop Limits :=
  match limits.depth with
  | none => .ok limits
  | some 0 => .error (.tooDeep container)
  | some (depth + 1) => .ok { limits with depth := some depth }

/-- The characters without blanks in front of them. -/
def skipSpace
    (chars : List Char) :
    List Char :=
  chars.dropWhile fun char =>
    char == ' ' || char == '\t' || char == '\n' || char == '\r'

/-- The value of a hexadecimal digit. -/
def hexDigit?
    (char : Char) :
    Option Nat :=
  if '0' ≤ char ∧ char ≤ '9' then
    some (char.toNat - '0'.toNat)
  else if 'a' ≤ char ∧ char ≤ 'f' then
    some (char.toNat - 'a'.toNat + 10)
  else if 'A' ≤ char ∧ char ≤ 'F' then
    some (char.toNat - 'A'.toNat + 10)
  else
    none

/-- The number written by four hexadecimal digits. -/
def hexUnit?
    (digits : List Char) :
    Option Nat :=
  if digits.length = 4 then
    (digits.mapM hexDigit?).map
      (·.foldl (fun value digit => 16 * value + digit) 0)
  else
    none

/-- Whether a number is the first half of a surrogate pair. -/
def isHighSurrogate
    (code : Nat) :
    Bool :=
  0xd800 ≤ code && code ≤ 0xdbff

/-- Whether a number is the second half of a surrogate pair. -/
def isLowSurrogate
    (code : Nat) :
    Bool :=
  0xdc00 ≤ code && code ≤ 0xdfff

/-- The code point of a surrogate pair. -/
def joinSurrogates
    (high low : Nat) :
    Nat :=
  0x10000 + (high - 0xd800) * 0x400 + (low - 0xdc00)

/--
The code point of an escape, given the characters behind its `u`.

Four digits and a further character must follow. A high surrogate is joined with
an escape directly behind it if that one is a low surrogate and is not the last
thing in the text.
-/
def unicodeEscape
    (afterMarker : List Char) :
    Except Stop (Nat × List Char) :=
  let refusal (rest : List Char) : Except Stop (Nat × List Char) :=
    .error (.fault .unicodeEscape ('u' :: rest))
  let rest := afterMarker.drop 4
  match hexUnit? (afterMarker.take 4), rest with
  | some code, _ :: _ =>
      match rest with
      | '\\' :: 'u' :: second =>
          if isHighSurrogate code ∧ 4 < second.length then
            match hexUnit? (second.take 4) with
            | some low =>
                if isLowSurrogate low then
                  .ok (joinSurrogates code low, second.drop 4)
                else
                  .ok (code, rest)
            | none =>
                refusal second
          else
            .ok (code, rest)
      | _ =>
          .ok (code, rest)
  | _, _ =>
      refusal afterMarker

/-- The character that a short escape stands for. -/
def shortEscape? :
    Char →
    Option Char
  | '"' => some '"'
  | '\\' => some '\\'
  | '/' => some '/'
  | 'b' => some '\x08'
  | 'f' => some '\x0c'
  | 'n' => some '\n'
  | 'r' => some '\r'
  | 't' => some '\t'
  | _ => none

/--
The code points of a text up to its closing quote.

The opening quote and what follows it is kept for the report of a text without
an end. The fuel bounds the number of characters.
-/
def readCodes
    (opening : List Char) :
    Nat →
    List Char →
    Except Stop (List Nat × List Char)
  | 0, _ =>
      .error (.fault .unterminatedText opening)
  | _ + 1, [] =>
      .error (.fault .unterminatedText opening)
  | _ + 1, '"' :: rest =>
      .ok ([], rest)
  | _ + 1, ['\\'] =>
      .error (.fault .unterminatedText opening)
  | fuel + 1, '\\' :: 'u' :: rest => do
      let (code, behind) ← unicodeEscape rest
      let (codes, after) ← readCodes opening fuel behind
      pure (code :: codes, after)
  | fuel + 1, '\\' :: char :: rest =>
      match shortEscape? char with
      | some meant => do
          let (codes, after) ← readCodes opening fuel rest
          pure (meant.toNat :: codes, after)
      | none =>
          .error (.fault .escape ('\\' :: char :: rest))
  | fuel + 1, char :: rest =>
      if char.toNat ≤ 0x1f then
        .error (.fault .controlCharacter (char :: rest))
      else do
        let (codes, after) ← readCodes opening fuel rest
        pure (char.toNat :: codes, after)

/-- A text, given the characters behind its opening quote. -/
def readText
    (rest : List Char) :
    Except Stop (Text × List Char) := do
  let (codes, after) ← readCodes ('"' :: rest) (rest.length + 1) rest
  pure (.ofCodes codes, after)

/-- Leading ASCII digits and what stands behind them. -/
def digitsOf
    (chars : List Char) :
    List Char × List Char :=
  (chars.takeWhile (·.isDigit), chars.dropWhile (·.isDigit))

/-- The digits of a fraction, if a point and a digit stand in front. -/
def fractionOf
    (chars : List Char) :
    List Char × List Char :=
  match chars with
  | '.' :: rest =>
      match digitsOf rest with
      | ([], _) =>
          ([], chars)
      | digits =>
          digits
  | _ =>
      ([], chars)

/-- The digits of an exponent and its sign, if an exponent stands in front. -/
def exponentOf?
    (chars : List Char) :
    Option (Int × List Char) :=
  match chars with
  | mark :: rest =>
      if mark = 'e' ∨ mark = 'E' then
        let (negative, unsigned) := Text.signed rest
        match digitsOf unsigned with
        | ([], _) =>
            none
        | (digits, after) =>
            some
              (Text.withSign negative
                  (Text.ofDigits (digits.filterMap Text.asciiDigit?)),
                after)
      else
        none
  | [] =>
      none

/-- The natural number written by ASCII digits. -/
def naturalOf
    (digits : List Char) :
    Nat :=
  Text.ofDigits (digits.filterMap Text.asciiDigit?)

/-- The digits in front of a fraction: a zero, or digits led by another one. -/
def wholeDigits?
    (chars : List Char) :
    Option (List Char × List Char) :=
  match chars with
  | '0' :: rest =>
      some (['0'], rest)
  | _ =>
      match digitsOf chars with
      | ([], _) =>
          none
      | digits =>
          some digits

/--
A number; an integer if it has neither a fraction nor an exponent.

An integer may have no more digits than the limits say.
-/
def readNumber
    (limits : Limits)
    (chars : List Char) :
    Except Stop (Json × List Char) :=
  let (negative, unsigned) :=
    match chars with
    | '-' :: rest =>
        (true, rest)
    | _ =>
        (false, chars)
  match wholeDigits? unsigned with
  | none =>
      .error (.fault .value chars)
  | some (whole, afterWhole) =>
      let (fraction, afterFraction) := fractionOf afterWhole
      match fraction, exponentOf? afterFraction with
      | [], none =>
          if limits.digits.any (· < whole.length) then
            .error (.longInteger whole.length)
          else
            .ok
              (.integer (Text.withSign negative (naturalOf whole)),
                afterFraction)
      | _, found =>
          let exponent := (found.map Prod.fst).getD 0
          let decimal : Binary64.Decimal :=
            { digits := naturalOf (whole ++ fraction)
              exponent := exponent - fraction.length }
          .ok
            (.float (Binary64.ofDecimal negative decimal),
              (found.map Prod.snd).getD afterFraction)

/-- The values that are written by a word. -/
def words : List (String × Json) :=
  [ ("null", .null),
    ("true", .boolean true),
    ("false", .boolean false),
    ("NaN", .float .nan),
    ("Infinity", .float (.infinite false)),
    ("-Infinity", .float (.infinite true)) ]

/-- A value written by a word, and what stands behind it. -/
def readWord?
    (chars : List Char) :
    Option (Json × List Char) :=
  words.findSome? fun (word, value) =>
    if word.toList.isPrefixOf chars then
      some (value, chars.drop word.length)
    else
      none

mutual

/-- A value, and the characters behind it. -/
def readValue
    (limits : Limits) :
    Nat →
    List Char →
    Except Stop (Json × List Char)
  | 0, chars =>
      .error (.fault .value chars)
  | fuel + 1, chars =>
      match chars with
      | '"' :: rest => do
          let (content, after) ← readText rest
          pure (.text content, after)
      | '[' :: rest => do
          let inner ← limits.inside .array
          match skipSpace rest with
          | ']' :: after =>
              pure (.array [], after)
          | items =>
              let (values, after) ← readItems inner fuel items
              pure (.array values, after)
      | '\x7b' :: rest => do
          let inner ← limits.inside .object
          match skipSpace rest with
          | '\x7d' :: after =>
              pure (.object [], after)
          | members =>
              let (entries, after) ← readMembers inner fuel members
              pure (.object (OrderedMap.ofList entries).entries, after)
      | _ =>
          match readWord? chars with
          | some result =>
              .ok result
          | none =>
              readNumber limits chars

/-- The values of an array up to its closing bracket. -/
def readItems
    (limits : Limits) :
    Nat →
    List Char →
    Except Stop (List Json × List Char)
  | 0, chars =>
      .error (.fault .value chars)
  | fuel + 1, chars => do
      let (value, behind) ← readValue limits fuel chars
      match skipSpace behind with
      | ']' :: after =>
          pure ([value], after)
      | ',' :: after => do
          let (values, rest) ← readItems limits fuel (skipSpace after)
          pure (value :: values, rest)
      | rest =>
          .error (.fault .comma rest)

/--
The members of an object up to its closing brace.

A member whose name has an unpaired surrogate has no name here, and is left out. It
is none of the fields that are asked for, but where names are data themselves, as
those of indices are, nothing is told of it.
-/
def readMembers
    (limits : Limits) :
    Nat →
    List Char →
    Except Stop (List (String × Json) × List Char)
  | 0, chars =>
      .error (.fault .propertyName chars)
  | fuel + 1, chars =>
      match chars with
      | '"' :: rest => do
          let (name, behindName) ← readText rest
          match skipSpace behindName with
          | ':' :: afterColon => do
              let (value, behind) ←
                readValue limits fuel (skipSpace afterColon)
              let entry := (name.whole?.map (·, value)).toList
              match skipSpace behind with
              | '\x7d' :: after =>
                  pure (entry, after)
              | ',' :: after => do
                  let (entries, last) ←
                    readMembers limits fuel (skipSpace after)
                  pure (entry ++ entries, last)
              | rest =>
                  .error (.fault .comma rest)
          | rest =>
              .error (.fault .colon rest)
      | _ =>
          .error (.fault .propertyName chars)

end

/-- Why a text is refused, and where. -/
inductive ReadFault
  | malformed (cause : SyntaxFault) (line column offset : Nat)
  | longInteger (digits : Nat)
  | tooDeep (container : Container)
  deriving Repr, DecidableEq

/-- The text of a refusal, with its position counted in characters. -/
def ReadFault.message :
    ReadFault →
    String
  | .malformed cause line column offset =>
      cause.message ++ ": line " ++ Nat.repr line ++ " column " ++
        Nat.repr column ++ " (char " ++ Nat.repr offset ++ ")"
  | .longInteger digits =>
      "Exceeds the limit (" ++ Nat.repr Text.digitLimit ++
        " digits) for integer string conversion: value has " ++
        Nat.repr digits ++
        " digits; use sys.set_int_max_str_digits() to increase the limit"
  | .tooDeep container =>
      "maximum recursion depth exceeded while decoding a JSON " ++
        container.name ++ " from a unicode string"

/-- Whether a text is refused because it is no JSON. -/
def ReadFault.isMalformed :
    ReadFault →
    Bool
  | .malformed .. => true
  | _ => false

/-- The refusal of a text by the characters that were left. -/
def Stop.located
    (whole : List Char) :
    Stop →
    ReadFault
  | .fault cause rest =>
      let before := whole.take (whole.length - rest.length)
      .malformed cause
        (before.count '\n' + 1)
        ((before.reverse.takeWhile (· != '\n')).length + 1)
        before.length
  | .longInteger digits =>
      .longInteger digits
  | .tooDeep container =>
      .tooDeep container

/-- A value with nothing but blanks around it. -/
def readDocument
    (limits : Limits)
    (chars : List Char) :
    Except Stop Json :=
  match chars with
  | '\ufeff' :: _ =>
      .error (.fault .byteOrderMark chars)
  | _ => do
      let (value, behind) ←
        readValue limits (2 * chars.length + 2) (skipSpace chars)
      match skipSpace behind with
      | [] =>
          pure value
      | rest =>
          .error (.fault .extraData rest)

/-- The value written by a text of any size. -/
def read
    (document : String) :
    Except ReadFault Json :=
  (readDocument {} document.toList).mapError
    (Stop.located document.toList)

/-- The greatest number of containers that may stand inside one another. -/
def depthLimit : Nat :=
  980

/--
The value written by a text of limited size.

Its integers have at most 4300 digits, and its containers stand at most 980 deep.
-/
def readLimited
    (document : String) :
    Except ReadFault Json :=
  (readDocument
      { digits := some Text.digitLimit, depth := some depthLimit }
      document.toList).mapError
    (Stop.located document.toList)

end ShardAtlas.Json
