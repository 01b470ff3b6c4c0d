import ShardAtlas.Text
import ShardAtlas.Text.Printable

namespace ShardAtlas.Text

/-!
# Quoted texts

Messages show a text between quotes, with every character that would not be
seen, or that would end the quotation, written as an escape.
-/

/-- A number in lower-case hexadecimal digits of a fixed width. -/
def hexDigits
    (width value : Nat) :
    List Char :=
  (List.range width).reverse.map fun position =>
    Nat.digitChar (value / Nat.pow 16 position % 16)

/-- The escape of a character by its code point. -/
def codeEscape
    (char : Char) :
    List Char :=
  if char.toNat < 0x100 then
    '\\' :: 'x' :: hexDigits 2 char.toNat
  else if char.toNat < 0x10000 then
    '\\' :: 'u' :: hexDigits 4 char.toNat
  else
    '\\' :: 'U' :: hexDigits 8 char.toNat

/-- A character as it stands between two quotes. -/
def quotedChar
    (quote char : Char) :
    List Char :=
  if char = quote ∨ char = '\\' then
    ['\\', char]
  else if char = '\n' then
    ['\\', 'n']
  else if char = '\r' then
    ['\\', 'r']
  else if char = '\t' then
    ['\\', 't']
  else if isPrintable char then
    [char]
  else
    codeEscape char

/-- A string as it stands between two quotes. -/
def quotedPiece
    (quote : Char)
    (piece : String) :
    List Char :=
  piece.toList.flatMap (quotedChar quote)

/-- The escape of a half of a surrogate pair. -/
def halfEscape
    (half : Surrogate) :
    List Char :=
  '\\' :: 'u' :: hexDigits 4 half.code

/-- Whether a character stands in a text. -/
def holds
    (text : Text)
    (char : Char) :
    Bool :=
  text.pieces.any (·.toList.contains char)

/--
The quote around a text.

It is the single quote, unless the text holds that one and no double quote.
-/
def quoteFor
    (text : Text) :
    Char :=
  if text.holds '\'' ∧ ¬ text.holds '"' then
    '"'
  else
    '\''

/-- A text between quotes. -/
def quoted
    (text : Text) :
    String :=
  let quote := text.quoteFor
  String.ofList
    (quote :: quotedPiece quote text.lead ++
      (text.behind.flatMap fun (half, following) =>
        halfEscape half ++ quotedPiece quote following) ++
      [quote])

end ShardAtlas.Text
