import ShardAtlas.Binary64

namespace ShardAtlas.Binary64

/-!
# Doubles in decimal

Three conversions between doubles and decimal numerals: reading a decimal to the
nearest double, printing a fixed number of places of the exact value, and
printing the fewest digits that read back. A layout says when the fewest digits
are written with an exponent.
-/

/-- A decimal magnitude: some digits times a power of ten. -/
structure Decimal where
  digits : Nat
  exponent : Int
  deriving Repr, DecidableEq

/-- Number of decimal digits of a natural number; zero has one. -/
def decimalLength
    (value : Nat) :
    Nat :=
  (Nat.toDigits 10 value).length

/--
The double nearest to a decimal.

From `10 ^ 310` on every decimal is beyond the largest double, and below
`10 ^ -330` every decimal is nearer to zero than to the smallest one, so a far
exponent needs no power of ten.
-/
def ofDecimal
    (negative : Bool)
    (decimal : Decimal) :
    Binary64 :=
  if decimal.digits = 0 then
    .finite negative 0
  else if 310 < decimalLength decimal.digits + decimal.exponent then
    .infinite negative
  else if decimalLength decimal.digits + decimal.exponent < -330 then
    .finite negative 0
  else
    ofRatio negative
      (decimal.digits * Nat.pow 10 decimal.exponent.toNat)
      (Nat.pow 10 (-decimal.exponent).toNat)

/-- Digits of a number, with leading zeros up to a width. -/
def paddedDigits
    (width value : Nat) :
    String :=
  String.ofList
    (List.replicate
        (width - decimalLength value) '0' ++
      Nat.toDigits 10 value)

/-- The sign written in front of a negative double. -/
def signText
    (negative : Bool) :
    String :=
  if negative then
    "-"
  else
    ""

/--
A magnitude in quanta with a fixed number of places.

The exact value is rounded once, a half to the even digit.
-/
def fixedMagnitude
    (places quanta : Nat) :
    String :=
  let scaled :=
    Rounding.halfEven (quanta * Nat.pow 10 places) quantaPerUnit
  if places = 0 then
    Nat.repr scaled
  else
    Nat.repr (scaled / Nat.pow 10 places) ++ "." ++
      paddedDigits places (scaled % Nat.pow 10 places)

/-- A double with a fixed number of places. -/
def fixed
    (places : Nat) :
    Binary64 →
    String
  | .finite negative quanta =>
      signText negative ++ fixedMagnitude places quanta
  | .infinite negative =>
      signText negative ++ "inf"
  | .nan =>
      "nan"

/--
Position of the decimal point of a magnitude in quanta.

The value lies below `10 ^ point` and not below `10 ^ (point - 1)`; scaling by
`10 ^ 400` keeps at least one digit of the smallest double.
-/
def decimalPoint
    (quanta : Nat) :
    Int :=
  (decimalLength (quanta * Nat.pow 10 400 / quantaPerUnit) : Int) - 400

/-- The multiple of a power of ten nearest to a magnitude in quanta. -/
def nearestMultiple
    (quanta : Nat)
    (exponent : Int) :
    Nat :=
  Rounding.halfEven
    (quanta * Nat.pow 10 (-exponent).toNat)
    (quantaPerUnit * Nat.pow 10 exponent.toNat)

/-- The multiple of a power of ten just below a magnitude, or equal to it. -/
def multipleBelow
    (quanta : Nat)
    (exponent : Int) :
    Nat :=
  quanta * Nat.pow 10 (-exponent).toNat /
    (quantaPerUnit * Nat.pow 10 exponent.toNat)

/-- Whether a decimal reads back as a magnitude in quanta. -/
def readsBack
    (quanta : Nat)
    (decimal : Decimal) :
    Bool :=
  ofDecimal false decimal = .finite false quanta

/--
A decimal with a given number of digits that reads back, if there is one.

Only the two multiples around the value can read back; the nearest is tried
first.
-/
def decimalWith?
    (quanta digits : Nat) :
    Option Decimal :=
  let exponent := decimalPoint quanta - digits
  let below := multipleBelow quanta exponent
  ([nearestMultiple quanta exponent, below, below + 1].map
      (Decimal.mk · exponent)).find? (readsBack quanta)

/-- The decimal with the fewest digits that reads back; 17 digits always do. -/
def shortestDecimal
    (quanta : Nat) :
    Decimal :=
  ((List.range' 1 17).findSome? (decimalWith? quanta)).getD
    { digits := 0, exponent := 0 }

/-- How the shortest digits of a double are written. -/
structure DecimalLayout where
  leastPositional : Int
  greatestPositional : Int
  infinity : String
  notANumber : String
  deriving Repr

/-- Digits with a decimal point, and always a digit behind it. -/
def positional
    (digits : List Char)
    (point : Int) :
    String :=
  if point ≤ 0 then
    "0." ++
      String.ofList
        (List.replicate (-point).toNat '0' ++ digits)
  else
    String.ofList
        (digits.take point.toNat ++
          List.replicate (point.toNat - digits.length) '0') ++
      "." ++
      (if digits.length ≤ point.toNat then
        "0"
      else
        String.ofList (digits.drop point.toNat))

/-- Digits with a power of ten, whose exponent has a sign and two digits. -/
def scientific
    (digits : List Char)
    (exponent : Int) :
    String :=
  String.ofList (digits.take 1) ++
    (if digits.length ≤ 1 then
      ""
    else
      "." ++ String.ofList (digits.drop 1)) ++
    (if exponent < 0 then
      "e-"
    else
      "e+") ++
    paddedDigits 2 exponent.natAbs

/-- Digits without the zeros at their end. -/
def withoutTrailingZeros
    (digits : List Char) :
    List Char :=
  (digits.reverse.dropWhile (· == '0')).reverse

/-- A magnitude in quanta by its shortest digits. -/
def shortestMagnitude
    (layout : DecimalLayout)
    (quanta : Nat) :
    String :=
  if quanta = 0 then
    "0.0"
  else
    let decimal := shortestDecimal quanta
    let allDigits := Nat.toDigits 10 decimal.digits
    let digits := withoutTrailingZeros allDigits
    let point := decimal.exponent + allDigits.length
    if layout.leastPositional ≤ point - 1 ∧
        point - 1 ≤ layout.greatestPositional then
      positional digits point
    else
      scientific digits (point - 1)

/-- A double by its shortest digits. -/
def shortest
    (layout : DecimalLayout) :
    Binary64 →
    String
  | .finite negative quanta =>
      signText negative ++ shortestMagnitude layout quanta
  | .infinite negative =>
      signText negative ++ layout.infinity
  | .nan =>
      layout.notANumber

end ShardAtlas.Binary64
