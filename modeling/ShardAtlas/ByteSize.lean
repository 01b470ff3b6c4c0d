import ShardAtlas.Binary64.Decimal

namespace ShardAtlas

/-!
# Sizes for reading

A number of bytes is shown in the first unit in which it is below 1024, or in
the greatest one. The unit is chosen by the exact value, before it is rounded for
printing.
-/

/-- A unit for sizes and the number of places shown in it. -/
structure ByteUnit where
  name : String
  places : Nat
  deriving Repr, DecidableEq

namespace ByteUnit

/-- Single bytes. -/
def bytes : ByteUnit :=
  ⟨"B", 0⟩

/-- The units above single bytes, each 1024 times the one before. -/
def multiples : List ByteUnit :=
  [⟨"KiB", 1⟩, ⟨"MiB", 1⟩, ⟨"GiB", 1⟩, ⟨"TiB", 1⟩]

/-- Number of units in the next one. -/
def step : Nat :=
  1024

/-- The first double that is shown in the next unit. -/
def limit : Binary64 :=
  .ofRatio false step 1

/-- A value in a unit. -/
def shown
    (unit : ByteUnit)
    (value : Binary64) :
    String :=
  value.fixed unit.places ++ unit.name

/-- A value in the unit that fits it, given the greater units. -/
def fitted
    (unit : ByteUnit)
    (value : Binary64) :
    List ByteUnit →
    String
  | [] =>
      unit.shown value
  | next :: rest =>
      if value.lessThan limit then
        unit.shown value
      else
        next.fitted (value.dividedBy step) rest

end ByteUnit

/-- A number of bytes in the unit that fits it. -/
def byteSize
    (size : Int) :
    Except Overflow String :=
  (Binary64.ofInt size).map fun value =>
    ByteUnit.bytes.fitted value ByteUnit.multiples

end ShardAtlas
