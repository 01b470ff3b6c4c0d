import ShardAtlas.Binary64
import ShardAtlas.Text.Numeral

namespace ShardAtlas

/-!
# Bounded series

A series keeps the latest points of a metric. It has room for at least one point
and at most for as many as a signed word of 64 bits can count, and a new point
pushes the oldest one out when there is no room.
-/

/-- A value at a time in milliseconds. -/
structure Point where
  time : Int
  value : Binary64
  deriving Repr, DecidableEq

/-- The last entries of a list, up to a number of them. -/
def lastEntries
    (room : Nat)
    (entries : List α) :
    List α :=
  entries.drop (entries.length - room)

/-- There are never more last entries than asked for. -/
theorem length_lastEntries
    (room : Nat)
    (entries : List α) :
    (lastEntries room entries).length = min room entries.length := by
  simp only [lastEntries, List.length_drop]
  omega

/-- Dropping the oldest entries first makes no difference to the last ones. -/
theorem lastEntries_lastEntries_append
    (room : Nat)
    (entries : List α)
    (entry : α) :
    lastEntries room (lastEntries room entries ++ [entry]) =
      lastEntries room (entries ++ [entry]) := by
  have dropped :
      entries.length - room + (entries.length - (entries.length - room) +
        1 - room) = entries.length + 1 - room := by
    omega
  have newest :
      entries.length - (entries.length - room) + 1 - room -
          (entries.length - (entries.length - room)) =
        entries.length + 1 - room - entries.length := by
    omega
  simp only [lastEntries, List.length_append, List.length_drop,
    List.length_singleton, List.drop_append, List.drop_drop, dropped,
    newest]

/-- The newest entry is among the last ones, if there is room for any. -/
theorem getLast?_lastEntries
    {room : Nat}
    (hasRoom : 0 < room)
    (entries : List α) :
    (lastEntries room entries).getLast? = entries.getLast? := by
  cases entries with
  | nil =>
      simp [lastEntries]
  | cons first rest =>
      rw [lastEntries, List.getLast?_drop, if_neg]
      simp only [List.length_cons]
      omega

/-- The latest points of a metric, oldest first. -/
structure Series where
  capacity : Nat
  points : List Point
  hasRoom : 0 < capacity
  bounded : points.length ≤ capacity
  deriving Repr, DecidableEq

/-- Why there is no series of some capacity. -/
inductive CapacityFault
  | withoutRoom (capacity : Int)
  | uncountable
  deriving Repr, DecidableEq

/-- The text about a capacity that no series has. -/
def CapacityFault.message :
    CapacityFault →
    String
  | .withoutRoom capacity =>
      match Text.printed capacity with
      | .ok number => "capacity must be at least 1, got " ++ number
      | .error cause => cause.message
  | .uncountable =>
      "Python int too large to convert to C ssize_t"

namespace Series

/-- The capacity of a series for which none is given. -/
def defaultCapacity : Int :=
  20

/-- The greatest capacity of a series. -/
def greatestCapacity : Int :=
  9223372036854775807

/-- A series without points. -/
def ofCapacity
    (capacity : Int) :
    Except CapacityFault Series :=
  if positive : 0 < capacity.toNat then
    if greatestCapacity < capacity then
      .error .uncountable
    else
      .ok
        { capacity := capacity.toNat
          points := []
          hasRoom := positive
          bounded := by simp }
  else
    .error (.withoutRoom capacity)

/-- Add a point, and drop the oldest one if there is no room. -/
def push
    (series : Series)
    (point : Point) :
    Series :=
  { series with
    points := lastEntries series.capacity (series.points ++ [point])
    bounded := by
      rw [length_lastEntries]
      omega }

/-- Drop all points. -/
def cleared
    (series : Series) :
    Series :=
  { series with
    points := []
    bounded := by simp }

/-- The newest point. -/
def latest?
    (series : Series) :
    Option Point :=
  series.points.getLast?

/-- The values of the points, oldest first. -/
def values
    (series : Series) :
    List Binary64 :=
  series.points.map Point.value

end Series

end ShardAtlas
