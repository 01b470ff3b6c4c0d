import ShardAtlas.Binary64
import ShardAtlas.Refresh.Clock

namespace ShardAtlas.Refresh

/-!
# Waiting for the clock

Between two looks at a clock one waits until the timer is due, but no longer than
a given time. Waiting times are doubles in seconds, and the time of the clock is
in whole milliseconds.
-/

/-- Milliseconds in one second. -/
def millisecondsPerSecond : Nat :=
  1000

/-- How long to wait before the next look at a clock. -/
def Clock.wait
    (clock : Clock)
    (now : Int)
    (longest : Binary64) :
    Except Overflow Binary64 :=
  match clock.nextFiring with
  | none =>
      .ok longest
  | some time =>
      (Binary64.ofQuotient (time - now) millisecondsPerSecond).map
        fun remaining =>
          Binary64.maximum .zero (Binary64.minimum longest remaining)

/--
The time that passes in a wait.

It is never none at all, and it must be finite in milliseconds.
-/
def timePassed
    (wait : Binary64) :
    Except Overflow Int :=
  match wait.times millisecondsPerSecond with
  | .infinite _ => .error .infinity
  | milliseconds => .ok (max 1 (milliseconds.ceiling?.getD 1))

end ShardAtlas.Refresh
