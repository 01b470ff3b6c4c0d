import ShardAtlas.Monitor
import ShardAtlas.Refresh.Wait

namespace ShardAtlas

/-!
# Running a monitor

A running monitor looks at its clock, lets a handler react to each refresh that
the timer starts, and waits. It goes on after a handler that fails, and ends when
it is stopped. Every round ends with one wait, so the number of waits bounds the
number of rounds.
-/

/-- What a handler does when a refresh starts, in this order. -/
structure Reaction where
  advance : Int := 0
  stops : Bool := false
  refresh : Option (String × Except FetchFailure Inventory) := none
  failure : Option String := none

/-- What happened while a monitor ran. -/
structure CycleLog where
  calls : List (Option Int) := []
  waits : List Binary64 := []
  deriving Repr, DecidableEq

namespace Monitor

/-- Fetch a cluster, given what the fetch gives. -/
def refresh
    (cluster : String)
    (fetched : Except FetchFailure Inventory) :
    Asked FetchOutcome := do
  let token ← beginFetch cluster
  finishFetch cluster token fetched

/-- What a handler does, up to its failure. -/
def react
    (reaction : Reaction) :
    Asked Unit := do
  advance reaction.advance
  match reaction.refresh with
  | some (cluster, fetched) =>
      let _ ← refresh cluster fetched
  | none =>
      pure ()
  match reaction.failure with
  | some text => throw (.handler text)
  | none => pure ()

/-- Let a handler react; a failure of the handler only gives a warning. -/
def handle
    (reaction : Reaction) :
    Asked Unit :=
  tryCatch (react reaction) fun fault =>
    warn [.ok ("Refresh handler failed: " ++ fault.message)]

/-- The wait before the next look at the clock. -/
def nextWait
    (longest : Binary64) :
    Asked Binary64 := do
  let clock ← needClock
  match clock.wait (← get).now longest with
  | .ok wait => pure wait
  | .error cause => throw (.overflow cause)

/-- Let the time of a wait pass. -/
def passTime
    (wait : Binary64) :
    Asked Unit :=
  match Refresh.timePassed wait with
  | .ok milliseconds => advance milliseconds
  | .error cause => throw (.overflow cause)

/--
Rounds of a running monitor, up to a number of further waits.

Reactions are taken from a list, and there are none where there is no handler.
-/
def rounds
    (longest : Binary64) :
    Nat →
    Option (List Reaction) →
    CycleLog →
    Asked CycleLog
  | 0, _, log =>
      pure log
  | waitsLeft + 1, reactions, log => do
      let fired ← tick
      let started := (← get).lastTick?
      let called := reactions.filter fun _ => fired
      let reaction := (called.bind List.head?).getD {}
      if called.isSome then
        handle reaction
      let wait ← nextWait longest
      let log :=
        { calls := log.calls ++ called.toList.map fun _ => started
          waits := log.waits ++ [wait] }
      if reaction.stops then
        pure log
      else
        passTime wait
        rounds longest waitsLeft ((called.map List.tail).or reactions) log

/-- Run until stopped, or until some number of waits, which is at least one. -/
def run
    (longest : Binary64)
    (waits : Nat)
    (reactions : Option (List Reaction)) :
    Asked CycleLog :=
  rounds longest (max 1 waits) reactions {}

end Monitor

end ShardAtlas
