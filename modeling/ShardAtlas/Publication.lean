import ShardAtlas.Refresh.Clock
import ShardAtlas.Snapshot.Placement

namespace ShardAtlas

/-!
# Publishing snapshots

The publication of a cluster holds its last good snapshot. Each fetch carries a
token, and its result counts only while no later fetch has begun and nothing was
invalidated since. A failed fetch leaves the snapshot as it is.
-/

/-- A snapshot with the tick at which it was published. -/
structure Published where
  snapshot : Snapshot := .empty
  refreshedAt : Option Int := none
  deriving Repr, DecidableEq

/-- What came of a fetch. -/
inductive FetchStatus
  | ok
  | failed
  | superseded
  deriving Repr, DecidableEq

namespace FetchStatus

/-- All statuses. -/
def all : List FetchStatus :=
  [.ok, .failed, .superseded]

/-- The name of a status. -/
def name :
    FetchStatus →
    String
  | .ok => "ok"
  | .failed => "failed"
  | .superseded => "superseded"

end FetchStatus

/-- What came of a fetch, with what is published after it. -/
structure FetchOutcome where
  status : FetchStatus
  published : Published
  error : Option String := none
  deriving Repr, DecidableEq

/-- Why a fetch gave nothing: the kind of the failure and what is said about it. -/
structure FetchFailure where
  kind : String
  text : String
  deriving Repr, DecidableEq

/-- What is noted about a failure; its kind if nothing is said. -/
def FetchFailure.message
    (failure : FetchFailure) :
    String :=
  if failure.text = "" then
    failure.kind
  else
    failure.text

/-- The tick of a publication: of the clock if there is one, or the time. -/
def publicationTick
    (clock : Option Refresh.Clock)
    (now : Int) :
    Option Refresh.Clock × Int :=
  match clock with
  | some running =>
      let (stamped, tick) := running.stamped now
      (some stamped, tick)
  | none =>
      (none, now)

/-- The last good snapshot of a cluster, and what is under way. -/
structure Publication where
  cluster : String
  published : Published := {}
  generation : Int := 0
  stale : Bool := true
  lastError : Option String := none
  deriving Repr, DecidableEq

namespace Publication

/-- The snapshot that readers see. -/
def snapshot
    (publication : Publication) :
    Snapshot :=
  publication.published.snapshot

/-- Whether the result of a fetch still counts. -/
def accepts
    (publication : Publication)
    (token : Int) :
    Bool :=
  token == publication.generation

/-- Mark the snapshot as stale, and every fetch under way as superseded. -/
def invalidate
    (publication : Publication)
    (scope : Refresh.Scope) :
    Publication :=
  if scope.covers publication.cluster then
    { publication with
      generation := publication.generation + 1
      stale := true }
  else
    publication

/-- Begin a fetch; its token is the new generation. -/
def beginFetch
    (publication : Publication) :
    Publication × Int :=
  ({ publication with generation := publication.generation + 1 },
    publication.generation + 1)

/-- The note about a result that no longer counts. -/
def droppedNote
    (publication : Publication)
    (token : Int) :
    Message := do
  let given ← Text.printed token
  let current ← Text.printed publication.generation
  pure
    ("Dropping result for " ++ publication.cluster ++ ": token " ++ given ++
      " superseded by " ++ current)

/-- The outcome of a fetch that no longer counts. -/
def superseded
    (publication : Publication) :
    FetchOutcome :=
  { status := .superseded
    published := publication.published }

/--
Publish the snapshot of what a fetch gave.

This is what comes of a result whose messages can be written: the warnings of its
snapshot if it counts, or else the note about it.
-/
def apply
    (publication : Publication)
    (clock : Option Refresh.Clock)
    (now token : Int)
    (inventory : Inventory) :
    Publication × Option Refresh.Clock × FetchOutcome :=
  if publication.accepts token then
    let (stamped, tick) := publicationTick clock now
    let published : Published :=
      { snapshot := .ofInventory inventory
        refreshedAt := some tick }
    ({ publication with
        published := published
        stale := false
        lastError := none },
      stamped,
      { status := .ok
        published := published })
  else
    (publication, clock, publication.superseded)

/-- Note that a fetch failed. -/
def recordFailure
    (publication : Publication)
    (token : Int)
    (failure : FetchFailure) :
    Publication × FetchOutcome :=
  if publication.accepts token then
    ({ publication with lastError := some failure.message },
      { status := .failed
        published := publication.published
        error := some failure.message })
  else
    (publication, publication.superseded)

/-- The warnings that an outcome of a failed fetch gives. -/
def failureWarnings
    (publication : Publication)
    (outcome : FetchOutcome) :
    List String :=
  outcome.error.toList.map fun message =>
    "Fetch failed for cluster " ++ publication.cluster ++ ": " ++ message

end Publication

end ShardAtlas
