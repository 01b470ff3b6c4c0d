import Mathlib.Data.List.Induction
import ShardAtlas.Proofs.Supersession

namespace ShardAtlas.Publication

/-!
# Freshness

A snapshot is fresh while nothing was invalidated since it was published. It then also
comes from a fetch that was begun since: a fetch under way is superseded together with
the snapshot, so it cannot make a publication fresh again.

What the calls of a run have done is written down as a trace of events. A result that
was superseded and an invalidation of other clusters leave no event.
-/

/-- Something that a call has done. A fetch is named by its place among those begun. -/
inductive Event
  | begun
  | invalidated
  | published
      (fetch : Nat)
      (inventory : Inventory)
  | failed (failure : FetchFailure)
  deriving Repr, DecidableEq

namespace Event

/-- Whether something was published. -/
def publishes :
    Event →
    Bool
  | .published _ _ => true
  | _ => false

/-- Whether a fetch was ended, one way or the other. -/
def endsFetch :
    Event →
    Bool
  | .published _ _ => true
  | .failed _ => true
  | _ => false

/-- Whether a failure was noted under a message. -/
def notes
    (message : String) :
    Event →
    Bool
  | .failed failure => failure.message == message
  | _ => false

/-- An event of one kind was there, and none of another kind since. -/
def Stands
    (set unset : Event → Bool)
    (trace : List Event) :
    Prop :=
  ∃ before event later,
    trace = before ++ event :: later ∧
      set event = true ∧
      ∀ other ∈ later, unset other = false

/-- What stands after one more event was set by it, or stood before and was not unset. -/
theorem stands_concat_iff
    (set unset : Event → Bool)
    (trace : List Event)
    (newest : Event) :
    Stands set unset (trace ++ [newest]) ↔
      set newest = true ∨
        unset newest = false ∧ Stands set unset trace := by
  constructor
  · rintro ⟨before, event, later, shape, isSet, kept⟩
    rcases List.eq_nil_or_concat later with rfl | ⟨earlier, last, rfl⟩
    · obtain ⟨_, same⟩ := List.append_inj' shape rfl
      exact .inl ((List.singleton_inj.mp same) ▸ isSet)
    · have split :
          trace ++ [newest] = (before ++ event :: earlier) ++ [last] := by
        simpa using shape
      obtain ⟨ofTrace, same⟩ := List.append_inj' split rfl
      obtain rfl : newest = last :=
        List.singleton_inj.mp same
      refine .inr ⟨kept newest (by simp), before, event, earlier, ofTrace,
        isSet, ?_⟩
      intro other member
      exact kept other (by simp [member])
  · rintro (isSet | ⟨notUnset, before, event, later, rfl, isSet, kept⟩)
    · exact ⟨trace, newest, [], rfl, isSet, by simp⟩
    · refine ⟨before, event, later ++ [newest], by simp, isSet, ?_⟩
      intro other member
      rcases List.mem_append.mp member with isOld | isNew
      · exact kept other isOld
      · rw [List.mem_singleton.mp isNew]
        exact notUnset

end Event

namespace Session

/-- What a call does, as its outcome tells. -/
def event?
    (session : Session)
    (call : Call) :
    Option Event :=
  match call, (session.step call).2 with
  | .beginFetch, _ =>
      some .begun
  | .invalidate scope, _ =>
      if scope.covers session.publication.cluster then
        some .invalidated
      else
        none
  | .succeed fetch _ _ inventory, some outcome =>
      if outcome.status = .ok then
        some (.published fetch inventory)
      else
        none
  | .fail _ failure, some outcome =>
      if outcome.status = .failed then
        some (.failed failure)
      else
        none
  | _, none =>
      none

/-- What the calls of a run do, in its order. -/
def trace :
    Session →
    List Call →
    List Event
  | _, [] =>
      []
  | session, call :: rest =>
      (session.event? call).toList ++ trace (session.step call).1 rest

/-- How a session changes with an event, and that it does not without one. -/
inductive Change
    (session : Session) :
    Session →
    Option Event →
    Prop
  | begun :
      Change session
        { publication :=
            { session.publication with
              generation := session.publication.generation + 1 }
          tokens :=
            session.tokens ++ [session.publication.generation + 1] }
        (some .begun)
  | invalidated :
      Change session
        { session with
          publication :=
            { session.publication with
              generation := session.publication.generation + 1
              stale := true } }
        (some .invalidated)
  | published
      (fetch : Nat)
      (inventory : Inventory)
      (tick : Int)
      (newest :
        session.tokens[fetch]? = some session.publication.generation) :
      Change session
        { session with
          publication :=
            { session.publication with
              published :=
                { snapshot := .ofInventory inventory
                  refreshedAt := some tick }
              stale := false
              lastError := none } }
        (some (.published fetch inventory))
  | failed (failure : FetchFailure) :
      Change session
        { session with
          publication :=
            { session.publication with
              lastError := some failure.message } }
        (some (.failed failure))
  | untouched :
      Change session session none

/-- A fetch that was begun in a trace, with nothing invalidated since. -/
def BegunSince
    (fetch : Nat)
    (trace : List Event) :
    Prop :=
  ∃ before later,
    trace = before ++ .begun :: later ∧
      before.count .begun = fetch ∧
      Event.invalidated ∉ later

/-- A fetch stays begun while nothing is invalidated. -/
theorem BegunSince.append
    {fetch : Nat}
    {trace : List Event}
    (begun : BegunSince fetch trace)
    {more : List Event}
    (kept : Event.invalidated ∉ more) :
    BegunSince fetch (trace ++ more) := by
  obtain ⟨before, later, rfl, place, keptSince⟩ := begun
  exact ⟨before, later ++ more, by simp, place, by simp [keptSince, kept]⟩

/-- A snapshot that was published last, by a fetch with nothing invalidated since it was begun. -/
def PublishedFresh
    (snapshot : Snapshot)
    (trace : List Event) :
    Prop :=
  ∃ before fetch inventory later,
    trace = before ++ .published fetch inventory :: later ∧
      (∀ event ∈ later, event.publishes = false) ∧
      snapshot = .ofInventory inventory ∧
      BegunSince fetch trace

/-- A snapshot stays so while nothing is published or invalidated. -/
theorem PublishedFresh.append
    {snapshot : Snapshot}
    {trace : List Event}
    (fresh : PublishedFresh snapshot trace)
    {more : List Event}
    (unpublished : ∀ event ∈ more, event.publishes = false)
    (kept : Event.invalidated ∉ more) :
    PublishedFresh snapshot (trace ++ more) := by
  obtain ⟨before, fetch, inventory, later, rfl, last, same, begun⟩ := fresh
  refine ⟨before, fetch, inventory, later ++ more, by simp, ?_, same,
    begun.append kept⟩
  intro event member
  rcases List.mem_append.mp member with isOld | isNew
  · exact last event isOld
  · exact unpublished event isNew

/-- What a trace tells about the session that it leads to. -/
structure Reflects
    (session : Session)
    (trace : List Event) :
    Prop where
  begun : trace.count .begun = session.tokens.length
  bounded :
    ∀ token ∈ session.tokens, token ≤ session.publication.generation
  newest :
    ∀ fetch,
      session.tokens[fetch]? = some session.publication.generation →
        BegunSince fetch trace
  fresh :
    session.publication.stale = false ↔
      Event.Stands Event.publishes (· == .invalidated) trace
  source :
    session.publication.stale = false →
      PublishedFresh session.publication.snapshot trace
  error :
    ∀ message,
      session.publication.lastError = some message ↔
        Event.Stands (Event.notes message) Event.endsFetch trace

namespace Reflects

/-- A token is older than a generation that begins after it. -/
theorem ne_next_generation
    {session : Session}
    {trace : List Event}
    (reflects : session.Reflects trace)
    {fetch : Nat}
    {token : Int}
    (known : session.tokens[fetch]? = some token) :
    token ≠ session.publication.generation + 1 := by
  have bound := reflects.bounded token (List.mem_of_getElem? known)
  omega

/-- A fetch that is begun has the newest token, and all others are superseded. -/
theorem begun_step
    {session : Session}
    {trace : List Event}
    (reflects : session.Reflects trace) :
    Session.Reflects
      { publication :=
          { session.publication with
            generation := session.publication.generation + 1 }
        tokens := session.tokens ++ [session.publication.generation + 1] }
      (trace ++ [.begun]) where
  begun := by
    simp [reflects.begun]
  bounded := by
    intro token member
    rcases List.mem_append.mp member with isOld | isNew
    · have bound := reflects.bounded token isOld
      simp only
      omega
    · exact Int.le_of_eq (List.mem_singleton.mp isNew)
  -- All tokens before are older, so only the fetch that is begun now has the newest one.
  newest := by
    intro fetch isNewest
    rcases Nat.lt_or_ge fetch session.tokens.length with isOld | isNew
    · rw [List.getElem?_append_left isOld] at isNewest
      exact absurd rfl (reflects.ne_next_generation isNewest)
    · have within :=
        (List.getElem?_eq_some_iff.mp isNewest).1
      rw [List.length_append, List.length_singleton] at within
      have isLast : fetch = session.tokens.length := by
        omega
      exact ⟨trace, [], rfl, by rw [reflects.begun, isLast], by simp⟩
  fresh := by
    simp [Event.stands_concat_iff, Event.publishes, reflects.fresh]
  source := by
    intro isFresh
    exact (reflects.source isFresh).append (by simp [Event.publishes])
      (by simp)
  error := by
    intro message
    simp [Event.stands_concat_iff, Event.notes, Event.endsFetch,
      reflects.error]

/-- What is invalidated is stale, and all fetches under way are superseded. -/
theorem invalidated_step
    {session : Session}
    {trace : List Event}
    (reflects : session.Reflects trace) :
    Session.Reflects
      { session with
        publication :=
          { session.publication with
            generation := session.publication.generation + 1
            stale := true } }
      (trace ++ [.invalidated]) where
  begun := by
    simp [reflects.begun]
  bounded := by
    intro token member
    have bound := reflects.bounded token member
    simp only
    omega
  newest := by
    intro fetch isNewest
    exact absurd rfl (reflects.ne_next_generation isNewest)
  fresh := by
    simp [Event.stands_concat_iff, Event.publishes]
  source := by
    simp
  error := by
    intro message
    simp [Event.stands_concat_iff, Event.notes, Event.endsFetch,
      reflects.error]

/-- What is published is fresh, since its token is the newest one. -/
theorem published_step
    {session : Session}
    {trace : List Event}
    (reflects : session.Reflects trace)
    {fetch : Nat}
    (newest :
      session.tokens[fetch]? = some session.publication.generation)
    (inventory : Inventory)
    (tick : Int) :
    Session.Reflects
      { session with
        publication :=
          { session.publication with
            published :=
              { snapshot := .ofInventory inventory
                refreshedAt := some tick }
            stale := false
            lastError := none } }
      (trace ++ [.published fetch inventory]) where
  begun := by
    simp [reflects.begun]
  bounded := reflects.bounded
  newest := by
    intro other isNewest
    exact (reflects.newest other isNewest).append (by simp)
  fresh := by
    simp [Event.stands_concat_iff, Event.publishes]
  source := by
    intro _
    exact
      ⟨trace, fetch, inventory, [], rfl, by simp, rfl,
        (reflects.newest fetch newest).append (by simp)⟩
  error := by
    simp [Event.stands_concat_iff, Event.notes, Event.endsFetch]

/-- A failure is noted, and the snapshot is as fresh as before. -/
theorem failed_step
    {session : Session}
    {trace : List Event}
    (reflects : session.Reflects trace)
    (failure : FetchFailure) :
    Session.Reflects
      { session with
        publication :=
          { session.publication with
            lastError := some failure.message } }
      (trace ++ [.failed failure]) where
  begun := by
    simp [reflects.begun]
  bounded := reflects.bounded
  newest := by
    intro fetch isNewest
    exact (reflects.newest fetch isNewest).append (by simp)
  fresh := by
    simp [Event.stands_concat_iff, Event.publishes, reflects.fresh]
  source := by
    intro isFresh
    exact (reflects.source isFresh).append (by simp [Event.publishes])
      (by simp)
  error := by
    simp [Event.stands_concat_iff, Event.notes, Event.endsFetch]

/-- A trace goes on telling about a session with the event of each change. -/
theorem change
    {session after : Session}
    {trace : List Event}
    (reflects : session.Reflects trace)
    {event : Option Event}
    (change : Change session after event) :
    after.Reflects (trace ++ event.toList) := by
  cases change with
  | begun =>
      exact reflects.begun_step
  | invalidated =>
      exact reflects.invalidated_step
  | published fetch inventory tick newest =>
      exact reflects.published_step newest inventory tick
  | failed failure =>
      exact reflects.failed_step failure
  | untouched =>
      simpa using reflects

end Reflects

end Session

end ShardAtlas.Publication
