import ShardAtlas.Publication

namespace ShardAtlas.Publication

/-!
# Superseded fetches

Fetches of one cluster may overlap, fail, come late or never end, and the snapshot
may be invalidated between them. A run is any list of such calls. The result of a
fetch counts just if nothing superseded the fetch since it was begun, so the
published snapshot never goes back to an older fetch.

A token is a generation. The generation counts the calls that supersede, which is
why a token that was superseded never becomes current again.
-/

/-- What is asked of a publication. A fetch is named by its place among those begun. -/
inductive Call
  | beginFetch
  | invalidate (scope : Refresh.Scope)
  | succeed
      (fetch : Nat)
      (clock : Option Refresh.Clock)
      (now : Int)
      (inventory : Inventory)
  | fail
      (fetch : Nat)
      (failure : FetchFailure)
  deriving Repr, DecidableEq

namespace Call

/-- Whether a call begins a fetch. -/
def begins :
    Call →
    Bool
  | .beginFetch => true
  | _ => false

/-- Whether a call supersedes the fetches of a cluster that were begun before. -/
def supersedes
    (cluster : String) :
    Call →
    Bool
  | .beginFetch => true
  | .invalidate scope => scope.covers cluster
  | _ => false

end Call

/-- Number of fetches that some calls begin. -/
def begun
    (calls : List Call) :
    Nat :=
  calls.countP Call.begins

/-- A publication with the tokens of the fetches begun so far, in their order. -/
structure Session where
  publication : Publication
  tokens : List Int := []
  deriving Repr, DecidableEq

namespace Session

/-- A new publication, before any fetch. -/
def start
    (cluster : String) :
    Session :=
  { publication := { cluster := cluster } }

/--
Take one call, and give what came of a fetch that it ends.

A fetch that was never begun has no token, so nothing can be asked about it.
-/
def step
    (session : Session) :
    Call →
    Session × Option FetchOutcome
  | .beginFetch =>
      let (publication, token) := session.publication.beginFetch
      ({ publication := publication
         tokens := session.tokens ++ [token] },
        none)
  | .invalidate scope =>
      ({ session with
          publication := session.publication.invalidate scope },
        none)
  | .succeed fetch clock now inventory =>
      match session.tokens[fetch]? with
      | some token =>
          let (publication, _, outcome) :=
            session.publication.apply clock now token inventory
          ({ session with publication := publication }, some outcome)
      | none =>
          (session, none)
  | .fail fetch failure =>
      match session.tokens[fetch]? with
      | some token =>
          let (publication, outcome) :=
            session.publication.recordFailure token failure
          ({ session with publication := publication }, some outcome)
      | none =>
          (session, none)

/-- Take calls in turn. -/
def run
    (session : Session)
    (calls : List Call) :
    Session :=
  calls.foldl (fun reached call => (reached.step call).1) session

/-- The fetch whose result a call publishes, with what the fetch gave. -/
def publishes?
    (session : Session)
    (call : Call) :
    Option (Nat × Inventory) :=
  match call, (session.step call).2 with
  | .succeed fetch _ _ inventory, some outcome =>
      if outcome.status = .ok then
        some (fetch, inventory)
      else
        none
  | _, _ =>
      none

/-- The fetches whose results are published during a run, in its order. -/
def publications :
    Session →
    List Call →
    List (Nat × Inventory)
  | _, [] =>
      []
  | session, call :: rest =>
      (session.publishes? call).toList ++
        publications (session.step call).1 rest

end Session

/-- A token that still counts: what ends its fetch takes effect. -/
structure IsCurrent
    (publication : Publication)
    (token : Int) :
    Prop where
  publishes :
    ∀ clock now inventory,
      publication.apply clock now token inventory =
        ({ publication with
            published :=
              { snapshot := .ofInventory inventory
                refreshedAt := some (publicationTick clock now).2 }
            stale := false
            lastError := none },
          (publicationTick clock now).1,
          { status := .ok
            published :=
              { snapshot := .ofInventory inventory
                refreshedAt := some (publicationTick clock now).2 } })
  notes :
    ∀ failure,
      publication.recordFailure token failure =
        ({ publication with lastError := some failure.message },
          { status := .failed
            published := publication.published
            error := some failure.message })

/-- A token that no longer counts: what ends its fetch changes nothing. -/
structure IsSuperseded
    (publication : Publication)
    (token : Int) :
    Prop where
  publishes :
    ∀ clock now inventory,
      publication.apply clock now token inventory =
        (publication, clock,
          { status := .superseded
            published := publication.published })
  notes :
    ∀ failure,
      publication.recordFailure token failure =
        (publication,
          { status := .superseded
            published := publication.published })

/-- The token of the newest generation is current. -/
theorem isCurrent_of_eq
    {publication : Publication}
    {token : Int}
    (newest : token = publication.generation) :
    publication.IsCurrent token where
  publishes clock now inventory := by
    simp [apply, accepts, newest]
  notes failure := by
    simp [recordFailure, accepts, newest]

/-- Every other token is superseded. -/
theorem isSuperseded_of_ne
    {publication : Publication}
    {token : Int}
    (older : token ≠ publication.generation) :
    publication.IsSuperseded token where
  publishes clock now inventory := by
    simp [apply, accepts, older, superseded]
  notes failure := by
    simp [recordFailure, accepts, older, superseded]

namespace Session

/-- The first call of a run is taken before the others. -/
theorem run_cons
    (session : Session)
    (call : Call)
    (rest : List Call) :
    session.run (call :: rest) = (session.step call).1.run rest :=
  rfl

/-- A call leaves the cluster as it is. -/
theorem cluster_step
    (session : Session)
    (call : Call) :
    (session.step call).1.publication.cluster =
      session.publication.cluster := by
  cases call with
  | beginFetch =>
      rfl
  | invalidate scope =>
      simp only [step, Publication.invalidate]
      split <;> rfl
  | succeed fetch clock now inventory =>
      simp only [step]
      split
      · simp only [apply]
        split <;> rfl
      · rfl
  | fail fetch failure =>
      simp only [step]
      split
      · simp only [recordFailure]
        split <;> rfl
      · rfl

/-- The generation counts the calls that supersede. -/
theorem generation_step
    (session : Session)
    (call : Call) :
    (session.step call).1.publication.generation =
      session.publication.generation +
        if call.supersedes session.publication.cluster then 1 else 0 := by
  cases call with
  | beginFetch =>
      rfl
  | invalidate scope =>
      cases covered : scope.covers session.publication.cluster <;>
        simp [step, Publication.invalidate, Call.supersedes, covered]
  | succeed fetch clock now inventory =>
      simp only [step, Call.supersedes]
      split
      · simp only [apply]
        split <;> simp
      · simp
  | fail fetch failure =>
      simp only [step, Call.supersedes]
      split
      · simp only [recordFailure]
        split <;> simp
      · simp

/-- A call that begins a fetch hands out the new generation as its token. -/
theorem tokens_step
    (session : Session)
    (call : Call) :
    (session.step call).1.tokens =
      session.tokens ++
        if call.begins then [session.publication.generation + 1] else [] := by
  cases call with
  | beginFetch =>
      rfl
  | invalidate scope =>
      simp [step, Call.begins]
  | succeed fetch clock now inventory =>
      simp only [step, Call.begins]
      split <;> simp
  | fail fetch failure =>
      simp only [step, Call.begins]
      split <;> simp

/-- The generation after a run counts the calls of the run that supersede. -/
theorem generation_run
    (session : Session)
    (calls : List Call) :
    (session.run calls).publication.generation =
      session.publication.generation +
        calls.countP (·.supersedes session.publication.cluster) := by
  induction calls generalizing session with
  | nil =>
      simp [run]
  | cons call rest inductionHypothesis =>
      have later := inductionHypothesis (session.step call).1
      rw [cluster_step, generation_step] at later
      rw [run_cons, later, List.countP_cons]
      split
      · simp only [Int.natCast_add, Int.natCast_one]
        omega
      · simp only [Int.natCast_add, Int.natCast_zero]
        omega

/-- The tokens are handed out in ascending order, up to the generation. -/
structure Ascending
    (session : Session) :
    Prop where
  increasing : session.tokens.Pairwise (· < ·)
  bounded : ∀ token ∈ session.tokens, token ≤ session.publication.generation

/-- There is no token before the first fetch. -/
theorem ascending_start
    (cluster : String) :
    (start cluster).Ascending where
  increasing := .nil
  bounded := by
    simp [start]

/-- A call keeps the tokens in ascending order. -/
theorem Ascending.step
    {session : Session}
    (ascending : session.Ascending)
    (call : Call) :
    (session.step call).1.Ascending := by
  have grown :
      session.publication.generation ≤
        (session.step call).1.publication.generation := by
    rw [generation_step]
    split <;> omega
  constructor
  · rw [tokens_step]
    split
    · rw [List.pairwise_append]
      refine ⟨ascending.increasing, by simp, ?_⟩
      intro token member newest isNewest
      rw [List.mem_singleton] at isNewest
      have bound := ascending.bounded token member
      omega
    · simpa using ascending.increasing
  · intro token member
    rw [tokens_step] at member
    rcases List.mem_append.mp member with old | new
    · exact Int.le_trans (ascending.bounded token old) grown
    · cases call with
      | beginFetch =>
          simp only [Call.begins, if_true, List.mem_singleton] at new
          rw [new, generation_step]
          simp [Call.supersedes]
      | invalidate scope =>
          simp [Call.begins] at new
      | succeed fetch clock now inventory =>
          simp [Call.begins] at new
      | fail fetch failure =>
          simp [Call.begins] at new

/-- A run keeps the tokens in ascending order. -/
theorem Ascending.run
    {session : Session}
    (ascending : session.Ascending)
    (calls : List Call) :
    (session.run calls).Ascending := by
  induction calls generalizing session with
  | nil =>
      exact ascending
  | cons call rest inductionHypothesis =>
      exact inductionHypothesis (ascending.step call)

/-- A call changes what is published just if it publishes. -/
theorem published_step
    (session : Session)
    (call : Call) :
    match session.publishes? call with
    | none =>
        (session.step call).1.publication.published =
          session.publication.published
    | some (_, inventory) =>
        (session.step call).1.publication.published.snapshot =
          .ofInventory inventory := by
  cases call with
  | beginFetch =>
      rfl
  | invalidate scope =>
      simp only [publishes?, step, Publication.invalidate]
      split <;> rfl
  | succeed fetch clock now inventory =>
      cases known : session.tokens[fetch]? with
      | none =>
          simp [publishes?, step, known]
      | some token =>
          by_cases newest : token = session.publication.generation
          · have effective :=
              (isCurrent_of_eq newest).publishes clock now inventory
            simp [publishes?, step, known, effective]
          · have refused :=
              (isSuperseded_of_ne newest).publishes clock now inventory
            simp [publishes?, step, known, refused]
  | fail fetch failure =>
      cases known : session.tokens[fetch]? with
      | none =>
          simp [publishes?, step, known]
      | some token =>
          by_cases newest : token = session.publication.generation
          · have effective := (isCurrent_of_eq newest).notes failure
            simp [publishes?, step, known, effective]
          · have refused := (isSuperseded_of_ne newest).notes failure
            simp [publishes?, step, known, refused]

end Session

end ShardAtlas.Publication
