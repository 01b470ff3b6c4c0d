import ShardAtlas.Proofs.RefreshWindow
import ShardAtlas.Proofs.Timer

namespace ShardAtlas

/-!
# Looks at a clock do not matter

A clock closes the window of a refresh only when somebody looks at it, so a look changes
the clock. Here the clock is held against one that needs no looks: it is refreshing from
the start of a refresh until the window is over, by the time alone.

Where time does not go back, both are the same. What a look changes is what any later look
would change as well, so looks can be put in or left out without a difference to whatever
is asked later.
-/

namespace Refresh

/--
What a clock does at some time that notices by itself when a window is over, given the
length of its windows, its interval and the start of its last refresh.
-/
def eagerPhase
    (settleWindow interval : Int)
    (lastRefresh : Option Int)
    (now : Int) :
    Phase :=
  if lastRefresh.any fun started => now < started + settleWindow then
    .refreshing
  else if interval = 0 then
    .idle
  else
    .scheduled

namespace Clock

/-- A window that is open at some times is open at the latest of them. -/
theorem openUntil?_settled
    (clock : Clock)
    (first second : Int) :
    (clock.settled first).openUntil? second =
      clock.openUntil? (max first second) := by
  rw [settled_eq]
  simp only [openUntil?, Option.filter_filter]
  congr 1
  funext deadline
  rw [← Bool.decide_and, decide_eq_decide, Int.max_lt]

/-- Of two looks at a clock only the later one matters. -/
theorem settled_settled
    (clock : Clock)
    (first second : Int) :
    (clock.settled first).settled second =
      clock.settled (max first second) := by
  rw [settled_eq (clock.settled first), openUntil?_settled,
    settled_eq clock first, settled_eq clock (max first second)]

/-- A look makes no difference to a choice of an interval. -/
theorem settled_withInterval
    (clock : Clock)
    (interval time now : Int) :
    (clock.withInterval interval time).settled now =
      (clock.settled now).withInterval interval time := by
  rw [settled_eq, settled_eq]
  rfl

/-- A look makes no difference to a tick that is given out. -/
theorem settled_stamped
    (clock : Clock)
    (time now : Int) :
    (clock.stamped time).1.settled now =
      ((clock.settled now).stamped time).1 := by
  rw [settled_eq, settled_eq]
  rfl

/-- What is left of a window after some looks is open later just if the window is. -/
theorem filter_stillOpen
    (window : Option Int)
    {looks : List Int}
    {now : Int}
    (since : ∀ look ∈ looks, look ≤ now) :
    ((stillOpen window looks).filter fun windowEnd => now < windowEnd) =
      window.filter fun windowEnd => now < windowEnd := by
  rw [stillOpen, Option.filter_filter]
  congr 1
  funext windowEnd
  rw [Bool.eq_iff_iff, Bool.and_eq_true, List.all_eq_true,
    decide_eq_true_iff]
  constructor
  · exact And.right
  · intro isOpen
    refine ⟨fun look member => decide_eq_true ?_, isOpen⟩
    exact Int.lt_of_le_of_lt (since look member) isOpen

/-- A look leaves the next tick as it is. -/
theorem nextTick_settled
    (clock : Clock)
    (time now : Int) :
    (clock.settled now).nextTick time = clock.nextTick time := by
  rw [settled_eq]
  rfl

/-- A look leaves the timer as it is. -/
theorem isDue_settled
    (clock : Clock)
    (due now : Int) :
    (clock.settled now).isDue due = clock.isDue due := by
  rw [settled_eq]
  rfl

end Clock

end Refresh

namespace Ensemble

/-- What a call is answered. -/
inductive Answer
    (ε : Type v)
  | done
  | reads (phase : Refresh.Phase)
  | sets (outcome : Except Refresh.SettingFault Unit)
  | triggers (outcome : Except ε Int)
  | fires (outcome : Except ε Bool)
  | stamps (tick : Int)
  | begins (token : Option Int)
  | ends (outcome : Option FetchOutcome)

/-- The answer to a call. -/
def answer
    (ensemble : Ensemble σ ε) :
    Call σ ε →
    Answer ε
  | .look now =>
      .reads (ensemble.clock.settled now).phase
  | .setInterval value _ =>
      .sets (Refresh.settingOutcome value)
  | .join _ =>
      .done
  | .trigger scope times =>
      .triggers (ensemble.triggered scope times).2.2
  | .tick looked due times =>
      .fires (ensemble.ticked looked due times).2.2
  | .markFetched now =>
      .stamps (ensemble.clock.stamped now).2
  | .invalidate _ _ =>
      .done
  | .beginFetch place =>
      .begins
        (ensemble.publications[place]?.map fun publication =>
          publication.beginFetch.2)
  | .succeed place token now inventory =>
      .ends
        (ensemble.publications[place]?.map fun publication =>
          (publication.apply (some ensemble.clock) now token
            inventory).2.2)
  | .fail place token failure =>
      .ends
        (ensemble.publications[place]?.map fun publication =>
          (publication.recordFailure token failure).2)

/-- When the refresh started that a call completes, by the answer to the call. -/
def refresh?
    (ensemble : Ensemble σ ε)
    (call : Call σ ε) :
    Option Int :=
  match call, ensemble.answer call with
  | .trigger _ times, .triggers (.ok _) => some times.started
  | .tick _ _ times, .fires (.ok true) => some times.started
  | _, _ => none

/-- When the refreshes started that are completed in a run. -/
def refreshes
    (ensemble : Ensemble σ ε) :
    List (Call σ ε) →
    List Int :=
  gathered refresh? ensemble

/-- Whether a call only asks what the clock is doing. -/
def Call.isLook :
    Call σ ε →
    Bool
  | .look _ => true
  | _ => false

/-- Calls without those that only ask what the clock is doing. -/
def withoutLooks
    (calls : List (Call σ ε)) :
    List (Call σ ε) :=
  calls.filter fun call => !call.isLook

/-- An ensemble after a look at its clock. -/
def seenAt
    (ensemble : Ensemble σ ε)
    (now : Int) :
    Ensemble σ ε :=
  ensemble.step (.look now)

/-- A look makes no difference to a refresh. -/
theorem triggered_seenAt
    (ensemble : Ensemble σ ε)
    (scope : Refresh.Scope)
    (times : Refresh.RefreshTimes)
    (now : Int) :
    (ensemble.seenAt now).triggered scope times =
      ensemble.triggered scope times :=
  ensemble.clock.trigger_settled now times scope ensemble.announcements
    ensemble.told

/-- A look makes no difference to what comes of a fetch. -/
theorem apply_settled
    (publication : Publication)
    (clock : Refresh.Clock)
    (time token now : Int)
    (inventory : Inventory) :
    (publication.apply (some (clock.settled now)) time token inventory) =
      ((publication.apply (some clock) time token inventory).1,
        (publication.apply (some clock) time token inventory).2.1.map
          (·.settled now),
        (publication.apply (some clock) time token inventory).2.2) := by
  unfold Publication.apply
  cases publication.accepts token with
  | false =>
      rfl
  | true =>
      simp only [if_true, publicationTick,
        Option.map_some, ← Refresh.Clock.settled_stamped]
      simp only [Refresh.Clock.stamped, Refresh.Clock.nextTick_settled]

/-- A look is noticed by no call but one with an earlier look. -/
theorem answer_seenAt
    (ensemble : Ensemble σ ε)
    {call : Call σ ε}
    {now : Int}
    (before : ∀ look, call.look? = some look → now ≤ look) :
    (ensemble.seenAt now).answer call = ensemble.answer call := by
  cases call with
  | look later =>
      simp only [answer, seenAt, step, Refresh.Clock.settled_settled,
        Int.max_eq_right (before later rfl)]
  | trigger scope times =>
      simp only [answer, triggered_seenAt]
  | tick looked due times =>
      have sameTimer :
          (ensemble.seenAt now).clock.isDue due =
            ensemble.clock.isDue due :=
        ensemble.clock.isDue_settled due now
      cases isDue : ensemble.clock.isDue due with
      | true =>
          simp only [answer, ticked_of_due isDue,
            ticked_of_due (sameTimer.trans isDue), triggered_seenAt]
      | false =>
          simp only [answer, ticked_of_not_due isDue,
            ticked_of_not_due (sameTimer.trans isDue)]
  | markFetched time =>
      exact
        congrArg Answer.stamps (ensemble.clock.nextTick_settled time now)
  | succeed place token time inventory =>
      simp only [answer, seenAt, step, apply_settled]
  | _ =>
      rfl

/-- A look makes no difference to a later one, whatever call is taken between them. -/
theorem seenAt_step_seenAt
    (ensemble : Ensemble σ ε)
    {call : Call σ ε}
    {now : Int}
    (since : ∀ look, call.look? = some look → look ≤ now) :
    ((ensemble.seenAt now).step call).seenAt now =
      (ensemble.step call).seenAt now := by
  cases call with
  | look earlier =>
      simp only [seenAt, step, Refresh.Clock.settled_settled,
        Int.max_eq_right (since earlier rfl), Int.max_self,
        Int.max_eq_left (since earlier rfl)]
  | setInterval value time =>
      simp only [seenAt, step]
      cases Refresh.checkInterval value with
      | ok interval =>
          simp only [Refresh.Clock.settled_withInterval,
            Refresh.Clock.settled_settled, Int.max_self]
      | error fault =>
          simp only [Refresh.Clock.settled_settled, Int.max_self]
  | trigger scope times =>
      simp only [step, triggered_seenAt]
      rfl
  | tick looked due times =>
      have sameTimer :
          (ensemble.seenAt now).clock.isDue due =
            ensemble.clock.isDue due :=
        ensemble.clock.isDue_settled due now
      cases isDue : ensemble.clock.isDue due with
      | true =>
          simp only [step, ticked_of_due isDue,
            ticked_of_due (sameTimer.trans isDue), triggered_seenAt]
          rfl
      | false =>
          simp only [step, ticked_of_not_due isDue,
            ticked_of_not_due (sameTimer.trans isDue)]
          simp only [seenAt, told, step, Refresh.Clock.settled_settled,
            Int.max_eq_right (since looked rfl),
            Int.max_eq_left (since looked rfl), Int.max_self]
  | markFetched time =>
      simp only [seenAt, step, Refresh.Clock.settled_stamped,
        Refresh.Clock.settled_settled, Int.max_self]
  | succeed place token time inventory =>
      simp only [seenAt, step]
      cases ensemble.publications[place]? with
      | none =>
          simp only [Refresh.Clock.settled_settled, Int.max_self]
      | some publication =>
          simp only [apply_settled]
          cases (publication.apply (some ensemble.clock) time token
              inventory).2.1 <;>
            simp only [Option.map_none, Option.map_some, Option.getD_none,
              Option.getD_some, Refresh.Clock.settled_settled, Int.max_self]
  | _ =>
      simp only [seenAt, step, Refresh.Clock.settled_settled, Int.max_self]

/-- Every look is taken by the first call or by a later one. -/
theorem forall_looks_cons_iff
    (call : Call σ ε)
    (rest : List (Call σ ε))
    (holds : Int → Prop) :
    (∀ look ∈ looks (call :: rest), holds look) ↔
      (∀ look, call.look? = some look → holds look) ∧
        ∀ look ∈ looks rest, holds look := by
  simp only [looks, List.filterMap_cons]
  cases call.look? with
  | none =>
      simp
  | some look =>
      simp

/-- A look makes no difference to a later one, whatever is asked between them. -/
theorem seenAt_run_seenAt
    (ensemble : Ensemble σ ε)
    {calls : List (Call σ ε)}
    {now : Int}
    (since : ∀ look ∈ looks calls, look ≤ now) :
    ((ensemble.seenAt now).run calls).seenAt now =
      (ensemble.run calls).seenAt now := by
  induction calls generalizing ensemble with
  | nil =>
      simp only [run, List.foldl_nil, seenAt, step,
        Refresh.Clock.settled_settled, Int.max_self]
  | cons call rest inductionHypothesis =>
      obtain ⟨sinceCall, sinceRest⟩ :=
        (forall_looks_cons_iff call rest _).mp since
      have onRest (other : Ensemble σ ε) :=
        inductionHypothesis other sinceRest
      calc
        ((ensemble.seenAt now).run (call :: rest)).seenAt now =
            ((((ensemble.seenAt now).step call).seenAt now).run
              rest).seenAt now :=
          (onRest _).symm
        _ = (((ensemble.step call).seenAt now).run rest).seenAt now := by
          rw [ensemble.seenAt_step_seenAt sinceCall]
        _ = (ensemble.run (call :: rest)).seenAt now :=
          onRest _

/-- A run comes to the same without its looks, as seen by a later look. -/
theorem seenAt_run_withoutLooks
    (ensemble : Ensemble σ ε)
    {calls : List (Call σ ε)}
    {now : Int}
    (since : ∀ look ∈ looks calls, look ≤ now) :
    (ensemble.run (withoutLooks calls)).seenAt now =
      (ensemble.run calls).seenAt now := by
  induction calls generalizing ensemble with
  | nil =>
      rfl
  | cons call rest inductionHypothesis =>
      obtain ⟨sinceCall, sinceRest⟩ :=
        (forall_looks_cons_iff call rest _).mp since
      have onRest (other : Ensemble σ ε) :=
        inductionHypothesis other sinceRest
      cases call with
      | look earlier =>
          have noMore :
              (ensemble.step (.look earlier)).seenAt now =
                ensemble.seenAt now := by
            simp only [seenAt, step, Refresh.Clock.settled_settled,
              Int.max_eq_right (sinceCall earlier rfl)]
          calc
            (ensemble.run (withoutLooks rest)).seenAt now =
                (ensemble.run rest).seenAt now :=
              onRest ensemble
            _ = ((ensemble.seenAt now).run rest).seenAt now :=
              (ensemble.seenAt_run_seenAt sinceRest).symm
            _ = (((ensemble.step (.look earlier)).seenAt now).run
                  rest).seenAt now := by
              rw [noMore]
            _ = ((ensemble.step (.look earlier)).run rest).seenAt now :=
              seenAt_run_seenAt _ sinceRest
      | _ =>
          exact onRest _

/-- Runs with the same calls but for looks come to the same, as seen by a later look. -/
theorem seenAt_run_eq
    (ensemble : Ensemble σ ε)
    {calls others : List (Call σ ε)}
    (same : withoutLooks calls = withoutLooks others)
    {now : Int}
    (since : ∀ look ∈ looks calls, look ≤ now)
    (sinceOthers : ∀ look ∈ looks others, look ≤ now) :
    (ensemble.run calls).seenAt now = (ensemble.run others).seenAt now := by
  rw [← ensemble.seenAt_run_withoutLooks since, same,
    ensemble.seenAt_run_withoutLooks sinceOthers]

/-- No time of some is after a late enough one. -/
theorem exists_since
    (times : List Int) :
    ∃ now, ∀ time ∈ times, time ≤ now := by
  induction times with
  | nil =>
      exact ⟨0, by simp⟩
  | cons first rest inductionHypothesis =>
      obtain ⟨now, since⟩ := inductionHypothesis
      refine ⟨max first now, ?_⟩
      intro time member
      rcases List.mem_cons.mp member with isFirst | inRest
      · omega
      · have := since time inRest
        omega

/-- A call is answered the same after runs with the same calls but for earlier looks. -/
theorem answer_run_eq
    (ensemble : Ensemble σ ε)
    {calls others : List (Call σ ε)}
    (same : withoutLooks calls = withoutLooks others)
    {call : Call σ ε}
    (before :
      ∀ look, call.look? = some look →
        ∀ earlier ∈ looks calls ++ looks others, earlier ≤ look) :
    (ensemble.run calls).answer call = (ensemble.run others).answer call := by
  -- A time after the looks of both runs, and not after the look of the call.
  have between :
      ∃ now, (∀ earlier ∈ looks calls ++ looks others, earlier ≤ now) ∧
        ∀ look, call.look? = some look → now ≤ look := by
    cases taken : call.look? with
    | none =>
        obtain ⟨now, since⟩ := exists_since (looks calls ++ looks others)
        exact ⟨now, since, by simp⟩
    | some look =>
        exact ⟨look, before look taken, by simp⟩
  obtain ⟨now, since, notAfter⟩ := between
  rw [List.forall_mem_append] at since
  calc
    (ensemble.run calls).answer call =
        ((ensemble.run calls).seenAt now).answer call :=
      (answer_seenAt _ notAfter).symm
    _ = ((ensemble.run others).seenAt now).answer call := by
      rw [ensemble.seenAt_run_eq same since.1 since.2]
    _ = (ensemble.run others).answer call :=
      answer_seenAt _ notAfter

/-- The refresh that was started last is the last of those that were started. -/
theorem map_fst_lastAttempt?
    (ensemble : Ensemble σ ε)
    (calls : List (Call σ ε)) :
    (ensemble.lastAttempt? calls).map Prod.fst =
      (ensemble.attempts calls).getLast? := by
  induction calls generalizing ensemble with
  | nil =>
      rfl
  | cons call rest inductionHypothesis =>
      have shape :
          ensemble.attempts (call :: rest) =
            (ensemble.attempt? call).toList ++
              (ensemble.step call).attempts rest :=
        rfl
      rw [lastAttempt?, Option.map_or, inductionHypothesis, Option.map_map,
        shape, List.getLast?_append]
      cases ensemble.attempt? call <;> rfl

/-- A refresh that is started is told by the answer, if it is completed. -/
theorem refresh?_eq
    (ensemble : Ensemble σ ε)
    (call : Call σ ε)
    (completed :
      ∀ attempt, ensemble.attempt? call = some attempt →
        ∃ tick, attempt.outcome = .ok tick) :
    ensemble.refresh? call =
      (ensemble.attempt? call).map (·.times.started) := by
  cases call with
  | trigger scope times =>
      obtain ⟨tick, outcome⟩ := completed _ rfl
      have ended : (ensemble.triggered scope times).2.2 = .ok tick :=
        outcome
      simp only [refresh?, answer, attempt?, ended, Option.map_some]
  | tick looked due times =>
      cases isDue : ensemble.clock.isDue due with
      | false =>
          simp [refresh?, answer, attempt?, isDue, ticked_of_not_due isDue]
      | true =>
          obtain ⟨tick, outcome⟩ := completed _ (if_pos isDue)
          have ended :
              (ensemble.triggered .everything times).2.2 = .ok tick :=
            outcome
          simp only [refresh?, answer, attempt?, isDue, if_true,
            ticked_of_due isDue, ended, Except.map, Option.map_some]
  | _ =>
      rfl

/-- Where every refresh is completed, those that are started are told by the answers. -/
theorem refreshes_eq
    (ensemble : Ensemble σ ε)
    {calls : List (Call σ ε)}
    (completed :
      ∀ attempt ∈ ensemble.attempts calls,
        ∃ tick, attempt.outcome = .ok tick) :
    ensemble.refreshes calls =
      (ensemble.attempts calls).map (·.times.started) := by
  induction calls generalizing ensemble with
  | nil =>
      rfl
  | cons call rest inductionHypothesis =>
      simp only [attempts, gathered, List.forall_mem_append,
        Option.mem_toList] at completed
      obtain ⟨ofCall, ofRest⟩ := completed
      have first := ensemble.refresh?_eq call ofCall
      have later := inductionHypothesis _ ofRest
      simp only [refreshes, attempts, gathered, List.map_append] at later ⊢
      rw [first, later]
      cases ensemble.attempt? call <;> rfl

/-- The calls since the last refresh that was started are the last ones of a run. -/
theorem suffix_of_lastAttempt?
    {ensemble : Ensemble σ ε}
    {calls later : List (Call σ ε)}
    {attempt : Attempt ε}
    (last : ensemble.lastAttempt? calls = some (attempt, later)) :
    later <:+ calls := by
  induction calls generalizing ensemble with
  | nil =>
      cases last
  | cons call rest inductionHypothesis =>
      rcases Option.or_eq_some_iff.mp last with ofRest | ⟨_, ofCall⟩
      · exact (inductionHypothesis ofRest).trans (List.suffix_cons call rest)
      · obtain ⟨_, _, same⟩ := Option.map_eq_some_iff.mp ofCall
        cases same
        exact List.suffix_cons call _

/-- A clock whose window was not open at first is seen to do what the time alone tells. -/
theorem phase_settled_run
    {start : Ensemble σ ε}
    (closed : start.clock.settleDeadline = none)
    {calls : List (Call σ ε)}
    {now : Int}
    (since : ∀ look ∈ looks calls, look ≤ now) :
    ((start.run calls).clock.settled now).phase =
      Refresh.eagerPhase start.clock.settings.settleWindow
        (start.run calls).clock.interval
        ((start.attempts calls).getLast?.map (·.times.started)) now := by
  have window := settleDeadline_run start calls
  rw [closed] at window
  rw [Refresh.Clock.settled_eq]
  simp only [Refresh.Clock.phase, Refresh.Clock.openUntil?, window,
    Refresh.eagerPhase, ← start.map_fst_lastAttempt?]
  cases last : start.lastAttempt? calls with
  | none =>
      rfl
  | some found =>
      obtain ⟨attempt, later⟩ := found
      have suffix := (suffix_of_lastAttempt? last).filterMap Call.look?
      have sinceLater : ∀ look ∈ looks later, look ≤ now :=
        fun look member => since look (suffix.subset member)
      rw [Refresh.Clock.filter_stillOpen _ sinceLater, Option.isSome_filter]
      rfl

/-- Looks are among the times that are read. -/
theorem mem_readings_of_look?
    {call : Call σ ε}
    {look : Int}
    (taken : call.look? = some look) :
    look ∈ call.readings := by
  cases call <;> simp_all [Call.look?, Call.readings]

/-- The looks of a run are among the times that are read in it. -/
theorem looks_subset_readings
    (calls : List (Call σ ε)) :
    looks calls ⊆ calls.flatMap Call.readings := by
  intro look member
  obtain ⟨call, inCalls, taken⟩ := List.mem_filterMap.mp member
  exact List.mem_flatMap.mpr ⟨call, inCalls, mem_readings_of_look? taken⟩

/-- Where time does not go back, no look of a run is after one that follows it. -/
theorem le_of_look_of_forward
    {calls : List (Call σ ε)}
    {call : Call σ ε}
    (forward :
      ((calls ++ [call]).flatMap Call.readings).Pairwise (· ≤ ·))
    {look : Int}
    (taken : call.look? = some look) :
    ∀ earlier ∈ looks calls, earlier ≤ look := by
  intro earlier member
  rw [List.flatMap_append, List.flatMap_singleton,
    List.pairwise_append] at forward
  exact
    forward.2.2 earlier (looks_subset_readings calls member) look
      (mem_readings_of_look? taken)

/--
Where time does not go back, a clock that notices the end of a window only when it is
looked at does as one that notices it by itself.

If no hearer fails, a look finds it refreshing just if the window of the last refresh is
open, of one that was asked for or fired, and else idle or scheduled by its interval. And
whatever is asked is answered the same after runs with the same calls but for looks, which
come to the same as seen by a look.
-/
theorem settling_late_eq_eager
    (settings : Refresh.ClockSettings)
    (interval now : Int)
    (clusters : List String)
    (hearers : List (Hearer σ ε))
    (others : σ) :
    let start := start settings interval now clusters hearers others
    (∀ (calls : List (Call σ ε)) (look : Int),
      (∀ attempt ∈ start.attempts calls,
          ∃ tick, attempt.outcome = .ok tick) →
        ((calls ++ [Call.look look]).flatMap
            Call.readings).Pairwise (· ≤ ·) →
          (start.run calls).answer (.look look) =
            .reads
              (Refresh.eagerPhase settings.settleWindow
                (chosenInterval interval calls)
                (start.refreshes calls).getLast? look)) ∧
      ∀ (before before' : List (Call σ ε)) (call : Call σ ε),
        withoutLooks before = withoutLooks before' →
          ((before ++ [call]).flatMap Call.readings).Pairwise (· ≤ ·) →
            ((before' ++ [call]).flatMap Call.readings).Pairwise (· ≤ ·) →
              (start.run before).answer call =
                  (start.run before').answer call ∧
                ∀ look, call = .look look →
                  (start.run before).step call =
                    (start.run before').step call := by
  intro start
  constructor
  · intro calls look completed forward
    have runs : start.RunsFrom now :=
      rfl
    have since := le_of_look_of_forward forward rfl
    rw [start.refreshes_eq completed, List.getLast?_map,
      show chosenInterval interval calls =
        (start.run calls).clock.interval from (runs.run calls).1.symm]
    have closed : start.clock.settleDeadline = none :=
      rfl
    exact congrArg Answer.reads (phase_settled_run closed since)
  · intro before before' call same forward forward'
    constructor
    · apply start.answer_run_eq same
      intro look taken
      exact
        List.forall_mem_append.mpr
          ⟨le_of_look_of_forward forward taken,
            le_of_look_of_forward forward' taken⟩
    · rintro look rfl
      exact
        start.seenAt_run_eq same (le_of_look_of_forward forward rfl)
          (le_of_look_of_forward forward' rfl)

/--
A refresh whose interval is turned off while its window is open ends idle, whether anybody
looks meanwhile or not.
-/
theorem window_ends_idle :
    let start : Ensemble Unit Unit :=
      start {} 15000 0 [] [.other fun _ others => (others, .ok ())] ()
    let trigger : Call Unit Unit := .trigger .everything (.still 1000)
    let off : Call Unit Unit := .setInterval (.integer 0) 1450
    (∀ attempt ∈ start.attempts [trigger, .look 1400, off],
        ∃ tick, attempt.outcome = .ok tick) ∧
      ([trigger, .look 1400, off, .look 1500].flatMap
        Call.readings).Pairwise (· ≤ ·) ∧
      (start.run [trigger, .look 1400, off]).answer (.look 1499) =
        .reads .refreshing ∧
      (start.run [trigger, .look 1400, off]).answer (.look 1500) =
        .reads .idle ∧
      (start.run [trigger, .look 1400, off]).step (.look 1500) =
        (start.run [trigger, off]).step (.look 1500) := by
  intro start trigger off
  have completed :
      ∀ attempt ∈ start.attempts [trigger, .look 1400, off],
        ∃ tick, attempt.outcome = .ok tick := by
    intro attempt member
    rw [List.mem_singleton.mp member]
    exact ⟨1000, rfl⟩
  obtain ⟨phases, sameAnswers⟩ :=
    settling_late_eq_eager {} 15000 0 []
      [.other fun _ others => (others, .ok ())] ()
  exact
    ⟨completed, by decide,
      phases [trigger, .look 1400, off] 1499 completed (by decide),
      phases [trigger, .look 1400, off] 1500 completed (by decide),
      (sameAnswers [trigger, .look 1400, off] [trigger, off] (.look 1500)
        rfl (by decide) (by decide)).2 1500 rfl⟩

end Ensemble

end ShardAtlas
