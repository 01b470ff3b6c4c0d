import ShardAtlas.Proofs.Ensemble
import ShardAtlas.Refresh.Remembered

namespace ShardAtlas

/-!
# The timer of a clock

The timer runs from the time at which it was last started: with the clock, with the
choice of an interval, or with a refresh that was completed, asked for or fired. It
fires at the first look that finds the interval over, and starts again from that look.
So periods that nobody looked at are not made up for.

Times may go back between calls and within one. Only what is said about two firings in
a row needs a time that does not.
-/

namespace Refresh

/-- A remembered text stands for no negative interval. -/
theorem nonneg_of_readRemembered?
    {text : String}
    {interval : Int}
    (read : readRemembered? text = some interval) :
    0 ≤ interval := by
  unfold readRemembered? at read
  split at read
  · split at read
    · cases read
    · next notNegative =>
        cases read
        exact Int.not_lt.mp notNegative
  · cases read

/-- A clock starts with no negative interval, unless that is its default one. -/
theorem rememberedInterval_nonneg
    {settings : ClockSettings}
    (nonnegative : 0 ≤ settings.defaultInterval)
    (preferences : Option Preferences) :
    0 ≤ (rememberedInterval settings preferences).1 := by
  cases preferences with
  | none =>
      exact nonnegative
  | some place =>
      simp only [rememberedInterval, remembered]
      unfold chosen
      split
      · exact nonnegative
      · exact nonnegative
      · next text _ =>
          split
          · next interval offered =>
              exact
                nonneg_of_readRemembered?
                  (Option.filter_eq_some_iff.mp offered).1
          · exact nonnegative

/-- A timer is due just if it has an interval and that is over since it was started. -/
theorem Clock.isDue_iff
    {clock : Clock}
    {interval base : Int}
    (runs : clock.nextFiring = firingTime interval base)
    (due : Int) :
    clock.isDue due = true ↔ interval ≠ 0 ∧ base + interval ≤ due := by
  unfold isDue firingTime at *
  rw [runs]
  split <;> simp_all

end Refresh

namespace Ensemble

/-- The interval that a call chooses, if it is accepted. -/
def Call.interval? :
    Call σ ε →
    Option Int
  | .setInterval value _ => (Refresh.checkInterval value).toOption
  | _ => none

/-- The times that are read in a call, in their order. -/
def Call.readings :
    Call σ ε →
    List Int
  | .look now => [now]
  | .setInterval _ now => [now]
  | .trigger _ times => [times.started, times.told]
  | .tick looked due times => [looked, due, times.started, times.told]
  | .markFetched now => [now]
  | .succeed _ _ now _ => [now]
  | _ => []

/--
The time from which the timer runs after a call, if the call starts it again.

An interval that is accepted does so, and a refresh that is completed: one that is asked
for, or one that the timer fires.
-/
def restart?
    (ensemble : Ensemble σ ε) :
    Call σ ε →
    Option Int
  | .setInterval value now =>
      (Refresh.checkInterval value).toOption.map fun _ => now
  | .trigger scope times =>
      (ensemble.triggered scope times).2.2.toOption.map fun _ =>
        times.started
  | .tick looked due times =>
      match (ensemble.ticked looked due times).2.2 with
      | .ok true => some times.started
      | _ => none
  | _ =>
      none

/-- The time from which the timer runs after some calls, if it ran from another before. -/
def timerBase
    (ensemble : Ensemble σ ε)
    (base : Int)
    (calls : List (Call σ ε)) :
    Int :=
  ((gathered restart? ensemble calls).getLast?).getD base

/-- The interval after some calls, if there was another before. -/
def chosenInterval
    (interval : Int)
    (calls : List (Call σ ε)) :
    Int :=
  ((calls.filterMap Call.interval?).getLast?).getD interval

/-- Whether the timer of a clock runs from some time. -/
def RunsFrom
    (ensemble : Ensemble σ ε)
    (base : Int) :
    Prop :=
  ensemble.clock.nextFiring =
    Refresh.firingTime ensemble.clock.interval base

/-- What a look at the timer comes to, by what is announced if it is due. -/
theorem ticked_of_due
    {ensemble : Ensemble σ ε}
    {due : Int}
    (isDue : ensemble.clock.isDue due = true)
    (looked : Int)
    (times : Refresh.RefreshTimes) :
    ensemble.ticked looked due times =
      ((ensemble.triggered .everything times).1,
        (ensemble.triggered .everything times).2.1,
        (ensemble.triggered .everything times).2.2.map fun _ => true) := by
  simp only [ticked, Refresh.Clock.tick_eq, isDue, if_true]
  rfl

/-- A timer that is not due does not fire. -/
theorem ticked_of_not_due
    {ensemble : Ensemble σ ε}
    {due : Int}
    (notDue : ensemble.clock.isDue due = false)
    (looked : Int)
    (times : Refresh.RefreshTimes) :
    ensemble.ticked looked due times =
      (ensemble.clock.settled looked, ensemble.told, .ok false) := by
  simp only [ticked, Refresh.Clock.tick_eq, notDue, Bool.false_eq_true,
    if_false]

/-- Where every hearer can be told, a look at the timer says whether it was due. -/
theorem ticked_of_told
    {ensemble : Ensemble σ ε}
    (heard :
      (Refresh.announceAll .everything ensemble.announcements
        ensemble.told).2 = .ok ())
    (looked due : Int)
    (times : Refresh.RefreshTimes) :
    (ensemble.ticked looked due times).2.2 =
      .ok (ensemble.clock.isDue due) := by
  cases isDue : ensemble.clock.isDue due with
  | false =>
      rw [ticked_of_not_due isDue]
  | true =>
      have completed : (ensemble.triggered .everything times).2.2 = _ :=
        ensemble.clock.trigger_of_told times heard
      rw [ticked_of_due isDue, completed]
      rfl

/-- A refresh keeps the interval, and starts the timer again just if it is completed. -/
theorem RunsFrom.triggered
    {ensemble : Ensemble σ ε}
    {base : Int}
    (runs : ensemble.RunsFrom base)
    (scope : Refresh.Scope)
    (times : Refresh.RefreshTimes) :
    let refresh := ensemble.triggered scope times
    refresh.1.interval = ensemble.clock.interval ∧
      refresh.1.nextFiring =
        Refresh.firingTime ensemble.clock.interval
          ((refresh.2.2.toOption.map fun _ => times.started).getD base) := by
  rcases ensemble.clock.trigger_cases times scope
      ensemble.announcements ensemble.told with
    ⟨told, completed⟩ | ⟨told, cause, failed⟩
  · simp only [Ensemble.triggered, completed]
    exact ⟨rfl, rfl⟩
  · simp only [Ensemble.triggered, failed]
    exact ⟨rfl, runs⟩

/-- A call keeps the timer running, from its own time or from that before. -/
theorem RunsFrom.step
    {ensemble : Ensemble σ ε}
    {base : Int}
    (runs : ensemble.RunsFrom base)
    (call : Call σ ε) :
    (ensemble.step call).clock.interval =
        call.interval?.getD ensemble.clock.interval ∧
      (ensemble.step call).RunsFrom
        ((ensemble.restart? call).getD base) := by
  cases call with
  | look now =>
      simp only [RunsFrom, Ensemble.step, Refresh.Clock.settled_eq]
      exact ⟨rfl, runs⟩
  | setInterval value now =>
      simp only [RunsFrom, Ensemble.step, Call.interval?, restart?]
      cases Refresh.checkInterval value with
      | ok interval =>
          exact ⟨rfl, rfl⟩
      | error fault =>
          exact ⟨rfl, runs⟩
  | trigger scope times =>
      obtain ⟨interval, nextFiring⟩ := runs.triggered scope times
      have sameInterval :
          (ensemble.step (.trigger scope times)).clock.interval =
            ensemble.clock.interval :=
        interval
      refine ⟨sameInterval, ?_⟩
      rw [RunsFrom, sameInterval]
      exact nextFiring
  | tick looked due times =>
      obtain ⟨interval, nextFiring⟩ := runs.triggered .everything times
      have ticked :
          (ensemble.step (.tick looked due times)).clock =
            (ensemble.ticked looked due times).1 :=
        rfl
      cases isDue : ensemble.clock.isDue due with
      | false =>
          rw [RunsFrom, ticked, restart?, ticked_of_not_due isDue,
            Refresh.Clock.settled_eq]
          exact ⟨rfl, runs⟩
      | true =>
          rw [RunsFrom, ticked, restart?, ticked_of_due isDue]
          refine ⟨interval, ?_⟩
          rw [interval, nextFiring]
          cases (ensemble.triggered .everything times).2.2 <;> rfl
  | markFetched now =>
      exact ⟨rfl, runs⟩
  | succeed place token now inventory =>
      simp only [RunsFrom, Ensemble.step]
      cases ensemble.publications[place]? with
      | none =>
          exact ⟨rfl, runs⟩
      | some publication =>
          simp only [Publication.apply]
          split
          · exact ⟨rfl, runs⟩
          · exact ⟨rfl, runs⟩
  | _ =>
      exact ⟨rfl, runs⟩

/-- A run keeps the timer running, from the time of the last call that started it. -/
theorem RunsFrom.run
    {ensemble : Ensemble σ ε}
    {base : Int}
    (runs : ensemble.RunsFrom base)
    (calls : List (Call σ ε)) :
    (ensemble.run calls).clock.interval =
        chosenInterval ensemble.clock.interval calls ∧
      (ensemble.run calls).RunsFrom (ensemble.timerBase base calls) := by
  induction calls generalizing ensemble base with
  | nil =>
      exact ⟨rfl, runs⟩
  | cons call rest inductionHypothesis =>
      obtain ⟨interval, runsNext⟩ := runs.step call
      obtain ⟨chosen, runsLater⟩ := inductionHypothesis runsNext
      have chosenShape :
          chosenInterval ensemble.clock.interval (call :: rest) =
            chosenInterval (call.interval?.getD ensemble.clock.interval)
              rest := by
        cases accepted : call.interval? <;>
          simp [chosenInterval, accepted, List.getLast?_cons]
      have baseShape :
          ensemble.timerBase base (call :: rest) =
            (ensemble.step call).timerBase
              ((ensemble.restart? call).getD base) rest := by
        cases restarted : ensemble.restart? call <;>
          simp [timerBase, gathered, restarted, List.getLast?_cons]
      rw [run_cons, chosenShape, baseShape, ← interval]
      exact ⟨chosen, runsLater⟩

/-- An interval that is chosen is not negative, if the one before is not. -/
theorem chosenInterval_nonneg
    {interval : Int}
    (nonnegative : 0 ≤ interval)
    (calls : List (Call σ ε)) :
    0 ≤ chosenInterval interval calls := by
  unfold chosenInterval
  cases newest : (calls.filterMap Call.interval?).getLast? with
  | none =>
      exact nonnegative
  | some chosen =>
      obtain ⟨call, _, accepted⟩ :=
        List.mem_filterMap.mp (List.mem_of_getLast? newest)
      cases call with
      | setInterval value now =>
          simp only [Call.interval?] at accepted
          cases checked : Refresh.checkInterval value with
          | ok interval =>
              rw [checked] at accepted
              cases accepted
              exact (Refresh.checkInterval_eq_ok_iff.mp checked).2
          | error fault =>
              rw [checked] at accepted
              cases accepted
      | _ =>
          cases accepted

/-- A timer is started again at a time that is read in the call. -/
theorem restart?_mem_readings
    {ensemble : Ensemble σ ε}
    {call : Call σ ε}
    {time : Int}
    (restarted : ensemble.restart? call = some time) :
    time ∈ call.readings := by
  cases call with
  | setInterval value now =>
      obtain ⟨_, _, rfl⟩ := Option.map_eq_some_iff.mp restarted
      simp [Call.readings]
  | trigger scope times =>
      obtain ⟨_, _, rfl⟩ := Option.map_eq_some_iff.mp restarted
      simp [Call.readings]
  | tick looked due times =>
      simp only [restart?] at restarted
      split at restarted
      · cases restarted
        simp [Call.readings]
      · cases restarted
  | _ =>
      cases restarted

/-- A timer that is started again in some calls is so at a time that is read in them. -/
theorem gathered_restart?_mem_readings
    {ensemble : Ensemble σ ε}
    {calls : List (Call σ ε)}
    {time : Int}
    (restarted : time ∈ gathered restart? ensemble calls) :
    time ∈ calls.flatMap Call.readings := by
  induction calls generalizing ensemble with
  | nil =>
      cases restarted
  | cons call rest inductionHypothesis =>
      rw [List.flatMap_cons, List.mem_append]
      rcases List.mem_append.mp restarted with now | later
      · exact .inl (restart?_mem_readings (Option.mem_toList.mp now))
      · exact .inr (inductionHypothesis later)

/-- A timer that fires is due. -/
theorem isDue_of_fires
    {ensemble : Ensemble σ ε}
    {looked due : Int}
    {times : Refresh.RefreshTimes}
    (fires : (ensemble.ticked looked due times).2.2 = .ok true) :
    ensemble.clock.isDue due = true := by
  cases isDue : ensemble.clock.isDue due with
  | true =>
      rfl
  | false =>
      rw [ticked_of_not_due isDue] at fires
      cases fires

/-- A timer that fires runs on with its interval, from the start of its refresh. -/
theorem RunsFrom.fired
    {ensemble : Ensemble σ ε}
    {base : Int}
    (runs : ensemble.RunsFrom base)
    {looked due : Int}
    {times : Refresh.RefreshTimes}
    (fires : (ensemble.ticked looked due times).2.2 = .ok true) :
    let after := ensemble.step (.tick looked due times)
    after.clock.interval = ensemble.clock.interval ∧
      after.RunsFrom times.started := by
  obtain ⟨interval, runsNext⟩ := runs.step (.tick looked due times)
  have restarted :
      ensemble.restart? (.tick looked due times) = some times.started := by
    simp only [restart?, fires]
  rw [restarted] at runsNext
  exact ⟨interval, runsNext⟩

/--
Where time does not go back, a timer that has fired is not started again before, so it
fires next when its interval is over since then.
-/
theorem RunsFrom.interval_le_of_fires
    {ensemble : Ensemble σ ε}
    {base : Int}
    (runs : ensemble.RunsFrom base)
    {looked due : Int}
    {times : Refresh.RefreshTimes}
    (fires : (ensemble.ticked looked due times).2.2 = .ok true)
    {between : List (Call σ ε)}
    {again later : Int}
    {timesLater : Refresh.RefreshTimes}
    (firesLater :
      (((ensemble.step (.tick looked due times)).run between).ticked
        again later timesLater).2.2 = .ok true)
    (forward :
      ((.tick looked due times :: between).flatMap
        Call.readings).Pairwise (· ≤ ·)) :
    due + ((ensemble.step (.tick looked due times)).run
        between).clock.interval ≤ later := by
  obtain ⟨_, runsNext⟩ := runs.fired fires
  obtain ⟨_, runsLater⟩ := runsNext.run between
  have intervalOver :=
    ((Refresh.Clock.isDue_iff runsLater later).mp
      (isDue_of_fires firesLater)).2
  simp only [List.flatMap_cons, Call.readings, List.cons_append,
    List.nil_append, List.pairwise_cons, List.mem_cons] at forward
  obtain ⟨_, fromDue, _⟩ := forward
  -- Whatever started the timer last was read after the first firing was found due.
  have notBefore :
      due ≤ (ensemble.step (.tick looked due times)).timerBase
        times.started between := by
    unfold timerBase
    cases newest :
        (gathered restart? (ensemble.step (.tick looked due times))
          between).getLast? with
    | none =>
        exact fromDue times.started (.inl rfl)
    | some time =>
        have isRead :=
          gathered_restart?_mem_readings (List.mem_of_getLast? newest)
        exact fromDue time (.inr (.inr isRead))
  omega

/--
A look at the timer fires just if there is an interval and it is over since the timer was
last started, whatever was asked of the clock and however the times go that are read.

So there is a next firing just if there is an interval. A timer that fires starts again
from its refresh, however late that is, and does not fire before the interval is over
anew. Where time does not go back, two firings are at least the interval apart.
-/
theorem tick_fires_iff_interval_over
    {settings : Refresh.ClockSettings}
    (nonnegative : 0 ≤ settings.defaultInterval)
    (preferences : Option Preferences)
    (now : Int)
    (clusters : List String)
    (hearers : List (Hearer σ ε))
    (others : σ)
    (calls : List (Call σ ε)) :
    let remembered :=
      (Refresh.rememberedInterval settings preferences).1
    let start := start settings remembered now clusters hearers others
    let reached := start.run calls
    let interval := reached.clock.interval
    let base := start.timerBase now calls
    start.clock = (Refresh.Clock.recalled settings preferences now).1 ∧
      (interval = chosenInterval remembered calls ∧ 0 ≤ interval) ∧
      reached.clock.nextFiring =
        (if interval = 0 then none else some (base + interval)) ∧
      (∀ looked due times,
        (Refresh.announceAll .everything reached.announcements
            reached.told).2 = .ok () →
          (reached.ticked looked due times).2.2 =
            .ok (decide (interval ≠ 0 ∧ base + interval ≤ due))) ∧
      (∀ looked due times,
        (reached.ticked looked due times).2.2 = .ok true →
          let after := reached.step (.tick looked due times)
          0 < interval ∧
            after.clock.nextFiring = some (times.started + interval) ∧
            ∀ again dueAgain timesAgain,
              dueAgain < times.started + interval →
                (after.ticked again dueAgain timesAgain).2.2 =
                  .ok false) ∧
      ∀ before looked due times between,
        calls = before ++ .tick looked due times :: between →
          ((start.run before).ticked looked due times).2.2 = .ok true →
            ((.tick looked due times :: between).flatMap
                Call.readings).Pairwise (· ≤ ·) →
              ∀ again later timesLater,
                (reached.ticked again later timesLater).2.2 = .ok true →
                  due + interval ≤ later := by
  intro remembered start reached interval base
  have fromStart : start.RunsFrom now :=
    rfl
  obtain ⟨chosen, runs⟩ := fromStart.run calls
  have notNegative : 0 ≤ interval := by
    have bound :=
      chosenInterval_nonneg
        (Refresh.rememberedInterval_nonneg nonnegative preferences) calls
    exact Int.le_trans bound (Int.le_of_eq chosen.symm)
  refine ⟨rfl, ⟨chosen, notNegative⟩, runs, ?_, ?_, ?_⟩
  · intro looked due times heard
    rw [ticked_of_told heard, Except.ok.injEq, Bool.eq_iff_iff,
      decide_eq_true_iff]
    exact Refresh.Clock.isDue_iff runs due
  · intro looked due times fires after
    have someInterval : interval ≠ 0 :=
      ((Refresh.Clock.isDue_iff runs due).mp (isDue_of_fires fires)).1
    obtain ⟨sameInterval, runsNext⟩ := runs.fired fires
    have nextFiring :
        after.clock.nextFiring = some (times.started + interval) := by
      rw [runsNext, sameInterval]
      exact if_neg someInterval
    refine ⟨by omega, nextFiring, ?_⟩
    intro again dueAgain timesAgain early
    have notDue : after.clock.isDue dueAgain = false := by
      simp [Refresh.Clock.isDue, nextFiring, early]
    rw [ticked_of_not_due notDue]
  · intro before looked due times between callsShape fires forward again
      later timesLater firesLater
    obtain ⟨_, runsBefore⟩ := fromStart.run before
    have reachedShape :
        reached =
          ((start.run before).step (.tick looked due times)).run
            between := by
      simp [reached, callsShape, run, List.foldl_append]
    rw [reachedShape] at firesLater
    have apart :=
      runsBefore.interval_le_of_fires fires firesLater forward
    rwa [← reachedShape] at apart

/-- A timer that missed two periods fires once, and then an interval later. -/
theorem missed_periods_fire_once :
    let start : Ensemble Unit Unit := start {} 15000 0 [] [] ()
    let late : Call Unit Unit := .tick 47000 47000 (.still 47000)
    (0 : Int) ≤ 15000 ∧
      (start.ticked 47000 47000 (.still 47000)).2.2 = .ok true ∧
      ((start.step late).ticked 61999 61999 (.still 61999)).2.2 =
        .ok false ∧
      ((start.run [late]).ticked 62000 62000 (.still 62000)).2.2 =
        .ok true ∧
      (47000 : Int) + (start.run [late]).clock.interval ≤ 62000 := by
  intro start late
  obtain ⟨_, _, _, atFirst, once, _⟩ :=
    tick_fires_iff_interval_over
      (show 0 ≤ ({} : Refresh.ClockSettings).defaultInterval by decide)
      none 0 [] ([] : List (Hearer Unit Unit)) () []
  obtain ⟨_, _, _, atLast, _, apart⟩ :=
    tick_fires_iff_interval_over
      (show 0 ≤ ({} : Refresh.ClockSettings).defaultInterval by decide)
      none 0 [] ([] : List (Hearer Unit Unit)) () [late]
  have fires := atFirst 47000 47000 (.still 47000) rfl
  have firesLater := atLast 62000 62000 (.still 62000) rfl
  obtain ⟨_, _, notAgain⟩ := once 47000 47000 (.still 47000) fires
  exact
    ⟨by decide, fires,
      notAgain 61999 61999 (.still 61999) (by decide), firesLater,
      apart [] 47000 47000 (.still 47000) [] rfl fires (by decide)
        62000 62000 (.still 62000) firesLater⟩

end Ensemble

end ShardAtlas
