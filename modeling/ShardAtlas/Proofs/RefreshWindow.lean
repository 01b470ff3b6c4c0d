import ShardAtlas.Proofs.TickOrder

namespace ShardAtlas

/-!
# Refreshes that fail

A refresh opens its window before the hearers are told, and gives out its tick after.
A hearer that fails stops it in between: the last tick and the timer are as before, but
the window of the refresh stays open. So a clock can be refreshing without a tick for it,
until a look at the clock finds the window over.
-/

namespace Refresh.Clock

/-- A clock is refreshing while a window is noted. -/
theorem phase_eq_refreshing_iff
    (clock : Clock) :
    clock.phase = .refreshing ↔ clock.settleDeadline.isSome = true := by
  unfold phase
  split
  · simp_all
  · split <;> simp_all

/--
A new window makes no difference to a reader at some time just if the same one was open
before, or it is over by then and no other one is open.
-/
theorem settled_opened_eq_iff
    (clock : Clock)
    (started now : Int) :
    let windowEnd := started + clock.settings.settleWindow
    (clock.opened started).settled now = clock.settled now ↔
      if now < windowEnd then
        clock.settleDeadline = some windowEnd
      else
        clock.openUntil? now = none := by
  intro windowEnd
  have onlyWindow :
      (clock.opened started).settled now = clock.settled now ↔
        (clock.opened started).openUntil? now = clock.openUntil? now := by
    rw [settled_eq, settled_eq]
    constructor
    · intro same
      exact congrArg Clock.settleDeadline same
    · intro same
      rw [same]
      rfl
  have ofOpened :
      (clock.opened started).openUntil? now =
        if now < windowEnd then some windowEnd else none := by
    simp [openUntil?, opened, Option.filter, windowEnd]
  rw [onlyWindow, ofOpened]
  by_cases before : now < windowEnd
  · rw [if_pos before, if_pos before, eq_comm, openUntil?,
      Option.filter_eq_some_iff]
    simp [before]
  · rw [if_neg before, if_neg before, eq_comm]

/-- What is left of a window after some looks at the clock. -/
def stillOpen
    (window : Option Int)
    (looks : List Int) :
    Option Int :=
  window.filter fun windowEnd => looks.all (· < windowEnd)

/-- A window stays open while nobody looks. -/
@[simp] theorem stillOpen_nil
    (window : Option Int) :
    stillOpen window [] = window := by
  cases window <;> rfl

/-- What is left after more looks is what they leave of the rest. -/
theorem stillOpen_append
    (window : Option Int)
    (looks more : List Int) :
    stillOpen window (looks ++ more) =
      stillOpen (stillOpen window looks) more := by
  simp only [stillOpen, Option.filter_filter, List.all_append]

/-- A window is still open just if every look was before its end. -/
theorem isSome_stillOpen_some_iff
    (windowEnd : Int)
    (looks : List Int) :
    (stillOpen (some windowEnd) looks).isSome = true ↔
      ∀ look ∈ looks, look < windowEnd := by
  simp [stillOpen, Option.filter]

end Refresh.Clock

namespace Ensemble

/-- No call changes the settings of a clock. -/
theorem Effect.settings_eq
    {clock after : Refresh.Clock}
    {attempt : Option (Attempt ε)}
    {stamp : Option Stamp}
    {look : Option Int}
    (effect : Effect clock after attempt stamp look) :
    after.settings = clock.settings := by
  cases effect with
  | looked now =>
      rw [Refresh.Clock.settled_eq]
  | _ =>
      rfl

/-- When the window of a refresh is over. -/
def Attempt.windowEnd
    (settings : Refresh.ClockSettings)
    (attempt : Attempt ε) :
    Int :=
  attempt.times.started + settings.settleWindow

/-- A refresh that is started opens its window; else a look may close the one there is. -/
theorem Effect.settleDeadline_eq
    {clock after : Refresh.Clock}
    {attempt : Option (Attempt ε)}
    {stamp : Option Stamp}
    {look : Option Int}
    (effect : Effect clock after attempt stamp look) :
    after.settleDeadline =
      (attempt.map (·.windowEnd clock.settings)).or
        (Refresh.Clock.stillOpen clock.settleDeadline look.toList) := by
  cases effect with
  | looked now =>
      rw [Refresh.Clock.settled_eq]
      simp [Refresh.Clock.openUntil?, Refresh.Clock.stillOpen]
  | completed times look =>
      rfl
  | failed times cause look =>
      rfl
  | _ =>
      exact (Refresh.Clock.stillOpen_nil _).symm

/-- The refresh that is started last in a run, with the calls since. -/
def lastAttempt?
    (ensemble : Ensemble σ ε) :
    List (Call σ ε) →
    Option (Attempt ε × List (Call σ ε))
  | [] =>
      none
  | call :: rest =>
      ((ensemble.step call).lastAttempt? rest).or
        ((ensemble.attempt? call).map fun attempt => (attempt, rest))

/-- The looks at the clock that some calls take. -/
def looks
    (calls : List (Call σ ε)) :
    List Int :=
  calls.filterMap Call.look?

/-- The settings of a clock are as they were set up. -/
theorem settings_run
    (ensemble : Ensemble σ ε)
    (calls : List (Call σ ε)) :
    (ensemble.run calls).clock.settings = ensemble.clock.settings := by
  induction calls generalizing ensemble with
  | nil =>
      rfl
  | cons call rest inductionHypothesis =>
      rw [run_cons, inductionHypothesis]
      exact (ensemble.effect_step call).settings_eq

/--
The window that is noted after a run is that of the refresh that was started last,
whatever came of it, unless a look since found it over.
-/
theorem settleDeadline_run
    (ensemble : Ensemble σ ε)
    (calls : List (Call σ ε)) :
    (ensemble.run calls).clock.settleDeadline =
      match ensemble.lastAttempt? calls with
      | some (attempt, later) =>
          Refresh.Clock.stillOpen
            (some (attempt.windowEnd ensemble.clock.settings))
            (looks later)
      | none =>
          Refresh.Clock.stillOpen ensemble.clock.settleDeadline
            (looks calls) := by
  induction calls generalizing ensemble with
  | nil =>
      exact (Refresh.Clock.stillOpen_nil _).symm
  | cons call rest inductionHypothesis =>
      have effect := ensemble.effect_step call
      rw [run_cons, inductionHypothesis, effect.settings_eq, lastAttempt?]
      cases ofRest : (ensemble.step call).lastAttempt? rest with
      | some last =>
          rfl
      | none =>
          simp only [Option.none_or, effect.settleDeadline_eq]
          cases started : ensemble.attempt? call with
          | some attempt =>
              rfl
          | none =>
              have looksShape :
                  looks (call :: rest) =
                    call.look?.toList ++ looks rest := by
                cases taken : call.look? <;> simp [looks, taken]
              rw [looksShape, Refresh.Clock.stillOpen_append]
              rfl

/-- The tick of a refresh that is completed is given out by the call that starts it. -/
theorem Effect.stamp_of_completed
    {clock after : Refresh.Clock}
    {attempt : Attempt ε}
    {stamp : Option Stamp}
    {look : Option Int}
    {tick : Int}
    (effect : Effect clock after (some attempt) stamp look)
    (completed : attempt.outcome = .ok tick) :
    stamp =
      some
        { reading := attempt.times.told
          tick := tick } := by
  cases effect with
  | completed times look =>
      cases completed
      rfl
  | failed times cause look =>
      cases completed

/-- The tick of a refresh that was completed is among the ticks of the run. -/
theorem tick_mem_of_lastAttempt?
    {ensemble : Ensemble σ ε}
    {calls later : List (Call σ ε)}
    {attempt : Attempt ε}
    {tick : Int}
    (last : ensemble.lastAttempt? calls = some (attempt, later))
    (completed : attempt.outcome = .ok tick) :
    tick ∈ (ensemble.stamps calls).map Stamp.tick := by
  induction calls generalizing ensemble with
  | nil =>
      cases last
  | cons call rest inductionHypothesis =>
      have shape :
          (ensemble.stamps (call :: rest)).map Stamp.tick =
            (ensemble.stamp? call).toList.map Stamp.tick ++
              ((ensemble.step call).stamps rest).map Stamp.tick :=
        List.map_append
      rw [shape, List.mem_append]
      rcases Option.or_eq_some_iff.mp last with ofRest | ⟨_, ofCall⟩
      · exact .inr (inductionHypothesis ofRest)
      · obtain ⟨_, started, same⟩ := Option.map_eq_some_iff.mp ofCall
        cases same
        have effect := ensemble.effect_step call
        rw [started] at effect
        rw [effect.stamp_of_completed completed]
        exact .inl (List.mem_singleton.mpr rfl)

/-- The tick of a refresh that is completed after a run is later than those of the run. -/
theorem lt_of_triggered
    {ensemble : Ensemble σ ε}
    {calls : List (Call σ ε)}
    {scope : Refresh.Scope}
    {times : Refresh.RefreshTimes}
    {tick : Int}
    (completed :
      ((ensemble.run calls).triggered scope times).2.2 = .ok tick) :
    ∀ stamp ∈ ensemble.stamps calls, stamp.tick < tick := by
  intro stamp member
  have stamped :
      (ensemble.run calls).stamp? (.trigger scope times) =
        some
          { reading := times.told
            tick := tick } := by
    simp [stamp?, attempt?, Attempt.stamp?, completed, Except.toOption]
  have appended :
      ensemble.stamps (calls ++ [.trigger scope times]) =
        ensemble.stamps calls ++
          [{ reading := times.told, tick := tick }] := by
    rw [stamps, gathered_append]
    simp [gathered, stamped]
  have ascending :=
    (List.pairwise_append.mp
      (ensemble.pairwise_ticks (calls ++ [.trigger scope times]))).2.1
  rw [appended, List.map_append, List.pairwise_append] at ascending
  exact
    ascending.2.2 stamp.tick (List.mem_map_of_mem member) tick
      (by simp)

/--
A refresh after some calls gives out a new tick, or it fails and the clock reads at some
time as it would have without it.
-/
def CompletesOrKeeps
    (start : Ensemble σ ε)
    (calls : List (Call σ ε))
    (scope : Refresh.Scope)
    (times : Refresh.RefreshTimes)
    (now : Int) :
    Prop :=
  let reached := start.run calls
  match reached.triggered scope times with
  | (after, _, .ok tick) =>
      after.lastTick = some tick ∧
        ∀ stamp ∈ start.stamps calls, stamp.tick < tick
  | (after, _, .error _) =>
      after.settled now = reached.clock.settled now

/--
Where the clock is refreshing after some calls, the refresh that was started last has
given out a tick.
-/
def RefreshesWithTick
    (start : Ensemble σ ε)
    (calls : List (Call σ ε)) :
    Prop :=
  (start.run calls).clock.phase = .refreshing →
    ∃ attempt later tick,
      start.lastAttempt? calls = some (attempt, later) ∧
        attempt.outcome = .ok tick ∧
        tick ∈ (start.stamps calls).map Stamp.tick

/-- A refresh that fails changes the clock just as far as its window can be noticed. -/
theorem completesOrKeeps_iff
    (start : Ensemble σ ε)
    (calls : List (Call σ ε))
    (scope : Refresh.Scope)
    (times : Refresh.RefreshTimes)
    (now : Int) :
    let reached := start.run calls
    let windowEnd := times.started + start.clock.settings.settleWindow
    start.CompletesOrKeeps calls scope times now ↔
      (Refresh.announceAll scope reached.announcements reached.told).2 =
          .ok () ∨
        if now < windowEnd then
          reached.clock.settleDeadline = some windowEnd
        else
          reached.clock.openUntil? now = none := by
  intro reached windowEnd
  have settings : reached.clock.settings = start.clock.settings :=
    start.settings_run calls
  rcases heard :
      Refresh.announceAll scope reached.announcements reached.told with
    ⟨told, outcome⟩
  cases outcome with
  | ok done =>
      have completed :
          reached.triggered scope times =
            (reached.clock.refreshed times, told,
              .ok (reached.clock.nextTick times.told)) := by
        simp only [triggered, Refresh.Clock.trigger, heard]
        rfl
      have newest :
          ∀ stamp ∈ start.stamps calls,
            stamp.tick < reached.clock.nextTick times.told :=
        lt_of_triggered (congrArg (·.2.2) completed)
      simp only [CompletesOrKeeps]
      rw [completed]
      constructor
      · intro _
        exact .inl trivial
      · intro _
        exact ⟨rfl, newest⟩
  | error cause =>
      have failed :
          reached.triggered scope times =
            (reached.clock.opened times.started, told, .error cause) := by
        simp only [triggered, Refresh.Clock.trigger, heard]
      have unnoticed :=
        reached.clock.settled_opened_eq_iff times.started now
      rw [settings] at unnoticed
      simp only [CompletesOrKeeps]
      rw [failed, or_iff_right (by simp)]
      exact unnoticed

/--
A clock whose window was not open at first is refreshing just while no look since the
last start of a refresh found the window over.
-/
theorem phase_run_eq_refreshing_iff
    {start : Ensemble σ ε}
    (closed : start.clock.settleDeadline = none)
    (calls : List (Call σ ε)) :
    (start.run calls).clock.phase = .refreshing ↔
      ∃ attempt later,
        start.lastAttempt? calls = some (attempt, later) ∧
          ∀ look ∈ looks later,
            look < attempt.windowEnd start.clock.settings := by
  rw [Refresh.Clock.phase_eq_refreshing_iff, start.settleDeadline_run,
    closed]
  cases start.lastAttempt? calls with
  | none =>
      simp [Refresh.Clock.stillOpen]
  | some last =>
      rw [Refresh.Clock.isSome_stillOpen_some_iff]
      constructor
      · intro unseen
        exact ⟨last.1, last.2, rfl, unseen⟩
      · rintro ⟨attempt, later, same, unseen⟩
        cases same
        exact unseen

/--
Such a clock refreshes without a tick just if the refresh that was started last has
failed and no look since found its window over.
-/
theorem refreshesWithTick_iff
    {start : Ensemble σ ε}
    (closed : start.clock.settleDeadline = none)
    (calls : List (Call σ ε)) :
    start.RefreshesWithTick calls ↔
      ∀ attempt later cause,
        start.lastAttempt? calls = some (attempt, later) →
          attempt.outcome = .error cause →
            ∃ look ∈ looks later,
              attempt.windowEnd start.clock.settings ≤ look := by
  unfold RefreshesWithTick
  rw [phase_run_eq_refreshing_iff closed]
  constructor
  · intro ticked attempt later cause last failed
    apply Classical.byContradiction
    intro unnoticed
    have unseen :
        ∀ look ∈ looks later,
          look < attempt.windowEnd start.clock.settings := by
      intro look member
      exact Int.not_le.mp fun ended => unnoticed ⟨look, member, ended⟩
    obtain ⟨other, rest, tick, same, completed, _⟩ :=
      ticked ⟨attempt, later, last, unseen⟩
    rw [last] at same
    cases same
    rw [failed] at completed
    cases completed
  · rintro noticed ⟨attempt, later, last, unseen⟩
    cases outcome : attempt.outcome with
    | ok tick =>
        exact
          ⟨attempt, later, tick, last, outcome,
            tick_mem_of_lastAttempt? last outcome⟩
    | error cause =>
        obtain ⟨look, member, ended⟩ := noticed attempt later cause last outcome
        have before := unseen look member
        omega

/--
A refresh is all or nothing just as far as its window goes unnoticed.

It gives out a new tick if every hearer is told without a fault. If one fails, the last
tick and the timer are kept, but the window is opened: the clock reads as it would have
without the refresh just if the same window was open before, or it is over and no other
one is open. The clock is never refreshing without a tick from the refresh that put it
there, except after one that failed, until its window is found over.
-/
theorem refresh_all_or_nothing_iff
    (settings : Refresh.ClockSettings)
    (interval now : Int)
    (clusters : List String)
    (hearers : List (Hearer σ ε))
    (others : σ)
    (calls : List (Call σ ε)) :
    let start := start settings interval now clusters hearers others
    let reached := start.run calls
    (∀ scope times read,
      start.CompletesOrKeeps calls scope times read ↔
        (Refresh.announceAll scope reached.announcements reached.told).2 =
            .ok () ∨
          if read < times.started + settings.settleWindow then
            reached.clock.settleDeadline =
              some (times.started + settings.settleWindow)
          else
            reached.clock.openUntil? read = none) ∧
      (∀ scope times cause,
        (reached.triggered scope times).2.2 = .error cause →
          (reached.triggered scope times).1 =
            { reached.clock with
              settleDeadline :=
                some (times.started + settings.settleWindow) }) ∧
      (start.RefreshesWithTick calls ↔
        ∀ attempt later cause,
          start.lastAttempt? calls = some (attempt, later) →
            attempt.outcome = .error cause →
              ∃ look ∈ looks later, attempt.windowEnd settings ≤ look) := by
  intro start reached
  have kept : reached.clock.settings = settings :=
    start.settings_run calls
  refine
    ⟨start.completesOrKeeps_iff calls, ?_,
      refreshesWithTick_iff rfl calls⟩
  intro scope times cause failed
  rcases reached.clock.trigger_cases times scope
      reached.announcements reached.told with
    ⟨told, completed⟩ | ⟨told, cause', shape⟩
  · rw [triggered, completed] at failed
    cases failed
  · rw [triggered, shape, ← kept]
    rfl

/-- A refresh that fails goes unnoticed in the same millisecond as one that did not. -/
theorem failure_within_same_window :
    let start : Ensemble Nat Unit :=
      start {} 15000 100000 []
        [ .other fun _ told =>
            (told + 1, if told = 0 then .ok () else .error ()) ]
        0
    let trigger : Call Nat Unit := .trigger .everything (.still 100000)
    ((start.run [trigger]).triggered .everything (.still 100000)).2.2 =
        .error () ∧
      ((start.run [trigger]).triggered .everything (.still 100000)).1 =
        { (start.run [trigger]).clock with settleDeadline := some 100500 } ∧
      ∀ read,
        start.CompletesOrKeeps [trigger] .everything (.still 100000)
          read := by
  intro start trigger
  have failed :
      ((start.run [trigger]).triggered .everything (.still 100000)).2.2 =
        .error () := by
    rfl
  obtain ⟨exactly, opened, _⟩ :=
    refresh_all_or_nothing_iff {} 15000 100000 []
      [ .other fun _ told =>
          (told + 1, if told = 0 then .ok () else .error ()) ]
      0 [trigger]
  refine ⟨failed, opened .everything (.still 100000) () failed, ?_⟩
  intro read
  refine (exactly .everything (.still 100000) read).mpr (.inr ?_)
  by_cases before : read < 100500
  · exact (if_pos before).mpr rfl
  · have ended : (100500 : Int) ≤ read :=
      Int.not_lt.mp before
    have window :
        (start.run [trigger]).clock.settleDeadline = some 100500 := by
      rfl
    have closed :
        (start.run [trigger]).clock.openUntil? read = none := by
      rw [Refresh.Clock.openUntil?, window]
      simp [Option.filter, ended]
    exact (if_neg before).mpr closed

/--
A clock that is scheduled is refreshing after a refresh that failed, and has no tick.
-/
theorem refreshing_after_failed_refresh :
    let start : Ensemble Unit Unit :=
      start {} 15000 100000 []
        [.other fun _ others => (others, .error ())] ()
    let trigger : Call Unit Unit := .trigger .everything (.still 100000)
    let reached := start.run [trigger, .look 100000]
    start.clock.phase = .scheduled ∧
      reached.clock =
        { start.clock with settleDeadline := some 100500 } ∧
      reached.clock.phase = .refreshing ∧
      start.stamps [trigger, .look 100000] = [] ∧
      ¬ start.CompletesOrKeeps [] .everything (.still 100000) 100000 ∧
      ¬ start.RefreshesWithTick [trigger, .look 100000] := by
  intro start trigger reached
  refine ⟨by decide, by rfl, by decide, by rfl, ?_, ?_⟩
  · intro kept
    have same : some 100500 = (none : Option Int) :=
      congrArg Refresh.Clock.settleDeadline kept
    cases same
  · intro ticked
    obtain ⟨_, _, tick, _, _, given⟩ := ticked (by decide)
    cases given

end Ensemble

end ShardAtlas
