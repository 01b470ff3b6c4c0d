import ShardAtlas.Proofs.Settling
import ShardAtlas.Refresh.Remembered

namespace ShardAtlas

/-!
# Keepers that cannot be relied on

A keeper may fail whenever it is used, and may answer what it likes. All that a clock
learns from it is the interval to start with. So an ensemble whose clock has a keeper is
held against one whose clock has none, with that interval as the default one: whatever is
asked of both, they cannot be told apart.

But a clock with a keeper may not start. A text that is no interval on offer is warned of
with the default interval, and where that has too many digits the warning ends the start.
-/

namespace Refresh

/-- Whatever a keeper answers, the interval is the default one or on offer. -/
theorem chosen_default_or_offered
    (settings : ClockSettings)
    (answer : Except String (Option String)) :
    let loaded := (chosen settings answer).1
    loaded = settings.defaultInterval ∨
      ∃ choice ∈ choices, choice.interval = loaded := by
  intro loaded
  have shape : loaded = _ := fst_chosen settings answer
  cases found : (answer.toOption.join.bind readRemembered?).filter isOffered with
  | none =>
      rw [found] at shape
      exact .inl shape
  | some interval =>
      rw [found, Option.getD_some] at shape
      have offered : isOffered interval = true :=
        (Option.filter_eq_some_iff.mp found).2
      obtain ⟨choice, member, same⟩ := List.any_eq_true.mp offered
      exact .inr ⟨choice, member, by rw [shape, eq_of_beq same]⟩

/-- Intervals on offer do not have too many digits. -/
theorem fitsDigits_of_isOffered
    {interval : Int}
    (offered : isOffered interval = true) :
    Text.FitsDigits interval := by
  have eachChoice : ∀ choice ∈ choices, Text.FitsDigits choice.interval := by
    decide +kernel
  obtain ⟨choice, member, same⟩ := List.any_eq_true.mp offered
  rw [← eq_of_beq same]
  exact eachChoice choice member

/-- Whatever a keeper does with an interval, what is warned of can be written. -/
theorem isOk_of_mem_remember
    (keeper : Keeper κ)
    (settings : ClockSettings)
    (place : Option κ)
    (interval : Int) :
    ∀ warning ∈ (remember keeper settings place interval).2,
      warning.isOk = true := by
  cases place with
  | none =>
      simp [remember]
  | some kept =>
      cases offered : isOffered interval with
      | false =>
          simp [remember, offered]
      | true =>
          simp only [remember, offered, if_true]
          rcases keeper.set settings.preferenceKey (Text.integer interval)
            kept with ⟨after, cause | written⟩
          · simp only [List.mem_singleton, forall_eq]
            exact
              (Message.isOk_naming_iff interval _).mpr
                (fitsDigits_of_isOffered offered)
          · simp

/-- Whatever a keeper does, a call that sets an interval ends as it does without one. -/
theorem Clock.settingOutcome_eq
    (keeper : Keeper κ)
    (clock : Clock)
    (place : Option κ)
    (value : Json)
    (now : Int) :
    clock.settingOutcome keeper place value now =
      Refresh.settingOutcome value := by
  unfold settingOutcome choose
  cases checked : checkInterval value with
  | error fault =>
      simp only [Refresh.settingOutcome, checked]
      rfl
  | ok interval =>
      have written :
          Message.given (remember keeper clock.settings place interval).2 () =
            .ok () :=
        Message.given_eq_ok_iff.mpr
          ⟨rfl, isOk_of_mem_remember keeper clock.settings place interval⟩
      show
        ((Message.given (remember keeper clock.settings place interval).2
          ()).mapError SettingFault.longInteger).bind
            (fun _ => Refresh.settingOutcome value) = _
      rw [written]
      rfl

/-- Whether a keeper answers a text that is no interval on offer. -/
def IsNoChoice
    (answer : Except String (Option String)) :
    Prop :=
  ∃ text,
    answer = .ok (some text) ∧
      ∀ choice ∈ choices, readRemembered? text ≠ some choice.interval

/-- A text stands for no interval on offer just if none of them is read. -/
theorem filter_isOffered_eq_none_iff
    (interval? : Option Int) :
    interval?.filter isOffered = none ↔
      ∀ choice ∈ choices, interval? ≠ some choice.interval := by
  cases interval? with
  | none =>
      simp
  | some interval =>
      have offered_iff :
          isOffered interval = true ↔
            ∃ choice ∈ choices, choice.interval = interval := by
        simp only [isOffered, List.any_eq_true, beq_iff_eq]
      rw [Option.filter_some]
      split
      · next offered =>
          obtain ⟨choice, member, same⟩ := offered_iff.mp offered
          exact
            iff_of_false nofun fun never =>
              never choice member (congrArg some same.symm)
      · next unlisted =>
          refine iff_of_true rfl fun choice member same => unlisted ?_
          exact
            offered_iff.mpr
              ⟨choice, member, (Option.some.inj same).symm⟩

/-- A start ends early just if its default interval is too long to be warned of. -/
theorem given_chosen_eq_error_iff
    (settings : ClockSettings)
    (answer : Except String (Option String))
    (result : α)
    (cause : Text.LongInteger) :
    Message.given (chosen settings answer).2 result = .error cause ↔
      IsNoChoice answer ∧ cause.value = settings.defaultInterval := by
  unfold IsNoChoice
  rcases answer with failure | _ | text
  · simp [chosen]
  · simp [chosen]
  simp only [chosen, Except.ok.injEq, Option.some.injEq, exists_eq_left',
    ← filter_isOffered_eq_none_iff]
  cases (readRemembered? text).filter isOffered with
  | some interval =>
      simp
  | none =>
      have isWarning :
          ignoredWarning text settings.defaultInterval = .error cause ↔
            cause.value = settings.defaultInterval :=
        Message.naming_eq_error_iff settings.defaultInterval _ cause
      rw [and_iff_right rfl, ← isWarning]
      exact Message.given_singleton_eq_error_iff

namespace Clock

/-- A clock that was set up with another default interval. -/
def withDefault
    (clock : Clock)
    (interval : Int) :
    Clock :=
  { clock with
    settings := { clock.settings with defaultInterval := interval } }

/-- A look at a clock has nothing to do with its default interval. -/
theorem settled_withDefault
    (clock : Clock)
    (interval now : Int) :
    (clock.withDefault interval).settled now =
      (clock.settled now).withDefault interval := by
  rw [settled_eq, settled_eq]
  rfl

/-- A refresh has nothing to do with the default interval. -/
theorem trigger_withDefault
    (clock : Clock)
    (interval : Int)
    (times : RefreshTimes)
    (scope : Scope)
    (caches : List (Announce σ ε))
    (state : σ) :
    (clock.withDefault interval).trigger times scope caches state =
      ((clock.trigger times scope caches state).1.withDefault interval,
        (clock.trigger times scope caches state).2) := by
  unfold trigger
  rcases announceAll scope caches state with ⟨told, outcome⟩
  cases outcome <;> rfl

/-- A look at the timer has nothing to do with the default interval. -/
theorem tick_withDefault
    (clock : Clock)
    (interval looked due : Int)
    (times : RefreshTimes)
    (caches : List (Announce σ ε))
    (state : σ) :
    (clock.withDefault interval).tick looked due times caches state =
      ((clock.tick looked due times caches state).1.withDefault interval,
        (clock.tick looked due times caches state).2) := by
  have sameTimer :
      (clock.withDefault interval).isDue due = clock.isDue due :=
    rfl
  rw [tick_eq, tick_eq, sameTimer, trigger_withDefault,
    settled_withDefault]
  split <;> rfl

end Clock

end Refresh

/-- What comes of a fetch has nothing to do with the default interval of the clock. -/
theorem Publication.apply_withDefault
    (publication : Publication)
    (clock : Refresh.Clock)
    (interval time token : Int)
    (inventory : Inventory) :
    publication.apply (some (clock.withDefault interval)) time token
        inventory =
      ((publication.apply (some clock) time token inventory).1,
        (publication.apply (some clock) time token inventory).2.1.map
          (·.withDefault interval),
        (publication.apply (some clock) time token inventory).2.2) := by
  unfold apply
  cases publication.accepts token <;> rfl

namespace Ensemble

/-- An ensemble whose clock was set up with another default interval. -/
def withDefault
    (ensemble : Ensemble σ ε)
    (interval : Int) :
    Ensemble σ ε :=
  { ensemble with clock := ensemble.clock.withDefault interval }

/-- No answer has to do with the default interval. -/
theorem answer_withDefault
    (ensemble : Ensemble σ ε)
    (interval : Int)
    (call : Call σ ε) :
    (ensemble.withDefault interval).answer call = ensemble.answer call := by
  cases call with
  | look now =>
      simp only [answer, withDefault, Refresh.Clock.settled_withDefault]
      rfl
  | trigger scope times =>
      exact
        congrArg (fun triggered => Answer.triggers triggered.2.2)
          (ensemble.clock.trigger_withDefault interval times scope
            ensemble.announcements ensemble.told)
  | tick looked due times =>
      exact
        congrArg (fun ticked => Answer.fires ticked.2.2)
          (ensemble.clock.tick_withDefault interval looked due times
            ensemble.announcements ensemble.told)
  | succeed place token now inventory =>
      simp only [answer, withDefault, Publication.apply_withDefault]
  | _ =>
      rfl

/-- No call has to do with the default interval. -/
theorem step_withDefault
    (ensemble : Ensemble σ ε)
    (interval : Int)
    (call : Call σ ε) :
    (ensemble.withDefault interval).step call =
      (ensemble.step call).withDefault interval := by
  cases call with
  | look now =>
      simp only [step, withDefault, Refresh.Clock.settled_withDefault]
  | setInterval value now =>
      simp only [step]
      cases Refresh.checkInterval value <;> rfl
  | trigger scope times =>
      have triggered :
          (ensemble.withDefault interval).triggered scope times =
            ((ensemble.triggered scope times).1.withDefault interval,
              (ensemble.triggered scope times).2) :=
        ensemble.clock.trigger_withDefault interval times scope
          ensemble.announcements ensemble.told
      simp only [step, triggered]
      rfl
  | tick looked due times =>
      have ticked :
          (ensemble.withDefault interval).ticked looked due times =
            ((ensemble.ticked looked due times).1.withDefault interval,
              (ensemble.ticked looked due times).2) :=
        ensemble.clock.tick_withDefault interval looked due times
          ensemble.announcements ensemble.told
      simp only [step, ticked]
      rfl
  | succeed place token now inventory =>
      have samePublications :
          (ensemble.withDefault interval).publications =
            ensemble.publications :=
        rfl
      have sameClock :
          (ensemble.withDefault interval).clock =
            ensemble.clock.withDefault interval :=
        rfl
      simp only [step, samePublications, sameClock,
        Publication.apply_withDefault]
      cases ensemble.publications[place]? with
      | none =>
          rfl
      | some publication =>
          simp only [Option.getD_map]
          rfl
  | _ =>
      rfl

/-- What can be read off a clock without a look at the time. -/
structure Readings where
  interval : Int
  lastTick : Option Int
  nextFiring : Option Int
  deriving Repr, DecidableEq

/-- What can be read off the clock of an ensemble. -/
def readings
    (ensemble : Ensemble σ ε) :
    Readings :=
  { interval := ensemble.clock.interval
    lastTick := ensemble.clock.lastTick
    nextFiring := ensemble.clock.nextFiring }

/-- What is answered in a run, each time with what can be read off the clock then. -/
def transcript
    (ensemble : Ensemble σ ε) :
    List (Call σ ε) →
    List (Answer ε × Readings)
  | [] =>
      []
  | call :: rest =>
      (ensemble.answer call, (ensemble.step call).readings) ::
        (ensemble.step call).transcript rest

/-- Nothing that is seen in a run has to do with the default interval. -/
theorem transcript_withDefault
    (ensemble : Ensemble σ ε)
    (interval : Int)
    (calls : List (Call σ ε)) :
    (ensemble.withDefault interval).transcript calls =
      ensemble.transcript calls := by
  induction calls generalizing ensemble with
  | nil =>
      rfl
  | cons call rest inductionHypothesis =>
      simp only [transcript, answer_withDefault, step_withDefault,
        inductionHypothesis]
      rfl

end Ensemble

/-- An ensemble whose clock may have a keeper, with what that keeps the interval in. -/
structure KeptEnsemble
    (κ : Type w)
    (σ : Type u)
    (ε : Type v) where
  ensemble : Ensemble σ ε
  place : Option κ

namespace KeptEnsemble

variable (keeper : Refresh.Keeper κ)

/-- A new clock that starts from its keeper, with new publications of some clusters. -/
def start
    (settings : Refresh.ClockSettings)
    (place : Option κ)
    (now : Int)
    (clusters : List String)
    (hearers : List (Hearer σ ε))
    (others : σ) :
    Except Text.LongInteger (KeptEnsemble κ σ ε) :=
  let (after, clock, warnings) :=
    Refresh.Clock.startedFrom keeper settings place now
  Message.given warnings
    { ensemble :=
        { clock := clock
          publications :=
            clusters.map fun cluster => { cluster := cluster }
          hearers := hearers
          others := others }
      place := after }

/-- Take one call; an interval that is chosen is given to the keeper. -/
def step
    (kept : KeptEnsemble κ σ ε) :
    Ensemble.Call σ ε →
    KeptEnsemble κ σ ε
  | .setInterval value now =>
      match kept.ensemble.clock.choose keeper kept.place value now with
      | .ok (clock, place, _) =>
          { ensemble := { kept.ensemble with clock := clock }
            place := place }
      | .error _ =>
          kept
  | call =>
      { kept with ensemble := kept.ensemble.step call }

/-- The answer to a call. -/
def answer
    (kept : KeptEnsemble κ σ ε) :
    Ensemble.Call σ ε →
    Ensemble.Answer ε
  | .setInterval value now =>
      .sets
        (kept.ensemble.clock.settingOutcome keeper kept.place value now)
  | call =>
      kept.ensemble.answer call

/-- What is answered in a run, each time with what can be read off the clock then. -/
def transcript
    (kept : KeptEnsemble κ σ ε) :
    List (Ensemble.Call σ ε) →
    List (Ensemble.Answer ε × Ensemble.Readings)
  | [] =>
      []
  | call :: rest =>
      (kept.answer keeper call, (kept.step keeper call).ensemble.readings) ::
        (kept.step keeper call).transcript rest

/-- Whatever a keeper does in a call, the ensemble comes to what the call makes of it. -/
theorem ensemble_step
    (kept : KeptEnsemble κ σ ε)
    (call : Ensemble.Call σ ε) :
    (kept.step keeper call).ensemble = kept.ensemble.step call := by
  cases call with
  | setInterval value now =>
      simp only [step, Ensemble.step, Refresh.Clock.choose]
      cases Refresh.checkInterval value <;> rfl
  | _ =>
      rfl

/-- Whatever a keeper does in a call, the answer is the one of the ensemble. -/
theorem answer_eq
    (kept : KeptEnsemble κ σ ε)
    (call : Ensemble.Call σ ε) :
    kept.answer keeper call = kept.ensemble.answer call := by
  cases call with
  | setInterval value now =>
      simp only [answer, Ensemble.answer, Refresh.Clock.settingOutcome_eq]
  | _ =>
      rfl

/-- Whatever a keeper does in a run, what is seen is what the ensemble shows. -/
theorem transcript_eq
    (kept : KeptEnsemble κ σ ε)
    (calls : List (Ensemble.Call σ ε)) :
    kept.transcript keeper calls = kept.ensemble.transcript calls := by
  induction calls generalizing kept with
  | nil =>
      rfl
  | cons call rest inductionHypothesis =>
      simp only [transcript, Ensemble.transcript, answer_eq, ensemble_step,
        inductionHypothesis]

/--
A clock with a keeper that may fail whenever it is used, and answer what it likes, starts with
its default interval or one on offer. From then on it cannot be told from a clock without a
keeper that has this interval as the default one. It does not start just if the keeper answers
a text that is no interval on offer and its default interval has too many digits.

What can be read off both clocks is the same when they start. In every run, whatever times
are read, every call is answered the same by both, ticks and refused intervals included, and
what can be read off both clocks afterwards is the same.
-/
theorem started_unless_long_default_is_warned_of
    (settings : Refresh.ClockSettings)
    (place : κ)
    (now : Int)
    (clusters : List String)
    (hearers : List (Hearer σ ε))
    (others : σ) :
    let started :=
      start keeper settings (some place) now clusters hearers others
    (∀ cause,
      started = .error cause ↔
        Refresh.IsNoChoice (keeper.get settings.preferenceKey place).2 ∧
          cause.value = settings.defaultInterval) ∧
      ∀ kept, started = .ok kept →
        let loaded := kept.ensemble.clock.interval
        (loaded = settings.defaultInterval ∨
            ∃ choice ∈ Refresh.choices, choice.interval = loaded) ∧
          ∃ plain,
            start keeper { settings with defaultInterval := loaded } none
                now clusters hearers others = .ok plain ∧
              kept.ensemble.readings = plain.ensemble.readings ∧
              ∀ calls,
                kept.transcript keeper calls =
                  plain.transcript keeper calls := by
  intro started
  refine ⟨fun cause => ?ended, fun kept isStarted => ?started⟩
  case ended =>
    exact Refresh.given_chosen_eq_error_iff settings _ _ cause
  case started =>
    obtain ⟨rfl, _⟩ := Message.given_eq_ok_iff.mp isStarted
    intro loaded
    refine
      ⟨Refresh.chosen_default_or_offered settings _, _, rfl, rfl,
        fun calls => ?_⟩
    rw [transcript_eq, transcript_eq]
    exact (Ensemble.transcript_withDefault _ loaded calls).symm

/-- Preferences with a text that is no interval. -/
def junkPreferences : Preferences :=
  .memory
    { entries := [("clusterview-refresh-interval", some "junk")]
      keysNodup := by decide }

/-- A text that is no interval makes no difference to a clock whose default can be printed. -/
theorem started_with_junkPreferences :
    ∃ kept plain,
      start .ofPreferences {} (some junkPreferences) 0 ["logs"]
          ([] : List (Hearer Unit Empty)) () = .ok kept ∧
        kept.ensemble.clock.interval = 15000 ∧
        start .ofPreferences {} none 0 ["logs"] [] () = .ok plain ∧
        ∀ calls,
          kept.transcript .ofPreferences calls =
            plain.transcript .ofPreferences calls := by
  obtain ⟨ends, same⟩ :=
    started_unless_long_default_is_warned_of .ofPreferences {}
      junkPreferences 0 ["logs"] ([] : List (Hearer Unit Empty)) ()
  cases started :
      start .ofPreferences {} (some junkPreferences) 0 ["logs"]
        ([] : List (Hearer Unit Empty)) () with
  | error cause =>
      have fits : Text.FitsDigits 15000 := by
        decide +kernel
      rw [← show cause.value = 15000 from ((ends cause).mp started).2] at fits
      exact absurd fits cause.isLong
  | ok kept =>
      obtain ⟨_, plain, startsToo, _, transcripts⟩ := same kept started
      have interval : kept.ensemble.clock.interval = 15000 := by
        obtain ⟨rfl, _⟩ := Message.given_eq_ok_iff.mp started
        decide
      rw [interval] at startsToo
      exact ⟨kept, plain, rfl, interval, startsToo, transcripts⟩

/-- A default interval with one digit too many and a text that is no number end the start. -/
theorem not_started_with_long_default :
    ∃ cause : Text.LongInteger,
      cause.value = Text.printLimit ∧
        start .ofPreferences { defaultInterval := Text.printLimit }
          (some junkPreferences) 0 ["logs"]
            ([] : List (Hearer Unit Empty)) () = .error cause := by
  let cause : Text.LongInteger :=
    { value := Text.printLimit
      isLong := Text.not_fitsDigits_printLimit }
  refine ⟨cause, rfl, ?_⟩
  refine
    (Refresh.given_chosen_eq_error_iff
      { defaultInterval := Text.printLimit } _ _ cause).mpr
        ⟨⟨"junk", rfl, ?_⟩, rfl⟩
  decide

end KeptEnsemble

end ShardAtlas
