import ShardAtlas.Proofs.SeriesLog

namespace ShardAtlas

/-!
# Sampling that breaks off

An observation breaks off where there is no series of the capacity, or where a value
has no double. In the second case a part of its work is done: the metric is known, a
new reset key has started its series over, and a series without values has got its
zero. A snapshot that breaks off at a node has sampled what comes before.

This tells exactly when a tracker is left as it was.
-/

/-- The zero at the start of a series whose first value comes at some time. -/
def Point.baseline
    (now : Int) :
    Point :=
  { time := now - baselineOffset
    value := .zero }

/-- A list that is moved on by an entry and stays the same has nothing but that entry. -/
theorem eq_of_concat_eq_cons
    {entry first : α}
    {rest : List α}
    (moved : rest ++ [entry] = first :: rest) :
    ∀ member ∈ first :: rest, member = entry := by
  induction rest generalizing first with
  | nil =>
      obtain ⟨same, _⟩ := List.cons.inj moved
      intro member isMember
      rw [List.mem_singleton.mp isMember, same]
  | cons second later inductionHypothesis =>
      obtain ⟨same, movedLater⟩ := List.cons.inj moved
      have ofLater := inductionHypothesis movedLater
      intro member isMember
      rcases List.mem_cons.mp isMember with isFirst | isLater
      · rw [isFirst, ← same]
        exact ofLater second (List.mem_cons_self ..)
      · exact ofLater member isLater

/-- The last entries stay the same with a new one just if all of them are like it. -/
theorem lastEntries_concat_eq_self_iff
    {room : Nat}
    {entries : List α}
    (hasRoom : 0 < room)
    (bounded : entries.length ≤ room)
    (entry : α) :
    lastEntries room (entries ++ [entry]) = entries ↔
      entries = List.replicate room entry := by
  constructor
  · intro same
    have lengths := congrArg List.length same
    rw [length_lastEntries, List.length_append,
      List.length_singleton] at lengths
    have full : entries.length = room := by
      omega
    have oneTooMany : entries.length + 1 - room = 1 := by
      omega
    cases entries with
    | nil =>
        exact absurd full hasRoom.ne
    | cons first rest =>
        rw [lastEntries, List.length_append, List.length_singleton,
          oneTooMany] at same
        exact List.eq_replicate_iff.mpr ⟨full, eq_of_concat_eq_cons same⟩
  · intro shape
    rw [shape, ← List.replicate_succ', lastEntries, List.length_replicate,
      List.drop_replicate]
    congr 1
    omega

namespace Series

/-- A new point leaves a series as it is just if the series is full of that point. -/
theorem push_eq_self_iff
    (series : Series)
    (point : Point) :
    series.push point = series ↔
      series.points = List.replicate series.capacity point := by
  rw [← lastEntries_concat_eq_self_iff series.hasRoom series.bounded point]
  rcases series with ⟨capacity, points, hasRoom, bounded⟩
  simp [push]

/-- A first point makes a series just if the series has that point only. -/
theorem push_cleared_eq_iff
    (series : Series)
    (point : Point) :
    series.cleared.push point = series ↔ series.points = [point] := by
  have fits : lastEntries series.capacity [point] = [point] := by
    have hasRoom := series.hasRoom
    have within : 1 - series.capacity = 0 := by
      omega
    simp [lastEntries, within]
  rcases series with ⟨capacity, points, hasRoom, bounded⟩
  simp only [push, cleared, List.nil_append, mk.injEq, true_and] at fits ⊢
  rw [fits, eq_comm]

end Series

namespace Track

/--
What a track must be like that an observation of a value without a double leaves it
alone.

It has had a value, or it is full of the zero that the observation adds. An observation
that starts it over must find it as it leaves it.
-/
def Withstands
    [BEq κ]
    (track : Track κ)
    (now : Int)
    (key : Option κ) :
    Prop :=
  if key.isSome ∧ key != track.resetKey then
    -- Only a key that differs from itself starts over a track that already has it.
    key = track.resetKey ∧
      track.seeded = false ∧
      track.lastTick = none ∧
      track.series.points = [.baseline now]
  else
    track.seeded = true ∨
      track.series.points =
        List.replicate track.series.capacity (.baseline now)

/-- An observation of a track fails where it needs a double and there is none. -/
theorem outcome_observe
    [BEq κ]
    (track : Track κ)
    (now : Int)
    {observation : Observation κ}
    {reading : Reading}
    (given : observation.value = some reading) :
    let current := track.withResetKey observation.resetKey
    (track.observe now observation).2 =
      if current.seeded = true ∧ observation.tick = current.lastTick then
        .ok ()
      else
        reading.toDouble.map fun _ => () := by
  intro current
  simp only [observe, given]
  by_cases seeded : current.seeded = true
  · by_cases sampled : observation.tick = current.lastTick
    · rw [if_pos seeded, if_pos ⟨seeded, sampled⟩, sample,
        if_pos sampled]
    · rw [if_pos seeded, if_neg fun both => sampled both.2, sample,
        if_neg sampled]
      cases reading.toDouble <;> rfl
  · rw [if_neg seeded, if_neg fun both => seeded both.1, seed]
    cases reading.toDouble <;> rfl

/-- An observation of a track breaks off at a value that has no double. -/
theorem double_of_observe_error
    [BEq κ]
    {track : Track κ}
    {now : Int}
    {observation : Observation κ}
    {cause : Overflow}
    (failed : (track.observe now observation).2 = .error cause) :
    ∃ reading,
      observation.value = some reading ∧ reading.toDouble = .error cause := by
  cases given : observation.value with
  | none =>
      simp [observe, given] at failed
  | some reading =>
      refine ⟨reading, rfl, ?_⟩
      rw [track.outcome_observe now given] at failed
      split at failed
      · cases failed
      · cases double : reading.toDouble with
        | ok value =>
            rw [double] at failed
            cases failed
        | error cause' =>
            rw [double] at failed
            cases failed
            rfl

/-- Such an observation leaves a track that may be started over and have got its zero. -/
theorem observe_without_double
    [BEq κ]
    (track : Track κ)
    (now : Int)
    {observation : Observation κ}
    {reading : Reading}
    {cause : Overflow}
    (given : observation.value = some reading)
    (double : reading.toDouble = .error cause) :
    let current := track.withResetKey observation.resetKey
    (track.observe now observation).1 =
      if current.seeded then
        current
      else
        { current with series := current.series.push (.baseline now) } := by
  intro current
  simp only [observe, given, sample, seed, double]
  split
  · split <;> rfl
  · rfl

/-- Such an observation leaves just those tracks alone that withstand it. -/
theorem observe_eq_self_iff
    [BEq κ]
    {track : Track κ}
    {now : Int}
    {observation : Observation κ}
    {cause : Overflow}
    (failed : (track.observe now observation).2 = .error cause) :
    (track.observe now observation).1 = track ↔
      track.Withstands now observation.resetKey := by
  obtain ⟨reading, given, double⟩ := double_of_observe_error failed
  rw [track.observe_without_double now given double]
  unfold withResetKey Withstands
  by_cases isNew :
      observation.resetKey.isSome ∧
        observation.resetKey != track.resetKey
  · rw [if_pos isNew, if_pos isNew,
      ← track.series.push_cleared_eq_iff (.baseline now)]
    rcases track with ⟨series, seeded, lastTick, resetKey⟩
    simp only [restarted, Bool.false_eq_true, if_false, mk.injEq]
    constructor
    · rintro ⟨sameSeries, sameSeeded, sameTick, sameKey⟩
      exact ⟨sameKey, sameSeeded.symm, sameTick.symm, sameSeries⟩
    · rintro ⟨sameKey, unseeded, unticked, sameSeries⟩
      exact ⟨sameSeries, unseeded.symm, unticked.symm, sameKey⟩
  · rw [if_neg isNew, if_neg isNew,
      ← track.series.push_eq_self_iff (.baseline now)]
    rcases track with ⟨series, seeded, lastTick, resetKey⟩
    cases seeded with
    | true =>
        simp
    | false =>
        simp

/-- A double is always taken, and its tick is the last one then. -/
theorem observe_double
    [BEq κ]
    (track : Track κ)
    (now : Int)
    (value : Binary64)
    (tick : Option Int) :
    let observed :=
      track.observe now { value := some (.double value), tick := tick }
    observed.2 = .ok () ∧
      observed.1.seeded = true ∧
      observed.1.lastTick = tick := by
  simp only [observe, withResetKey, Option.isSome_none,
    Bool.false_eq_true, false_and, if_false]
  cases seeded : track.seeded with
  | false =>
      simp [seed, Reading.toDouble]
  | true =>
      by_cases same : tick = track.lastTick
      · simp [sample, same, seeded]
      · simp [sample, same, seeded, Reading.toDouble]

end Track

namespace Tracker

/-- An observation finds no series of the capacity, or it is one of a track. -/
theorem observe_cases
    [BEq κ]
    (tracker : Tracker κ)
    (now : Int)
    (key : SeriesKey)
    (observation : Observation κ) :
    (∃ fault,
      tracker.tracks.get? key = none ∧
        Series.ofCapacity tracker.capacity = .error fault ∧
        tracker.observe now key observation =
          (tracker, .error (.capacity fault))) ∨
      ∃ track,
        tracker.trackFor key = .ok track ∧
          tracker.observe now key observation =
            ({ tracker with
                tracks :=
                  tracker.tracks.insert key
                    (track.observe now observation).1 },
              ((track.observe now observation).2.mapError .overflow).map
                fun _ => (track.observe now observation).1.series) := by
  cases found : tracker.trackFor key with
  | ok track =>
      exact .inr ⟨track, rfl, by simp only [observe, found]⟩
  | error fault =>
      refine .inl ⟨fault, ?_, ?_, by simp only [observe, found]⟩
      · unfold trackFor at found
        split at found
        · cases found
        · next unknown =>
            exact unknown
      · unfold trackFor at found
        split at found
        · cases found
        · cases room : Series.ofCapacity tracker.capacity with
          | ok series =>
              simp [room, Except.map] at found
          | error fault' =>
              simpa [room, Except.map] using found

/-- An observation breaks off at a value just where its track does. -/
theorem observe_overflow
    [BEq κ]
    {tracker : Tracker κ}
    {now : Int}
    {key : SeriesKey}
    {observation : Observation κ}
    {cause : Overflow}
    (failed :
      (tracker.observe now key observation).2 = .error (.overflow cause)) :
    ∃ track,
      tracker.trackFor key = .ok track ∧
        (track.observe now observation).2 = .error cause ∧
        (tracker.observe now key observation).1 =
          { tracker with
            tracks :=
              tracker.tracks.insert key (track.observe now observation).1 } := by
  rcases tracker.observe_cases now key observation with
    ⟨fault, _, _, refused⟩ | ⟨track, found, taken⟩
  · rw [refused] at failed
    cases failed
  · refine ⟨track, found, ?_, congrArg Prod.fst taken⟩
    rw [taken] at failed
    cases outcome : (track.observe now observation).2 with
    | ok done =>
        simp [outcome, Except.mapError, Except.map] at failed
    | error cause' =>
        simpa [outcome, Except.mapError, Except.map] using failed

/--
An observation of a value without a double leaves a tracker as it was just if the
metric has a track that withstands it.
-/
theorem observe_overflow_eq_self_iff
    [BEq κ]
    {tracker : Tracker κ}
    {now : Int}
    {key : SeriesKey}
    {observation : Observation κ}
    {cause : Overflow}
    (failed :
      (tracker.observe now key observation).2 = .error (.overflow cause)) :
    (tracker.observe now key observation).1 = tracker ↔
      ∃ track,
        tracker.tracks.get? key = some track ∧
          track.Withstands now observation.resetKey := by
  obtain ⟨track, found, broken, left⟩ := observe_overflow failed
  have onlyTracks :
      (tracker.observe now key observation).1 = tracker ↔
        tracker.tracks.get? key = some (track.observe now observation).1 := by
    rw [left, ← OrderedMap.insert_eq_self_iff]
    rcases tracker with ⟨capacity, tracks⟩
    simp
  rw [onlyTracks]
  unfold trackFor at found
  cases known : tracker.tracks.get? key with
  | none =>
      simp
  | some there =>
      rw [known] at found
      cases found
      rw [Option.some.injEq, eq_comm, Track.observe_eq_self_iff broken]
      simp

/-- A metric that was sampled at a tick: its newest value is of that tick. -/
def HasSampled
    (tracker : Tracker κ)
    (tick : Option Int)
    (key : SeriesKey) :
    Prop :=
  ∃ track,
    tracker.tracks.get? key = some track ∧
      track.seeded = true ∧
      track.lastTick = tick

/-- A double that is observed leaves its metric sampled at the tick. -/
theorem hasSampled_observe
    [BEq κ]
    {tracker after : Tracker κ}
    {now : Int}
    {key : SeriesKey}
    {value : Binary64}
    {tick : Option Int}
    {series : Series}
    (observed :
      tracker.observe now key { value := some (.double value), tick := tick } =
        (after, .ok series)) :
    after.HasSampled tick key := by
  rcases tracker.observe_cases now key
      { value := some (.double value), tick := tick } with
    ⟨fault, _, _, refused⟩ | ⟨track, _, taken⟩
  · rw [refused] at observed
    cases observed
  · rw [taken, Prod.mk.injEq] at observed
    obtain ⟨rfl, _⟩ := observed
    obtain ⟨_, seeded, ticked⟩ := track.observe_double now value tick
    exact ⟨_, by rw [OrderedMap.get?_insert, if_pos rfl], seeded, ticked⟩

/-- A tick that was sampled is not sampled again. -/
theorem observe_of_hasSampled
    [BEq κ]
    {tracker : Tracker κ}
    {tick : Option Int}
    {key : SeriesKey}
    (sampled : tracker.HasSampled tick key)
    (now : Int)
    (value : Binary64) :
    (tracker.observe now key
      { value := some (.double value), tick := tick }).1 = tracker := by
  obtain ⟨track, known, seeded, ticked⟩ := sampled
  have same :
      track.observe now { value := some (.double value), tick := tick } =
        (track, .ok ()) := by
    simp [Track.observe, Track.withResetKey, Track.sample, seeded, ticked]
  have unchanged :=
    (tracker.tracks.insert_eq_self_iff key track).mpr known
  simp only [observe, trackFor, known, same, unchanged]

/-- Metrics that were sampled at a tick stay so while more of them are. -/
theorem HasSampled.observe
    [BEq κ]
    {tracker : Tracker κ}
    {tick : Option Int}
    {key : SeriesKey}
    (sampled : tracker.HasSampled tick key)
    (now : Int)
    (other : SeriesKey)
    (value : Binary64) :
    (tracker.observe now other
      { value := some (.double value), tick := tick }).1.HasSampled
        tick key := by
  by_cases same : key = other
  · subst same
    rw [observe_of_hasSampled sampled]
    exact sampled
  · have unchanged :
        (tracker.take
              (.observe now other
                { value := some (.double value), tick := tick })).tracks.get?
            key =
          tracker.tracks.get? key :=
      tracker.get?_take_of_ne same
    obtain ⟨track, known, rest⟩ := sampled
    exact ⟨track, unchanged.trans known, rest⟩

/-- The samples before the first that has no value. -/
def beforeFault
    (samples : List (SeriesKey × Except Overflow Binary64)) :
    List (SeriesKey × Except Overflow Binary64) :=
  samples.takeWhile fun sample => sample.2.isOk

/-- Where all samples before a fault were taken at the tick, nothing is changed. -/
theorem observeAll_of_hasSampled
    [BEq κ]
    {tracker : Tracker κ}
    {tick : Option Int}
    {samples : List (SeriesKey × Except Overflow Binary64)}
    (sampled :
      ∀ sample ∈ beforeFault samples, tracker.HasSampled tick sample.1)
    (times : Nat → Int) :
    (observeAll tick times samples tracker).1 = tracker := by
  induction samples generalizing times with
  | nil =>
      rfl
  | cons sample rest inductionHypothesis =>
      rcases sample with ⟨key, outcome⟩
      cases outcome with
      | error cause =>
          rfl
      | ok value =>
          have first : tracker.HasSampled tick key :=
            sampled (key, .ok value) (List.mem_cons_self ..)
          have unchanged := observe_of_hasSampled first (times 0) value
          have later :=
            inductionHypothesis
              (fun sample member =>
                sampled sample (List.mem_cons_of_mem _ member))
              (fun place => times (place + 1))
          rw [observeAll]
          split
          · next after series observed =>
              rw [observed] at unchanged
              rw [show after = tracker from unchanged]
              exact later
          · next after fault observed =>
              rw [observed] at unchanged
              exact unchanged

/-- What the observation of every double keeps is kept by sampling, however far it gets. -/
theorem observeAll_induction
    [BEq κ]
    {holds : Tracker κ → Prop}
    {tick : Option Int}
    (step :
      ∀ tracker now key value,
        holds tracker →
          holds
            (tracker.observe now key
              { value := some (.double value), tick := tick }).1)
    {tracker : Tracker κ}
    (first : holds tracker)
    (samples : List (SeriesKey × Except Overflow Binary64))
    (times : Nat → Int) :
    holds (observeAll tick times samples tracker).1 := by
  induction samples generalizing tracker times with
  | nil =>
      exact first
  | cons sample rest inductionHypothesis =>
      rcases sample with ⟨key, outcome⟩
      cases outcome with
      | error cause =>
          exact first
      | ok value =>
          have next := step tracker (times 0) key value first
          rw [observeAll]
          split
          · next after series observed =>
              rw [observed] at next
              exact inductionHypothesis next _
          · next after fault observed =>
              rw [observed] at next
              exact next

/-- Metrics that were sampled at a tick stay so over the samples of a snapshot. -/
theorem HasSampled.observeAll
    [BEq κ]
    {tracker : Tracker κ}
    {tick : Option Int}
    {key : SeriesKey}
    (sampled : tracker.HasSampled tick key)
    (samples : List (SeriesKey × Except Overflow Binary64))
    (times : Nat → Int) :
    (observeAll tick times samples tracker).1.HasSampled tick key := by
  have step :
      ∀ (tracker : Tracker κ) now other value,
        tracker.HasSampled tick key →
          (tracker.observe now other
            { value := some (.double value), tick := tick }).1.HasSampled
              tick key := by
    intro tracker now other value sampledBefore
    exact sampledBefore.observe now other value
  exact observeAll_induction step sampled samples times

/-- Sampling that breaks off at a value has sampled everything before it. -/
theorem hasSampled_observeAll
    [BEq κ]
    {tracker : Tracker κ}
    {tick : Option Int}
    {times : Nat → Int}
    {samples : List (SeriesKey × Except Overflow Binary64)}
    {cause : Overflow}
    (failed :
      (observeAll tick times samples tracker).2 = .error (.overflow cause)) :
    ∀ sample ∈ beforeFault samples,
      (observeAll tick times samples tracker).1.HasSampled tick sample.1 := by
  induction samples generalizing tracker times with
  | nil =>
      intro sample member
      cases member
  | cons sample rest inductionHypothesis =>
      rcases sample with ⟨key, outcome⟩
      cases outcome with
      | error cause =>
          intro sample member
          cases member
      | ok value =>
          rw [observeAll] at failed ⊢
          cases observed :
              tracker.observe (times 0) key
                { value := some (.double value), tick := tick } with
          | mk after outcome =>
              simp only [observed] at failed ⊢
              cases outcome with
              | error fault =>
                  -- A double has a double, so only a sample without a value breaks off.
                  have broken := failed
                  rw [Except.error.injEq] at broken
                  subst broken
                  obtain ⟨track, _, refused, _⟩ :=
                    observe_overflow (congrArg Prod.snd observed)
                  have taken := (track.observe_double (times 0) value tick).1
                  rw [taken] at refused
                  cases refused
              | ok series =>
                  intro sample member
                  rcases List.mem_cons.mp member with isFirst | isLater
                  · subst isFirst
                    exact (hasSampled_observe observed).observeAll rest _
                  · exact inductionHypothesis failed sample isLater

/-- No observation changes the capacity. -/
theorem capacity_observe
    [BEq κ]
    (tracker : Tracker κ)
    (now : Int)
    (key : SeriesKey)
    (observation : Observation κ) :
    (tracker.observe now key observation).1.capacity = tracker.capacity :=
  tracker.capacity_take (.observe now key observation)

/-- No sampling changes the capacity. -/
theorem capacity_observeAll
    [BEq κ]
    (tick : Option Int)
    (times : Nat → Int)
    (samples : List (SeriesKey × Except Overflow Binary64))
    (tracker : Tracker κ) :
    (observeAll tick times samples tracker).1.capacity =
      tracker.capacity := by
  have step :
      ∀ (sampled : Tracker κ) now key value,
        sampled.capacity = tracker.capacity →
          (sampled.observe now key
            { value := some (.double value), tick := tick }).1.capacity =
              tracker.capacity := by
    intro sampled now key value kept
    rw [capacity_observe, kept]
  exact observeAll_induction step rfl samples times

/-- An observation that finds no series of the capacity changes nothing. -/
theorem observe_capacity_fault
    [BEq κ]
    {tracker : Tracker κ}
    {now : Int}
    {key : SeriesKey}
    {observation : Observation κ}
    {fault : CapacityFault}
    (failed :
      (tracker.observe now key observation).2 =
        .error (.capacity fault)) :
    Series.ofCapacity tracker.capacity = .error fault ∧
      (tracker.observe now key observation).1 = tracker := by
  rcases tracker.observe_cases now key observation with
    ⟨fault', _, room, refused⟩ | ⟨track, _, taken⟩
  · rw [refused] at failed ⊢
    cases failed
    exact ⟨room, rfl⟩
  · rw [taken] at failed
    cases outcome : (track.observe now observation).2 <;>
      simp [outcome, Except.mapError, Except.map] at failed

/-- Sampling that finds no series of the capacity has found none of it. -/
theorem observeAll_capacity_fault
    [BEq κ]
    {tracker : Tracker κ}
    {tick : Option Int}
    {times : Nat → Int}
    {samples : List (SeriesKey × Except Overflow Binary64)}
    {fault : CapacityFault}
    (failed :
      (observeAll tick times samples tracker).2 =
        .error (.capacity fault)) :
    Series.ofCapacity tracker.capacity = .error fault := by
  induction samples generalizing tracker times with
  | nil =>
      cases failed
  | cons sample rest inductionHypothesis =>
      rcases sample with ⟨key, outcome⟩
      cases outcome with
      | error cause =>
          cases failed
      | ok value =>
          rw [observeAll] at failed
          cases observed :
              tracker.observe (times 0) key
                { value := some (.double value), tick := tick } with
          | mk after outcome =>
              have kept : after.capacity = tracker.capacity := by
                rw [← tracker.capacity_observe (times 0) key, observed]
              simp only [observed] at failed
              cases outcome with
              | ok series =>
                  rw [← kept]
                  exact inductionHypothesis failed
              | error fault' =>
                  cases failed
                  exact
                    (observe_capacity_fault
                      (congrArg Prod.snd observed)).1

/-- A snapshot is not sampled at all, or its figures and metrics are sampled in turn. -/
theorem observeSnapshot_cases
    [BEq κ]
    (tracker : Tracker κ)
    (times : Nat → Int)
    (cluster : String)
    (snapshot : Snapshot)
    (tick : Option Int) :
    (∃ cause,
      snapshot.figures = .error cause ∧
        tracker.observeSnapshot times cluster snapshot tick =
          (tracker, .error (.overflow cause))) ∨
      ∃ figures,
        snapshot.figures = .ok figures ∧
          tracker.observeSnapshot times cluster snapshot tick =
            observeAll tick times
              (clusterSamples cluster figures snapshot) tracker := by
  unfold observeSnapshot
  cases snapshot.figures with
  | error cause =>
      exact .inl ⟨cause, rfl, rfl⟩
  | ok figures =>
      exact .inr ⟨figures, rfl, rfl⟩

/-- A tracker that has no metric, and no series of its capacity to give one. -/
structure Refused
    (tracker : Tracker κ)
    (fault : CapacityFault) :
    Prop where
  unobserved : tracker.tracks = .empty
  room : Series.ofCapacity tracker.capacity = .error fault

/-- Such a tracker takes no observation. -/
theorem Refused.observe
    [BEq κ]
    {tracker : Tracker κ}
    {fault : CapacityFault}
    (refused : tracker.Refused fault)
    (now : Int)
    (key : SeriesKey)
    (observation : Observation κ) :
    tracker.observe now key observation =
      (tracker, .error (.capacity fault)) := by
  simp [Tracker.observe, trackFor, refused.unobserved, refused.room,
    Except.map]

/-- Such a tracker samples nothing. -/
theorem Refused.observeAll
    [BEq κ]
    {tracker : Tracker κ}
    {fault : CapacityFault}
    (refused : tracker.Refused fault)
    (tick : Option Int)
    (times : Nat → Int)
    (samples : List (SeriesKey × Except Overflow Binary64)) :
    (observeAll tick times samples tracker).1 = tracker := by
  cases samples with
  | nil =>
      rfl
  | cons sample rest =>
      rcases sample with ⟨key, outcome⟩
      cases outcome with
      | error cause =>
          rfl
      | ok value =>
          simp only [Tracker.observeAll, refused.observe]

/-- What may be asked of a tracker: a call, or to sample a whole snapshot. -/
inductive Request
    (κ : Type)
  | call (call : Call κ)
  | snapshot
      (times : Nat → Int)
      (cluster : String)
      (snapshot : Snapshot)
      (tick : Option Int)

/-- Do what is asked, and say whether it broke off. -/
def respond
    [BEq κ]
    (tracker : Tracker κ) :
    Request κ →
    Tracker κ × Except SamplingFault Unit
  | .call (.observe now key observation) =>
      let (after, outcome) := tracker.observe now key observation
      (after, outcome.map fun _ => ())
  | .call (.reset key) =>
      (tracker.reset key, .ok ())
  | .snapshot times cluster snapshot tick =>
      tracker.observeSnapshot times cluster snapshot tick

/-- Do what is asked in turn, whether or not it breaks off. -/
def serve
    [BEq κ]
    (tracker : Tracker κ)
    (requests : List (Request κ)) :
    Tracker κ :=
  requests.foldl (fun tracker request => (tracker.respond request).1) tracker

/-- Such a tracker stays as it is, whatever is asked. -/
theorem Refused.respond
    [BEq κ]
    {tracker : Tracker κ}
    {fault : CapacityFault}
    (refused : tracker.Refused fault)
    (request : Request κ) :
    (tracker.respond request).1 = tracker := by
  cases request with
  | call call =>
      cases call with
      | observe now key observation =>
          simp only [Tracker.respond, refused.observe]
      | reset key =>
          simp [Tracker.respond, reset, refused.unobserved]
  | snapshot times cluster snapshot tick =>
      rcases tracker.observeSnapshot_cases times cluster snapshot tick with
        ⟨cause, _, broken⟩ | ⟨figures, _, sampled⟩
      · exact congrArg Prod.fst broken
      · rw [Tracker.respond, sampled]
        exact refused.observeAll tick times _

/-- Such a tracker stays as it is over all requests. -/
theorem Refused.serve
    [BEq κ]
    {tracker : Tracker κ}
    {fault : CapacityFault}
    (refused : tracker.Refused fault)
    (requests : List (Request κ)) :
    tracker.serve requests = tracker := by
  induction requests with
  | nil =>
      rfl
  | cons request rest inductionHypothesis =>
      have unchanged := refused.respond request
      have shape :
          tracker.serve (request :: rest) =
            (tracker.respond request).1.serve rest :=
        rfl
      rw [shape, unchanged, inductionHypothesis]

/-- No request changes the capacity. -/
theorem capacity_respond
    [BEq κ]
    (tracker : Tracker κ)
    (request : Request κ) :
    (tracker.respond request).1.capacity = tracker.capacity := by
  cases request with
  | call call =>
      cases call with
      | observe now key observation =>
          exact tracker.capacity_observe now key observation
      | reset key =>
          exact tracker.capacity_take (.reset key)
  | snapshot times cluster snapshot tick =>
      rcases tracker.observeSnapshot_cases times cluster snapshot tick with
        ⟨cause, _, broken⟩ | ⟨figures, _, sampled⟩
      · rw [respond, broken]
      · rw [respond, sampled]
        exact capacity_observeAll tick times _ tracker

/-- No series of requests changes the capacity. -/
theorem capacity_serve
    [BEq κ]
    (tracker : Tracker κ)
    (requests : List (Request κ)) :
    (tracker.serve requests).capacity = tracker.capacity := by
  induction requests generalizing tracker with
  | nil =>
      rfl
  | cons request rest inductionHypothesis =>
      have kept := tracker.capacity_respond request
      exact (inductionHypothesis (tracker.respond request).1).trans kept

/-- A request to observe breaks off where the observation does. -/
theorem respond_observe_error_iff
    [BEq κ]
    {tracker : Tracker κ}
    {now : Int}
    {key : SeriesKey}
    {observation : Observation κ}
    {fault : SamplingFault} :
    (tracker.respond (.call (.observe now key observation))).2 =
        .error fault ↔
      (tracker.observe now key observation).2 = .error fault := by
  cases outcome : (tracker.observe now key observation).2 <;>
    simp [respond, outcome, Except.map]

/-- A request that finds no series of the capacity has found none of it. -/
theorem room_of_respond_fault
    [BEq κ]
    {tracker : Tracker κ}
    {request : Request κ}
    {fault : CapacityFault}
    (failed : (tracker.respond request).2 = .error (.capacity fault)) :
    Series.ofCapacity tracker.capacity = .error fault := by
  cases request with
  | call call =>
      cases call with
      | observe now key observation =>
          have broken := respond_observe_error_iff.mp failed
          exact (observe_capacity_fault broken).1
      | reset key =>
          cases failed
  | snapshot times cluster snapshot tick =>
      rcases tracker.observeSnapshot_cases times cluster snapshot tick with
        ⟨cause, _, broken⟩ | ⟨figures, _, sampled⟩
      · rw [respond, broken] at failed
        cases failed
      · rw [respond, sampled] at failed
        exact observeAll_capacity_fault failed

/-- What a tracker is like that a request leaves alone if it breaks off at a value. -/
def Withstands
    [BEq κ]
    (tracker : Tracker κ) :
    Request κ →
    Prop
  | .call (.observe now key observation) =>
      ∃ track,
        tracker.tracks.get? key = some track ∧
          track.Withstands now observation.resetKey
  | .call (.reset _) =>
      True
  | .snapshot _ cluster snapshot tick =>
      ∀ figures,
        snapshot.figures = .ok figures →
          ∀ sample ∈
              beforeFault (clusterSamples cluster figures snapshot),
            tracker.HasSampled tick sample.1

/-- A request that breaks off at a value leaves just those trackers alone. -/
theorem respond_overflow_eq_self_iff
    [BEq κ]
    {tracker : Tracker κ}
    {request : Request κ}
    {cause : Overflow}
    (failed : (tracker.respond request).2 = .error (.overflow cause)) :
    (tracker.respond request).1 = tracker ↔ tracker.Withstands request := by
  cases request with
  | call call =>
      cases call with
      | observe now key observation =>
          have broken := respond_observe_error_iff.mp failed
          exact observe_overflow_eq_self_iff broken
      | reset key =>
          cases failed
  | snapshot times cluster snapshot tick =>
      rcases tracker.observeSnapshot_cases times cluster snapshot tick with
        ⟨cause', uncounted, broken⟩ | ⟨figures, counted, sampled⟩
      · rw [respond, broken]
        simp [Withstands, uncounted]
      · rw [respond, sampled] at failed ⊢
        have taken := hasSampled_observeAll failed
        constructor
        · intro unchanged figures' counted' sample member
          rw [counted] at counted'
          cases counted'
          rw [unchanged] at taken
          exact taken sample member
        · intro withstands
          exact observeAll_of_hasSampled (withstands figures counted) times

/--
A tracker that breaks off is left as it was where there is no series of its capacity,
whatever was asked before.

Where a value has no double, it is left as it was just if it withstands the request: an
observation must find a track that had a value, or that is as the observation leaves it,
and a snapshot must have been sampled at its tick up to the value that fails.
-/
theorem fault_keeps_tracker_iff
    [BEq κ]
    (capacity : Int)
    (requests : List (Request κ))
    (request : Request κ) :
    let start : Tracker κ := { capacity := capacity }
    let reached := start.serve requests
    let answer := reached.respond request
    (∀ fault, answer.2 = .error (.capacity fault) → answer.1 = reached) ∧
      ∀ cause,
        answer.2 = .error (.overflow cause) →
          (answer.1 = reached ↔ reached.Withstands request) := by
  intro start reached answer
  refine ⟨?_, fun _ failed => respond_overflow_eq_self_iff failed⟩
  intro fault failed
  have room := room_of_respond_fault failed
  rw [capacity_serve] at room
  have refused : start.Refused fault :=
    { unobserved := rfl
      room := room }
  have unmoved : reached = start :=
    refused.serve requests
  have kept := refused.respond request
  rwa [← unmoved] at kept

/-- A metric that has had a value withstands one that has no double. -/
theorem sampled_metric_withstands_overflow :
    let reached :=
      ({} : Tracker).serve
        [ .call
            (.observe 5000 ⟨"e", "m"⟩
              { value := some (.whole 1), tick := some 1 }) ]
    let answer :=
      reached.respond
        (.call
          (.observe 5000 ⟨"e", "m"⟩
            { value := some (.whole (Int.pow 10 400)), tick := some 2 }))
    answer.2 = .error (.overflow .integer) ∧ answer.1 = reached := by
  intro reached answer
  have failed : answer.2 = .error (.overflow .integer) := by
    decide +kernel
  have exactly :=
    (fault_keeps_tracker_iff Series.defaultCapacity
      [ .call
          (.observe 5000 ⟨"e", "m"⟩
            { value := some (.whole 1), tick := some 1 }) ]
      (.call
        (.observe 5000 ⟨"e", "m"⟩
          { value := some (.whole (Int.pow 10 400)), tick := some 2 })
        : Request ResetKey)).2 .integer failed
  have seeded :
      (reached.tracks.get? ⟨"e", "m"⟩).any Track.seeded = true := by
    decide +kernel
  obtain ⟨track, known, isSeeded⟩ := (Option.any_eq_true _ _).mp seeded
  exact ⟨failed, exactly.mpr ⟨track, known, .inl isSeeded⟩⟩

/--
A value without a double leaves its metric with a zero. The next value then brings
another one, so that the times of the series no longer ascend.
-/
theorem zero_left_by_overflow :
    let key : SeriesKey := ⟨"e", "m"⟩
    let reached :=
      ({} : Tracker).serve
        [.call (.observe 5000 key { value := none, tick := some 1 })]
    let answer :=
      reached.respond
        (.call
          (.observe 5000 key
            { value := some (.whole (Int.pow 10 400)), tick := some 1 }))
    let later :=
      answer.1.serve
        [ .call
            (.observe 5000 key
              { value := some (.whole 1), tick := some 1 }) ]
    answer.2 = .error (.overflow .integer) ∧
      answer.1 ≠ reached ∧
      (reached.series? key).map Series.points = some [] ∧
      (answer.1.series? key).map Series.points =
        some [{ time := 4000, value := .zero }] ∧
      (later.series? key).map (·.points.map Point.time) =
        some [4000, 4000, 5000] := by
  decide +kernel

end Tracker

end ShardAtlas
