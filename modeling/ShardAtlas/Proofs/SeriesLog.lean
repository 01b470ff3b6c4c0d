import Mathlib.Data.List.Destutter
import ShardAtlas.Series.Tracker

namespace ShardAtlas

/-!
# The log behind a series

A series shows the end of a log that only grows. The log of a metric is read off
the calls that a tracker was asked for: it starts where the series was last started
over, with a zero one second before the first value, and has a point for each
refresh that was sampled since.

The bounded series is all that a tracker looks at for the time of the next point.
This is enough, since there is always room for the newest point.
-/

/-- A value that an observation gave, with the time and the refresh it was given at. -/
structure Sample where
  now : Int
  tick : Option Int
  value : Binary64
  deriving Repr, DecidableEq

/-- Whether an item after a kept one is kept depends on the last one that was. -/
theorem destutter'_concat
    [DecidableEq β]
    (mark : α → β)
    (first : α)
    (items : List α)
    (item : α) :
    ∃ last,
      (items.destutter' (fun last next => mark last ≠ mark next)
          first).getLast? = some last ∧
        (items ++ [item]).destutter'
            (fun last next => mark last ≠ mark next) first =
          items.destutter' (fun last next => mark last ≠ mark next) first ++
            if mark item = mark last then [] else [item] := by
  induction items generalizing first with
  | nil =>
      refine ⟨first, rfl, ?_⟩
      by_cases same : mark item = mark first
      · simp [same]
      · simp [same, Ne.symm same]
  | cons next rest inductionHypothesis =>
      by_cases same : mark first = mark next
      · simpa [same] using inductionHypothesis first
      · obtain ⟨last, isLast, kept⟩ := inductionHypothesis next
        refine ⟨last, ?_, ?_⟩
        · simp [same, List.getLast?_cons, isLast]
        · simp [same, kept]

/-- A new item is kept unless its mark is the one of the last item that was kept. -/
theorem destutter_concat
    [DecidableEq β]
    (mark : α → β)
    (items : List α)
    (item : α) :
    let kept := items.destutter fun last next => mark last ≠ mark next
    (items ++ [item]).destutter (fun last next => mark last ≠ mark next) =
      if kept.getLast?.map mark = some (mark item) then
        kept
      else
        kept ++ [item] := by
  cases items with
  | nil =>
      simp
  | cons first rest =>
      obtain ⟨last, isLast, keptNext⟩ :=
        destutter'_concat mark first rest item
      simp only [List.cons_append, List.destutter_cons', isLast, keptNext,
        Option.map_some, Option.some.injEq, eq_comm]
      split <;> simp

namespace Sample

/-- The samples that add a point: the first, and each of another tick than the last of them. -/
def effective
    (samples : List Sample) :
    List Sample :=
  samples.destutter fun last sample => last.tick ≠ sample.tick

/-- The points of samples after a time, each later than the one before. -/
def pointsAfter
    (time : Int) :
    List Sample →
    List Point
  | [] =>
      []
  | sample :: rest =>
      let next := max sample.now (time + 1)
      { time := next, value := sample.value } :: pointsAfter next rest

/-- All points of some samples, with a zero one second before the first value. -/
def log :
    List Sample →
    List Point
  | [] =>
      []
  | first :: rest =>
      { time := first.now - 1000, value := .zero } ::
        { time := first.now, value := first.value } ::
          pointsAfter first.now rest

/-- A new sample is effective unless its tick is the one of the last effective sample. -/
theorem effective_concat
    (samples : List Sample)
    (sample : Sample) :
    effective (samples ++ [sample]) =
      match (effective samples).getLast? with
      | none =>
          [sample]
      | some last =>
          if sample.tick = last.tick then
            effective samples
          else
            effective samples ++ [sample] := by
  have kept :
      effective (samples ++ [sample]) =
        if (effective samples).getLast?.map tick = some sample.tick then
          effective samples
        else
          effective samples ++ [sample] :=
    destutter_concat tick samples sample
  rw [kept]
  cases newest : (effective samples).getLast? with
  | none =>
      simp [List.getLast?_eq_none_iff.mp newest]
  | some last =>
      simp [eq_comm]

/-- No sample is effective just if there is none. -/
theorem effective_eq_nil_iff
    (samples : List Sample) :
    effective samples = [] ↔ samples = [] := by
  simp [effective]

/-- A new sample adds a point that is later than the newest one. -/
theorem pointsAfter_concat
    (time : Int)
    (samples : List Sample)
    (sample : Sample) :
    pointsAfter time (samples ++ [sample]) =
      pointsAfter time samples ++
        [{ time :=
            max sample.now
              ((pointsAfter time samples).getLast?.elim time Point.time + 1)
           value := sample.value }] := by
  induction samples generalizing time with
  | nil =>
      rfl
  | cons next rest inductionHypothesis =>
      simp only [List.cons_append, pointsAfter, inductionHypothesis,
        List.getLast?_cons]
      cases (pointsAfter (max next.now (time + 1)) rest).getLast? <;> rfl

/-- Points after a time are later than it, each later than the one before. -/
theorem pairwise_pointsAfter
    (time : Int)
    (samples : List Sample) :
    (time :: (pointsAfter time samples).map Point.time).Pairwise
      (· < ·) := by
  induction samples generalizing time with
  | nil =>
      simp [pointsAfter]
  | cons next rest inductionHypothesis =>
      have later := inductionHypothesis (max next.now (time + 1))
      simp only [pointsAfter, List.map_cons]
      refine List.Pairwise.cons ?_ later
      intro other member
      rcases List.mem_cons.mp member with isNext | isLater
      · omega
      · have above := (List.pairwise_cons.mp later).1 other isLater
        omega

/-- There is a point for each sample. -/
theorem length_pointsAfter
    (time : Int)
    (samples : List Sample) :
    (pointsAfter time samples).length = samples.length := by
  induction samples generalizing time with
  | nil =>
      rfl
  | cons next rest inductionHypothesis =>
      simp [pointsAfter, inductionHypothesis]

/-- The log has a zero and a point for each sample. -/
theorem length_log
    (samples : List Sample) :
    (log samples).length =
      if samples = [] then 0 else samples.length + 1 := by
  cases samples <;> simp [log, length_pointsAfter]

/-- The times of a log are strictly ascending. -/
theorem pairwise_log
    (samples : List Sample) :
    ((log samples).map Point.time).Pairwise (· < ·) := by
  cases samples with
  | nil =>
      exact .nil
  | cons first rest =>
      have later := pairwise_pointsAfter first.now rest
      simp only [log, List.map_cons]
      refine List.Pairwise.cons ?_ later
      intro other member
      rcases List.mem_cons.mp member with isFirst | isLater
      · omega
      · have above := (List.pairwise_cons.mp later).1 other isLater
        omega

/-- A new sample adds a point to a log that is later than the newest one. -/
theorem log_concat
    {samples : List Sample}
    (someBefore : samples ≠ [])
    (sample : Sample) :
    ∃ newest,
      (log samples).getLast? = some newest ∧
        log (samples ++ [sample]) =
          log samples ++
            [{ time := max sample.now (newest.time + 1)
               value := sample.value }] := by
  cases samples with
  | nil =>
      exact absurd rfl someBefore
  | cons first rest =>
      refine ⟨((pointsAfter first.now rest).getLast?).getD
        { time := first.now, value := first.value }, ?_, ?_⟩
      · simp [log, List.getLast?_cons]
      · simp only [List.cons_append, log, pointsAfter_concat]
        cases (pointsAfter first.now rest).getLast? <;> rfl

end Sample

/-- The sample that an observation gives, if its value has a double. -/
def Observation.sample?
    (observation : Observation κ)
    (now : Int) :
    Option Sample :=
  observation.value.bind fun reading =>
    reading.toDouble.toOption.map fun value =>
      { now := now, tick := observation.tick, value := value }

/-- Whether the value of an observation has a double, if there is one. -/
def Observation.converts
    (observation : Observation κ) :
    Bool :=
  observation.value.all fun reading => reading.toDouble.isOk

/-- What counts of the observations of a metric: those since it was last started over. -/
structure History
    (κ : Type) where
  resetKey : Option κ := none
  samples : List Sample := []
  deriving Repr, DecidableEq

namespace History

/-- A new reset key starts a history over. -/
def withResetKey
    [BEq κ]
    (history : History κ)
    (key : Option κ) :
    History κ :=
  if key.isSome ∧ key != history.resetKey then
    { resetKey := key }
  else
    history

/-- Note the sample of an observation, if it gives one. -/
def noting
    (history : History κ)
    (sample : Option Sample) :
    History κ :=
  { history with samples := history.samples ++ sample.toList }

/-- Start a history over; its reset key stays. -/
def cleared
    (history : History κ) :
    History κ :=
  { history with samples := [] }

end History

/-- A track whose series is the end of the log of a history. -/
structure Track.Follows
    (track : Track κ)
    (room : Nat)
    (history : History κ) :
    Prop where
  capacity : track.series.capacity = room
  resetKey : track.resetKey = history.resetKey
  points :
    track.series.points =
      lastEntries room (Sample.log (Sample.effective history.samples))
  seeded :
    track.seeded = true ↔ history.samples ≠ []
  lastTick :
    ∀ last,
      (Sample.effective history.samples).getLast? = some last →
        track.lastTick = last.tick

namespace Track.Follows

/-- A track that is started over follows a history that is. -/
theorem restarted
    {track : Track κ}
    {room : Nat}
    {history : History κ}
    (follows : track.Follows room history) :
    track.restarted.Follows room history.cleared where
  capacity := follows.capacity
  resetKey := follows.resetKey
  points := by
    simp [Track.restarted, Series.cleared, History.cleared,
      Sample.effective, Sample.log, lastEntries]
  seeded := by
    simp [Track.restarted, History.cleared]
  lastTick := by
    simp [History.cleared, Sample.effective]

/-- A reset key starts a track over just if it starts its history over. -/
theorem withResetKey
    [BEq κ]
    {track : Track κ}
    {room : Nat}
    {history : History κ}
    (follows : track.Follows room history)
    (key : Option κ) :
    (track.withResetKey key).Follows room (history.withResetKey key) := by
  unfold Track.withResetKey History.withResetKey
  rw [follows.resetKey]
  split
  · exact { follows.restarted with resetKey := rfl }
  · exact follows

/-- The newest point of a track is the newest one of the log. -/
theorem latest?_eq
    {track : Track κ}
    {room : Nat}
    {history : History κ}
    (follows : track.Follows room history) :
    track.series.latest? =
      (Sample.log (Sample.effective history.samples)).getLast? := by
  have hasRoom : 0 < room :=
    follows.capacity ▸ track.series.hasRoom
  rw [Series.latest?, follows.points, getLast?_lastEntries hasRoom]

/-- The first value of a series is the first sample of its history. -/
theorem seed
    {track : Track κ}
    {room : Nat}
    {history : History κ}
    (follows : track.Follows room history)
    (unseeded : history.samples = [])
    {reading : Reading}
    {value : Binary64}
    (double : reading.toDouble = .ok value)
    (now : Int)
    (tick : Option Int) :
    (track.seed now reading tick).2 = .ok () ∧
      (track.seed now reading tick).1.Follows room
        (history.noting
          (some { now := now, tick := tick, value := value })) := by
  have empty : track.series.points = [] := by
    simp [follows.points, unseeded, Sample.effective, Sample.log,
      lastEntries]
  simp only [Track.seed, double, true_and]
  exact
    { capacity := follows.capacity
      resetKey := follows.resetKey
      points := by
        simp only [Series.push, History.noting, unseeded, empty,
          follows.capacity, Option.toList_some, List.nil_append]
        rw [lastEntries_lastEntries_append]
        rfl
      seeded := by
        simp [History.noting]
      lastTick := by
        simp [History.noting, unseeded, Sample.effective] }

/-- A later value of a series is a later sample of its history. -/
theorem sample
    {track : Track κ}
    {room : Nat}
    {history : History κ}
    (follows : track.Follows room history)
    (seeded : history.samples ≠ [])
    {reading : Reading}
    {value : Binary64}
    (double : reading.toDouble = .ok value)
    (now : Int)
    (tick : Option Int) :
    (track.sample now reading tick).2 = .ok () ∧
      (track.sample now reading tick).1.Follows room
        (history.noting
          (some { now := now, tick := tick, value := value })) := by
  have someEffective : Sample.effective history.samples ≠ [] := by
    simpa [Sample.effective_eq_nil_iff] using seeded
  obtain ⟨last, isLast⟩ :=
    Option.isSome_iff_exists.mp
      (List.getLast?_isSome.mpr someEffective)
  have lastTick := follows.lastTick last isLast
  have kept :=
    Sample.effective_concat history.samples
      { now := now, tick := tick, value := value }
  simp only [isLast] at kept
  by_cases same : tick = last.tick
  · simp only [Track.sample, lastTick, same, if_true, true_and]
    simp only [same, if_true] at kept
    exact
      { capacity := follows.capacity
        resetKey := follows.resetKey
        points := by
          rw [follows.points, History.noting, Option.toList_some, kept]
        seeded := by
          simp [History.noting, follows.seeded.mpr seeded]
        lastTick := by
          intro newest isNewest
          rw [History.noting, Option.toList_some, kept] at isNewest
          exact follows.lastTick newest isNewest }
  · -- The newest point of the log is still in the series, so the times agree.
    obtain ⟨newest, isNewest, grown⟩ :=
      Sample.log_concat someEffective
        { now := now, tick := tick, value := value }
    simp only [Track.sample, lastTick, same, double, if_false, true_and]
    simp only [same, if_false] at kept
    exact
      { capacity := follows.capacity
        resetKey := follows.resetKey
        points := by
          simp only [Series.push, Track.nextTime, follows.latest?_eq,
            isNewest, follows.points, follows.capacity,
            lastEntries_lastEntries_append]
          rw [History.noting, Option.toList_some, kept, grown]
        seeded := by
          simp [History.noting, follows.seeded.mpr seeded]
        lastTick := by
          intro newest isNewest
          rw [History.noting, Option.toList_some, kept] at isNewest
          simp at isNewest
          simp [← isNewest] }

/-- An observation is noted in the history of its metric. -/
theorem observe
    [BEq κ]
    {track : Track κ}
    {room : Nat}
    {history : History κ}
    (follows : track.Follows room history)
    (now : Int)
    {observation : Observation κ}
    (converts : observation.converts = true) :
    (track.observe now observation).2 = .ok () ∧
      (track.observe now observation).1.Follows room
        ((history.withResetKey observation.resetKey).noting
          (observation.sample? now)) := by
  have current := follows.withResetKey observation.resetKey
  cases given : observation.value with
  | none =>
      simpa [Track.observe, Observation.sample?, given, History.noting]
        using current
  | some reading =>
      cases double : reading.toDouble with
      | error cause =>
          simp [Observation.converts, given, double, Except.isOk,
            Except.toBool] at converts
      | ok value =>
          simp only [Track.observe, Observation.sample?, given, double,
            Option.bind_some, Except.toOption, Option.map_some]
          -- Whether a series is seeded is told by its history, as it now is.
          split
          · next isSeeded =>
              exact current.sample (current.seeded.mp isSeeded) double
                now observation.tick
          · next notSeeded =>
              have unseeded :
                  (history.withResetKey observation.resetKey).samples =
                    [] := by
                simpa [current.seeded] using notSeeded
              exact current.seed unseeded double now observation.tick

end Track.Follows

namespace Tracker

/-- What is asked of a tracker; an observation comes with the time it is made at. -/
inductive Call
    (κ : Type)
  | observe
      (now : Int)
      (key : SeriesKey)
      (observation : Observation κ)
  | reset (key : SeriesKey)
  deriving Repr, DecidableEq

namespace Call

/-- The metric that a call is about. -/
def key :
    Call κ →
    SeriesKey
  | .observe _ key _ => key
  | .reset key => key

/-- Whether a call observes a metric. -/
def observes
    (key : SeriesKey) :
    Call κ →
    Bool
  | .observe _ other _ => other = key
  | .reset _ => false

/-- Whether the value that a call observes has a double, if there is one. -/
def converts :
    Call κ →
    Bool
  | .observe _ _ observation => observation.converts
  | .reset _ => true

end Call

/-- Take one call. -/
def take
    [BEq κ]
    (tracker : Tracker κ) :
    Call κ →
    Tracker κ
  | .observe now key observation => (tracker.observe now key observation).1
  | .reset key => tracker.reset key

/-- Take calls in turn. -/
def run
    [BEq κ]
    (tracker : Tracker κ)
    (calls : List (Call κ)) :
    Tracker κ :=
  calls.foldl take tracker

/-- The last call of a run is taken after the others. -/
theorem run_concat
    [BEq κ]
    (tracker : Tracker κ)
    (calls : List (Call κ))
    (call : Call κ) :
    tracker.run (calls ++ [call]) = (tracker.run calls).take call :=
  List.foldl_concat ..

/-- The history of a metric after one more call. -/
def historyAfter
    [BEq κ]
    (key : SeriesKey)
    (history : History κ) :
    Call κ →
    History κ
  | .observe now other observation =>
      if other = key then
        (history.withResetKey observation.resetKey).noting
          (observation.sample? now)
      else
        history
  | .reset other =>
      if other = key then
        history.cleared
      else
        history

/-- What counts of the observations of a metric after some calls. -/
def history
    [BEq κ]
    (key : SeriesKey)
    (calls : List (Call κ)) :
    History κ :=
  calls.foldl (historyAfter key) {}

/-- The track of a metric follows its history, once the metric was observed. -/
def Tracks
    [BEq κ]
    (tracker : Tracker κ)
    (calls : List (Call κ))
    (key : SeriesKey) :
    Prop :=
  match tracker.tracks.get? key with
  | none =>
      calls.any (·.observes key) = false ∧ history key calls = {}
  | some track =>
      calls.any (·.observes key) = true ∧
        track.Follows tracker.capacity.toNat (history key calls)

/-- A tracker without calls has observed nothing. -/
theorem tracks_start
    [BEq κ]
    (capacity : Int)
    (key : SeriesKey) :
    ({ capacity := capacity } : Tracker κ).Tracks [] key := by
  simp [Tracks, history]

/-- There is a track to take an observation, and it follows the history. -/
theorem Tracks.trackFor
    [BEq κ]
    {tracker : Tracker κ}
    {calls : List (Call κ)}
    {key : SeriesKey}
    (tracks : tracker.Tracks calls key)
    (hasRoom : 1 ≤ tracker.capacity)
    (countable : tracker.capacity ≤ Series.greatestCapacity) :
    ∃ track,
      tracker.trackFor key = .ok track ∧
        track.Follows tracker.capacity.toNat (history key calls) := by
  unfold Tracks at tracks
  unfold Tracker.trackFor
  cases known : tracker.tracks.get? key with
  | some track =>
      rw [known] at tracks
      exact ⟨track, rfl, tracks.2⟩
  | none =>
      rw [known] at tracks
      have positive : 0 < tracker.capacity.toNat := by
        omega
      have allowed : ¬ Series.greatestCapacity < tracker.capacity := by
        omega
      simp only [Series.ofCapacity, positive, allowed, dif_pos, if_false,
        Except.map, Except.ok.injEq, exists_eq_left', tracks.2]
      exact
        { capacity := rfl
          resetKey := rfl
          points := by
            simp [Sample.effective, Sample.log, lastEntries]
          seeded := by
            simp
          lastTick := by
            simp [Sample.effective] }

/-- An observation gives the series that the tracker then has for the metric. -/
theorem Tracks.observe
    [BEq κ]
    {tracker : Tracker κ}
    {calls : List (Call κ)}
    {key : SeriesKey}
    (tracks : tracker.Tracks calls key)
    (hasRoom : 1 ≤ tracker.capacity)
    (countable : tracker.capacity ≤ Series.greatestCapacity)
    (now : Int)
    {observation : Observation κ}
    (converts : observation.converts = true) :
    ∃ track,
      tracker.observe now key observation =
          ({ tracker with tracks := tracker.tracks.insert key track },
            .ok track.series) ∧
        track.Follows tracker.capacity.toNat
          (historyAfter key (history key calls)
            (.observe now key observation)) := by
  obtain ⟨track, isTrack, follows⟩ := tracks.trackFor hasRoom countable
  obtain ⟨succeeds, followsNext⟩ := follows.observe now converts
  refine ⟨(track.observe now observation).1, ?_, ?_⟩
  · simp [Tracker.observe, isTrack, succeeds, Except.mapError, Except.map]
  · simpa [historyAfter] using followsNext

/-- No call changes the capacity. -/
theorem capacity_take
    [BEq κ]
    (tracker : Tracker κ)
    (call : Call κ) :
    (tracker.take call).capacity = tracker.capacity := by
  cases call with
  | observe now key observation =>
      simp only [take, Tracker.observe]
      split <;> rfl
  | reset key =>
      simp only [take, reset]
      split <;> rfl

/-- A call leaves the tracks of other metrics as they are. -/
theorem get?_take_of_ne
    [BEq κ]
    (tracker : Tracker κ)
    {call : Call κ}
    {key : SeriesKey}
    (different : key ≠ call.key) :
    (tracker.take call).tracks.get? key = tracker.tracks.get? key := by
  cases call with
  | observe now other observation =>
      simp only [Call.key] at different
      simp only [take, Tracker.observe]
      split
      · rfl
      · simp [OrderedMap.get?_insert, different]
  | reset other =>
      simp only [Call.key] at different
      simp only [take, reset]
      split
      · simp [OrderedMap.get?_insert, different]
      · rfl

/-- The history of a metric after one more call. -/
theorem history_concat
    [BEq κ]
    (key : SeriesKey)
    (calls : List (Call κ))
    (call : Call κ) :
    history key (calls ++ [call]) =
      historyAfter key (history key calls) call := by
  simp [history]

/-- A call keeps the tracks of other metrics with their histories. -/
theorem Tracks.take_of_ne
    [BEq κ]
    {tracker : Tracker κ}
    {calls : List (Call κ)}
    {key : SeriesKey}
    (tracks : tracker.Tracks calls key)
    {call : Call κ}
    (different : key ≠ call.key) :
    (tracker.take call).Tracks (calls ++ [call]) key := by
  have unobserved : call.observes key = false := by
    cases call with
    | observe now other observation =>
        exact decide_eq_false different.symm
    | reset other =>
        rfl
  have unchanged :
      historyAfter key (history key calls) call = history key calls := by
    cases call with
    | observe now other observation =>
        exact if_neg different.symm
    | reset other =>
        exact if_neg different.symm
  simpa [Tracks, get?_take_of_ne tracker different, capacity_take,
    history_concat, unchanged, unobserved] using tracks

/-- A call keeps every track with the history of its metric. -/
theorem Tracks.take
    [BEq κ]
    {tracker : Tracker κ}
    {calls : List (Call κ)}
    {key : SeriesKey}
    (tracks : tracker.Tracks calls key)
    (hasRoom : 1 ≤ tracker.capacity)
    (countable : tracker.capacity ≤ Series.greatestCapacity)
    {call : Call κ}
    (converts : call.converts = true) :
    (tracker.take call).Tracks (calls ++ [call]) key := by
  by_cases different : key ≠ call.key
  · exact tracks.take_of_ne different
  · have same : call.key = key :=
      (not_not.mp different).symm
    cases call with
    | observe now other observation =>
        obtain rfl : other = key := same
        obtain ⟨track, observed, follows⟩ :=
          tracks.observe hasRoom countable now converts
        simp only [Tracks, Tracker.take, observed,
          OrderedMap.get?_insert, if_true, history_concat]
        exact ⟨by simp [Call.observes], follows⟩
    | reset other =>
        obtain rfl : other = key := same
        unfold Tracks at tracks
        cases known : tracker.tracks.get? other with
        | none =>
            rw [known] at tracks
            have unobserved :
                (Call.reset other : Call κ).observes other = false :=
              rfl
            simp [Tracks, Tracker.take, reset, known, tracks.1, tracks.2,
              history_concat, historyAfter, unobserved, History.cleared]
        | some track =>
            rw [known] at tracks
            simp [Tracks, Tracker.take, reset, known, tracks.1,
              history_concat, historyAfter, OrderedMap.get?_insert,
              tracks.2.restarted]

/-- No run changes the capacity. -/
theorem capacity_run
    [BEq κ]
    (tracker : Tracker κ)
    (calls : List (Call κ)) :
    (tracker.run calls).capacity = tracker.capacity := by
  induction calls generalizing tracker with
  | nil =>
      rfl
  | cons call rest inductionHypothesis =>
      exact (inductionHypothesis _).trans (capacity_take tracker call)

/-- A run keeps every track with the history of its metric. -/
theorem tracks_run
    [BEq κ]
    {capacity : Int}
    (hasRoom : 1 ≤ capacity)
    (countable : capacity ≤ Series.greatestCapacity)
    (calls : List (Call κ))
    (converts : ∀ call ∈ calls, call.converts = true)
    (key : SeriesKey) :
    (({ capacity := capacity } : Tracker κ).run calls).Tracks calls
      key := by
  induction calls using List.reverseRecOn with
  | nil =>
      exact tracks_start capacity key
  | append_singleton calls call inductionHypothesis =>
      have earlier :=
        inductionHypothesis fun call member =>
          converts call (List.mem_append_left _ member)
      have newest : call.converts = true :=
        converts call (by simp)
      rw [run_concat]
      exact earlier.take (by rwa [capacity_run])
        (by rwa [capacity_run]) newest

/--
The series of a metric is the end of the log of its samples, whatever calls were
made and however the clock ran.

So no observation fails, the times of a series are strictly ascending, and its
length is told by the number of effective samples.
-/
theorem series_eq_end_of_log
    [BEq κ]
    {capacity : Int}
    (hasRoom : 1 ≤ capacity)
    (countable : capacity ≤ Series.greatestCapacity)
    (calls : List (Call κ))
    (converts : ∀ call ∈ calls, call.converts = true)
    (key : SeriesKey) :
    let start : Tracker κ := { capacity := capacity }
    let effective := Sample.effective (history key calls).samples
    let points := lastEntries capacity.toNat (Sample.log effective)
    (∀ before now observed observation later,
        calls = before ++ .observe now observed observation :: later →
          ∃ tracker series,
            (start.run before).observe now observed observation =
                (tracker, .ok series) ∧
              tracker.series? observed = some series) ∧
      ((start.run calls).series? key).map Series.points =
        (if calls.any (·.observes key) then some points else none) ∧
      (points.map Point.time).Pairwise (· < ·) ∧
      points.length =
        if effective = [] then
          0
        else
          min (effective.length + 1) capacity.toNat := by
  intro start effective points
  refine ⟨?_, ?_, ?_, ?_⟩
  · intro before now observed observation later callsShape
    subst callsShape
    have tracks :=
      tracks_run hasRoom countable before
        (fun call member =>
          converts call (List.mem_append_left _ member))
        observed
    have newest : observation.converts = true :=
      converts (.observe now observed observation) (by simp)
    obtain ⟨track, gives, _⟩ :=
      tracks.observe (by rwa [capacity_run]) (by rwa [capacity_run])
        now newest
    refine ⟨_, _, gives, ?_⟩
    simp [series?, OrderedMap.get?_insert]
  · have tracks := tracks_run hasRoom countable calls converts key
    unfold Tracks at tracks
    rw [capacity_run] at tracks
    cases known : (start.run calls).tracks.get? key with
    | none =>
        rw [known] at tracks
        simp [series?, known, tracks.1]
    | some track =>
        rw [known] at tracks
        simp [series?, known, tracks.1, tracks.2.points, points,
          effective]
  · exact (Sample.pairwise_log effective).sublist
      ((List.drop_sublist _ _).map Point.time)
  · rw [length_lastEntries, Sample.length_log]
    split <;> omega

/-- A clock that goes back does not take the times of a series back. -/
theorem series_of_backward_clock :
    ((({ capacity := 2 } : Tracker).run
        [ .observe 5000 ⟨"node", "heap"⟩
            { value := some (.whole 1), tick := some 1 },
          .observe 4000 ⟨"node", "heap"⟩
            { value := some (.whole 2), tick := some 2 } ]).series?
          ⟨"node", "heap"⟩).map (·.points.map Point.time) =
      some [5000, 5001] := by
  have log :=
    (series_eq_end_of_log
      (show (1 : Int) ≤ 2 by decide)
      (by decide)
      ([ .observe 5000 ⟨"node", "heap"⟩
          { value := some (.whole 1), tick := some 1 },
        .observe 4000 ⟨"node", "heap"⟩
          { value := some (.whole 2), tick := some 2 } ] :
        List (Call ResetKey))
      (by decide +kernel)
      ⟨"node", "heap"⟩).2.1
  have times := congrArg (Option.map (List.map Point.time)) log
  rw [Option.map_map] at times
  exact times.trans (by decide +kernel)

/-- A series with a greater capacity is refused, so nothing is ever logged. -/
theorem no_log_beyond_greatestCapacity :
    ¬ ∀ (capacity : Int)
        (calls : List (Call ResetKey))
        (key : SeriesKey),
        1 ≤ capacity →
          (∀ call ∈ calls, call.converts = true) →
            ((({ capacity := capacity } : Tracker).run calls).series?
                key).map Series.points =
              if calls.any (·.observes key) then
                some
                  (lastEntries capacity.toNat
                    (Sample.log
                      (Sample.effective (history key calls).samples)))
              else
                none := by
  intro logged
  have refused :=
    logged 9223372036854775808
      [ .observe 5000 ⟨"e", "m"⟩
          { value := some (.whole 1), tick := some 1 } ]
      ⟨"e", "m"⟩ (by decide) (by decide +kernel)
  revert refused
  decide +kernel

end Tracker

end ShardAtlas
