import ShardAtlas.Proofs.SamplingFaults

namespace ShardAtlas

/-!
# Series that do not affect each other

All series of a tracker are in one map, and any call may break off. Still a call reads
and writes the track of its own metric only. So what a run leaves for a metric is what
the calls on that metric leave, as if nothing else had been asked, and so is what each
of these calls gives.
-/

/-- Of a list with one entry more, the distinct entries have it last if it is new. -/
theorem eraseDups_concat
    [BEq α]
    [LawfulBEq α]
    [DecidableEq α]
    (entries : List α)
    (entry : α) :
    (entries ++ [entry]).eraseDups =
      if entry ∈ entries then
        entries.eraseDups
      else
        entries.eraseDups ++ [entry] := by
  rw [List.eraseDups_append]
  by_cases known : entry ∈ entries
  · simp [List.removeAll, known]
  · simp [List.removeAll, known, List.eraseDups_cons]

namespace Tracker

/-- Two trackers with one capacity and the same track of a metric, if they have one. -/
structure AgreeOn
    (first second : Tracker κ)
    (key : SeriesKey) :
    Prop where
  capacity : first.capacity = second.capacity
  track : first.tracks.get? key = second.tracks.get? key

namespace AgreeOn

variable {first second : Tracker κ} {key : SeriesKey}

/-- The same track takes the next observation of the metric. -/
theorem trackFor
    (agree : first.AgreeOn second key) :
    first.trackFor key = second.trackFor key := by
  unfold Tracker.trackFor
  rw [agree.track, agree.capacity]

/-- An observation of the metric leaves the same track of it, and gives the same. -/
theorem observe
    [BEq κ]
    (agree : first.AgreeOn second key)
    (now : Int)
    (observation : Observation κ) :
    (first.observe now key observation).1.AgreeOn
        (second.observe now key observation).1 key ∧
      (first.observe now key observation).2 =
        (second.observe now key observation).2 := by
  have sameTrack := agree.trackFor
  simp only [Tracker.observe, sameTrack]
  cases second.trackFor key with
  | error fault =>
      exact ⟨agree, rfl⟩
  | ok track =>
      refine ⟨⟨agree.capacity, ?_⟩, rfl⟩
      rw [OrderedMap.get?_insert, OrderedMap.get?_insert, if_pos rfl,
        if_pos rfl]

/-- Starting the metric over leaves the same track of it. -/
theorem reset
    (agree : first.AgreeOn second key) :
    (first.reset key).AgreeOn (second.reset key) key := by
  unfold Tracker.reset
  rw [agree.track]
  cases second.tracks.get? key with
  | none =>
      exact agree
  | some track =>
      refine ⟨agree.capacity, ?_⟩
      rw [OrderedMap.get?_insert, OrderedMap.get?_insert, if_pos rfl,
        if_pos rfl]

/-- A call on the metric leaves the same track of it, and gives the same. -/
theorem respond
    [BEq κ]
    {call : Call κ}
    (agree : first.AgreeOn second call.key) :
    (first.take call).AgreeOn (second.take call) call.key ∧
      (first.respond (.call call)).2 = (second.respond (.call call)).2 := by
  cases call with
  | observe now observed observation =>
      obtain ⟨agreeAfter, sameOutcome⟩ := agree.observe now observation
      exact ⟨agreeAfter, congrArg (Except.map fun _ => ()) sameOutcome⟩
  | reset started =>
      exact ⟨agree.reset, rfl⟩

/-- A call on another metric leaves the track as it is. -/
theorem take_of_ne
    [BEq κ]
    (agree : first.AgreeOn second key)
    {call : Call κ}
    (different : key ≠ call.key) :
    (first.take call).AgreeOn second key where
  capacity := (first.capacity_take call).trans agree.capacity
  track := (first.get?_take_of_ne different).trans agree.track

/-- A run leaves the same track of a metric as the calls of the run on that metric. -/
theorem run_filter
    [BEq κ]
    (agree : first.AgreeOn second key)
    (calls : List (Call κ)) :
    (first.run calls).AgreeOn
      (second.run (calls.filter fun call => call.key = key)) key := by
  induction calls generalizing first second with
  | nil =>
      exact agree
  | cons call rest inductionHypothesis =>
      by_cases same : call.key = key
      · subst same
        rw [List.filter_cons_of_pos (by simp)]
        exact inductionHypothesis agree.respond.1
      · rw [List.filter_cons_of_neg (by simpa using same)]
        exact inductionHypothesis (agree.take_of_ne (Ne.symm same))

end AgreeOn

/-- The metric that a call observes. -/
def Call.observed? :
    Call κ →
    Option SeriesKey
  | .observe _ key _ => some key
  | .reset _ => none

/-- Whether no call of a run breaks off. -/
def runsThrough
    [BEq κ] :
    Tracker κ →
    List (Call κ) →
    Bool
  | _, [] =>
      true
  | tracker, call :: rest =>
      (tracker.respond (.call call)).2.isOk &&
        runsThrough (tracker.take call) rest

/-- A run with one more call runs through if both do. -/
theorem runsThrough_concat
    [BEq κ]
    (tracker : Tracker κ)
    (calls : List (Call κ))
    (call : Call κ) :
    tracker.runsThrough (calls ++ [call]) =
      (tracker.runsThrough calls &&
        ((tracker.run calls).respond (.call call)).2.isOk) := by
  induction calls generalizing tracker with
  | nil =>
      simp [runsThrough, run]
  | cons first rest inductionHypothesis =>
      have later := inductionHypothesis (tracker.take first)
      simp only [List.cons_append, runsThrough, later, Bool.and_assoc]
      rfl

/-- A call that does not break off makes the metric known that it observes, if it is new. -/
theorem keys_take
    [BEq κ]
    {tracker : Tracker κ}
    {call : Call κ}
    (succeeds : (tracker.respond (.call call)).2.isOk = true) :
    (tracker.take call).keys =
      match call.observed? with
      | none =>
          tracker.keys
      | some key =>
          if key ∈ tracker.keys then
            tracker.keys
          else
            tracker.keys ++ [key] := by
  cases call with
  | observe now key observation =>
      rcases tracker.observe_cases now key observation with
        ⟨fault, _, _, refused⟩ | ⟨track, _, taken⟩
      · rw [Tracker.respond, refused] at succeeds
        cases succeeds
      · rw [take, taken]
        exact OrderedMap.keys_alter _ _ _
  | reset key =>
      rw [take, Tracker.reset]
      split
      · next track known =>
          have isKey : key ∈ tracker.tracks.keys := by
            rw [OrderedMap.mem_keys_iff_isSome_get?, known]
            rfl
          exact (OrderedMap.keys_alter _ _ _).trans (if_pos isKey)
      · rfl

/-- After a run that runs through, the metrics are known that it observed. -/
theorem keys_run
    [BEq κ]
    {capacity : Int}
    {calls : List (Call κ)}
    (succeeds :
      ({ capacity := capacity } : Tracker κ).runsThrough calls = true) :
    (({ capacity := capacity } : Tracker κ).run calls).keys =
      (calls.filterMap Call.observed?).eraseDups := by
  induction calls using List.reverseRecOn with
  | nil =>
      rfl
  | append_singleton before last inductionHypothesis =>
      rw [runsThrough_concat, Bool.and_eq_true] at succeeds
      obtain ⟨throughBefore, lastSucceeds⟩ := succeeds
      have known := inductionHypothesis throughBefore
      rw [run_concat, keys_take lastSucceeds, known,
        List.filterMap_append]
      cases observed : last.observed? with
      | none =>
          simp [observed]
      | some key =>
          rw [List.filterMap_cons_some observed, List.filterMap_nil,
            eraseDups_concat]
          simp only [List.mem_eraseDups]

/--
What a run leaves for a metric is what its calls on that metric leave, whether or not
calls break off, and so is what any further call on the metric gives.

After a run in which no call breaks off, the known metrics are those that were observed,
with or without a value, each once and in the order of their first observation.
-/
theorem run_keeps_metrics_apart
    [BEq κ]
    (capacity : Int)
    (calls : List (Call κ)) :
    let start : Tracker κ := { capacity := capacity }
    let onlyOn (key : SeriesKey) : Tracker κ :=
      start.run (calls.filter fun call => call.key = key)
    (∀ key,
      (start.run calls).tracks.get? key =
        (onlyOn key).tracks.get? key) ∧
      (∀ call : Call κ,
        ((start.run calls).respond (.call call)).2 =
          ((onlyOn call.key).respond (.call call)).2) ∧
      (start.runsThrough calls = true →
        (start.run calls).keys =
          (calls.filterMap Call.observed?).eraseDups) := by
  intro start onlyOn
  have agree
      (key : SeriesKey) :
      (start.run calls).AgreeOn (onlyOn key) key :=
    AgreeOn.run_filter ⟨rfl, rfl⟩ calls
  exact
    ⟨fun key => (agree key).track,
      fun call => (agree call.key).respond.2,
      keys_run⟩

/-- Two metrics that are observed in turns, the second one first without a value. -/
theorem keys_of_interleaved_metrics :
    let heap : SeriesKey := ⟨"node", "heap"⟩
    let disk : SeriesKey := ⟨"node", "disk"⟩
    let value (number tick : Int) : Observation :=
      { value := some (.whole number), tick := some tick }
    let calls : List (Call ResetKey) :=
      [ .reset disk,
        .observe 5000 heap (value 1 1),
        .observe 4000 disk { value := none, tick := some 1 },
        .observe 6000 heap { value 2 2 with resetKey := some (.number 7) },
        .reset heap,
        .observe 3000 disk (value 3 2),
        .observe 7000 heap (value 4 3) ]
    let start : Tracker := {}
    start.runsThrough calls = true ∧
      (start.run calls).keys = [heap, disk] := by
  intro heap disk value calls start
  have through : start.runsThrough calls = true := by
    decide +kernel
  refine ⟨through, ?_⟩
  rw [(run_keeps_metrics_apart _ calls).2.2 through]
  decide +kernel

end Tracker

end ShardAtlas
