import ShardAtlas.Proofs.SeriesLog
import ShardAtlas.Proofs.Traversal

namespace ShardAtlas

/-!
# What a snapshot adds to its series

Sampling a snapshot is a run of observations, one for each figure of the cluster and
for each percentage of a node. All of them have the tick of the snapshot, so a series
gets one value at most, and only if it has none of that tick: the first one that the
snapshot gives, which is that of the first node if an id is repeated.
-/

/-- Whether every figure of a snapshot has a double. -/
structure Snapshot.IsMeasurable
    (snapshot : Snapshot) :
    Prop where
  figures : snapshot.figures.isOk = true
  heap : ∀ host ∈ snapshot.nodes, host.node.heapPercent.isOk = true
  disk : ∀ host ∈ snapshot.nodes, host.node.diskPercent.isOk = true

/--
The value that a snapshot gives for a metric.

It is a percentage of the first node with the id of the entity, or a figure of the
cluster.
-/
def Snapshot.value?
    (snapshot : Snapshot)
    (cluster : String)
    (key : SeriesKey) :
    Option Binary64 :=
  let host? :=
    snapshot.nodes.find? fun host => host.node.id == key.entity
  if key.metric = "heap_percent" then
    host?.bind fun host => host.node.heapPercent.toOption
  else if key.metric = "disk_percent" then
    host?.bind fun host => host.node.diskPercent.toOption
  else if key.entity = cluster then
    snapshot.figures.toOption.bind fun figures =>
      figures.lookup key.metric
  else
    none

/-- The names of the figures of a cluster. -/
def clusterMetrics : List String :=
  ["nodes", "indices", "documents", "shards", "unassigned_shards"]

/-- Whether a metric is a percentage of a node in a snapshot or a figure of the cluster. -/
def Snapshot.HasMetric
    (snapshot : Snapshot)
    (cluster : String)
    (key : SeriesKey) :
    Prop :=
  if key.metric = "heap_percent" ∨ key.metric = "disk_percent" then
    ∃ host ∈ snapshot.nodes, host.node.id = key.entity
  else
    key.entity = cluster ∧ key.metric ∈ clusterMetrics

/-- The doubles of a snapshot can be computed. -/
instance Snapshot.decidableIsMeasurable
    (snapshot : Snapshot) :
    Decidable snapshot.IsMeasurable :=
  decidable_of_iff
    (snapshot.figures.isOk = true ∧
      (∀ host ∈ snapshot.nodes, host.node.heapPercent.isOk = true) ∧
      ∀ host ∈ snapshot.nodes, host.node.diskPercent.isOk = true)
    ⟨fun ⟨figures, heap, disk⟩ => ⟨figures, heap, disk⟩,
      fun measurable =>
        ⟨measurable.figures, measurable.heap, measurable.disk⟩⟩

/-- A snapshot of nothing has only zeros. -/
theorem Snapshot.isMeasurable_empty :
    Snapshot.empty.IsMeasurable := by
  decide +kernel

namespace Tracker

/-- The samples that have a value. -/
def valued
    (samples : List (SeriesKey × Except Overflow Binary64)) :
    List (SeriesKey × Binary64) :=
  samples.filterMap fun (key, outcome) =>
    outcome.toOption.map fun value => (key, value)

/-- Where every sample has a value, the values are all there is. -/
theorem map_valued
    {samples : List (SeriesKey × Except Overflow Binary64)}
    (allValued : ∀ sample ∈ samples, sample.2.isOk = true) :
    (valued samples).map (fun (key, value) => (key, .ok value)) =
      samples := by
  induction samples with
  | nil =>
      rfl
  | cons sample rest inductionHypothesis =>
      have later :=
        inductionHypothesis fun sample member =>
          allValued sample (List.mem_cons_of_mem _ member)
      rcases sample with ⟨key, outcome⟩
      obtain ⟨value, rfl⟩ :=
        exists_eq_ok (allValued (key, outcome) (List.mem_cons_self ..))
      simpa [valued, Except.toOption] using later

/-- Whether a sample has a value is asked one after the other. -/
theorem valued_cons_ok
    (key : SeriesKey)
    (value : Binary64)
    (rest : List (SeriesKey × Except Overflow Binary64)) :
    valued ((key, .ok value) :: rest) = (key, value) :: valued rest :=
  rfl

/-- A key is looked up at the first entry that has it. -/
theorem lookup_cons_eq
    [DecidableEq κ]
    (key : κ)
    (entry : κ × ν)
    (rest : List (κ × ν)) :
    (entry :: rest).lookup key =
      if key = entry.1 then some entry.2 else rest.lookup key := by
  rcases entry with ⟨first, value⟩
  by_cases same : key = first
  · subst same
    rw [List.lookup_cons_self, if_pos rfl]
  · rw [List.lookup_cons, beq_false_of_ne same, if_neg same]

/-- The figures of a cluster are looked up by their names, for that cluster only. -/
theorem lookup_valued_figures
    (cluster : String)
    (figures : List (String × Binary64))
    (key : SeriesKey) :
    (valued
      (figures.map fun (metric, value) =>
        (⟨cluster, metric⟩, .ok value))).lookup key =
      if key.entity = cluster then
        figures.lookup key.metric
      else
        none := by
  rcases key with ⟨entity, metric⟩
  induction figures with
  | nil =>
      simp [valued]
  | cons figure rest inductionHypothesis =>
      rw [List.map_cons, valued_cons_ok, lookup_cons_eq, lookup_cons_eq,
        inductionHypothesis]
      by_cases ofCluster : entity = cluster
      · simp [ofCluster]
      · simp [ofCluster]

/-- A percentage is looked up by the id of its node. -/
theorem lookup_valued_nodes
    {nodes : List HostedNode}
    (heap : ∀ host ∈ nodes, host.node.heapPercent.isOk = true)
    (disk : ∀ host ∈ nodes, host.node.diskPercent.isOk = true)
    (key : SeriesKey) :
    (valued (nodes.flatMap nodeSamples)).lookup key =
      let host? := nodes.find? fun host => host.node.id == key.entity
      if key.metric = "heap_percent" then
        host?.bind fun host => host.node.heapPercent.toOption
      else if key.metric = "disk_percent" then
        host?.bind fun host => host.node.diskPercent.toOption
      else
        none := by
  rcases key with ⟨entity, metric⟩
  induction nodes with
  | nil =>
      simp [valued]
  | cons host rest inductionHypothesis =>
      have later :=
        inductionHypothesis
          (fun host member => heap host (List.mem_cons_of_mem _ member))
          (fun host member => disk host (List.mem_cons_of_mem _ member))
      obtain ⟨heapValue, ofHeap⟩ :=
        exists_eq_ok (heap host (List.mem_cons_self ..))
      obtain ⟨diskValue, ofDisk⟩ :=
        exists_eq_ok (disk host (List.mem_cons_self ..))
      have samples : nodeSamples host =
          [ (⟨host.node.id, "heap_percent"⟩, .ok heapValue),
            (⟨host.node.id, "disk_percent"⟩, .ok diskValue) ] := by
        rw [nodeSamples, ofHeap, ofDisk]
      rw [List.flatMap_cons, samples, List.cons_append, List.cons_append,
        List.nil_append, valued_cons_ok, valued_cons_ok, lookup_cons_eq,
        lookup_cons_eq, later]
      by_cases sameId : host.node.id = entity
      · by_cases isHeap : metric = "heap_percent"
        · simp [sameId, isHeap, ofHeap, Except.toOption]
        · by_cases isDisk : metric = "disk_percent"
          · simp [sameId, isDisk, ofDisk, Except.toOption]
          · simp [sameId, isHeap, isDisk]
      · simp [sameId, Ne.symm sameId]

/-- The figures of a cluster have their names, whatever the counts. -/
theorem map_fst_figures
    {snapshot : Snapshot}
    {figures : List (String × Binary64)}
    (computed : snapshot.figures = .ok figures) :
    figures.map Prod.fst = clusterMetrics := by
  refine map_eq_of_mapM Prod.fst Prod.fst ?_ computed
  rintro ⟨name, count⟩ figure named
  simp only at named
  cases double : Binary64.ofInt count with
  | error cause =>
      rw [double] at named
      cases named
  | ok value =>
      rw [double] at named
      cases named
      rfl

/-- A figure of a cluster is not called like a percentage of a node. -/
theorem lookup_figures_eq_none
    {snapshot : Snapshot}
    {figures : List (String × Binary64)}
    (computed : snapshot.figures = .ok figures)
    {metric : String}
    (percentage : metric = "heap_percent" ∨ metric = "disk_percent") :
    figures.lookup metric = none := by
  rw [List.lookup_eq_none_iff]
  intro figure member
  have isName : figure.1 ∈ figures.map Prod.fst :=
    List.mem_map_of_mem member
  rw [map_fst_figures computed] at isName
  rw [bne_iff_ne]
  rintro rfl
  rcases percentage with isHeap | isDisk
  · simp [isHeap, clusterMetrics] at isName
  · simp [isDisk, clusterMetrics] at isName

/-- What is sampled first for a metric is the value that the snapshot gives for it. -/
theorem lookup_clusterSamples
    {snapshot : Snapshot}
    (measurable : snapshot.IsMeasurable)
    {figures : List (String × Binary64)}
    (computed : snapshot.figures = .ok figures)
    (cluster : String)
    (key : SeriesKey) :
    (valued (clusterSamples cluster figures snapshot)).lookup key =
      snapshot.value? cluster key := by
  have parts :
      valued (clusterSamples cluster figures snapshot) =
        valued
            (figures.map fun (metric, value) =>
              (⟨cluster, metric⟩, .ok value)) ++
          valued (snapshot.nodes.flatMap nodeSamples) :=
    List.filterMap_append
  -- The figures come first, and none of them hides a percentage of a node.
  rw [parts, List.lookup_append, lookup_valued_figures,
    lookup_valued_nodes measurable.heap measurable.disk, Snapshot.value?,
    computed]
  by_cases isHeap : key.metric = "heap_percent"
  · have noFigure := lookup_figures_eq_none computed (.inl isHeap)
    rw [noFigure]
    simp [isHeap]
  · by_cases isDisk : key.metric = "disk_percent"
    · have noFigure := lookup_figures_eq_none computed (.inr isDisk)
      rw [noFigure]
      simp [isDisk]
    · simp [isHeap, isDisk, Except.toOption]

/-- Every sample of a snapshot has a value if all its figures have doubles. -/
theorem isOk_clusterSamples
    {snapshot : Snapshot}
    (measurable : snapshot.IsMeasurable)
    (cluster : String)
    (figures : List (String × Binary64)) :
    ∀ sample ∈ clusterSamples cluster figures snapshot,
      sample.2.isOk = true := by
  intro sample member
  rcases List.mem_append.mp member with isFigure | ofNode
  · obtain ⟨figure, _, rfl⟩ := List.mem_map.mp isFigure
    rfl
  · obtain ⟨host, isHost, isSample⟩ := List.mem_flatMap.mp ofNode
    simp only [nodeSamples, List.mem_cons, List.not_mem_nil,
      or_false] at isSample
    rcases isSample with rfl | rfl
    · exact measurable.heap host isHost
    · exact measurable.disk host isHost

/-- The observations that values come to at a tick, with the times that are read. -/
def observations
    (tick : Option Int) :
    (Nat → Int) →
    List (SeriesKey × Binary64) →
    List (Call κ)
  | _, [] =>
      []
  | times, (key, value) :: rest =>
      .observe (times 0) key { value := some (.double value), tick := tick } ::
        observations tick (fun place => times (place + 1)) rest

/-- Values are taken in turn like observations, and none of them fails. -/
theorem observeAll_eq_run
    [BEq κ]
    {tracker : Tracker κ}
    {calls : List (Call κ)}
    (tracks : ∀ key, tracker.Tracks calls key)
    (hasRoom : 1 ≤ tracker.capacity)
    (countable : tracker.capacity ≤ Series.greatestCapacity)
    (tick : Option Int)
    (times : Nat → Int)
    (values : List (SeriesKey × Binary64)) :
    let observed := observations tick times values
    observeAll tick times
          (values.map fun (key, value) => (key, .ok value)) tracker =
        (tracker.run observed, .ok ()) ∧
      ∀ key, (tracker.run observed).Tracks (calls ++ observed) key := by
  induction values generalizing tracker calls times with
  | nil =>
      simpa [observeAll, observations, run] using tracks
  | cons entry rest inductionHypothesis =>
      rcases entry with ⟨key, value⟩
      let observation : Observation κ :=
        { value := some (.double value), tick := tick }
      have converts : observation.converts = true :=
        rfl
      obtain ⟨track, observed, _⟩ :=
        (tracks key).observe hasRoom countable (times 0) converts
      have next :
          tracker.take (.observe (times 0) key observation) =
            { tracker with tracks := tracker.tracks.insert key track } :=
        congrArg Prod.fst observed
      have tracksNext :
          ∀ other,
            (tracker.take (.observe (times 0) key observation)).Tracks
              (calls ++ [.observe (times 0) key observation]) other :=
        fun other => (tracks other).take hasRoom countable converts
      obtain ⟨taken, tracksLater⟩ :=
        inductionHypothesis tracksNext (by rwa [capacity_take])
          (by rwa [capacity_take]) fun place => times (place + 1)
      refine ⟨?_, ?_⟩
      · simp only [List.map_cons, observeAll]
        rw [show tracker.observe (times 0) key
              { value := some (.double value), tick := tick } = _
            from observed]
        simp only
        rw [← next]
        exact taken
      · simpa [observations, run] using tracksLater

/-- What counts of the values observed for a metric, with their ticks. -/
def counted
    [BEq κ]
    (key : SeriesKey)
    (calls : List (Call κ)) :
    List (Option Int × Binary64) :=
  (Sample.effective (history key calls).samples).map fun sample =>
    (sample.tick, sample.value)

/-- Count a value at a tick, unless another of that tick was counted last. -/
def countedAlso
    (entries : List (Option Int × Binary64))
    (tick : Option Int)
    (value : Binary64) :
    List (Option Int × Binary64) :=
  if entries.getLast?.map Prod.fst = some tick then
    entries
  else
    entries ++ [(tick, value)]

/-- Once a value of a tick was counted, no other of that tick is. -/
theorem countedAlso_countedAlso
    (entries : List (Option Int × Binary64))
    (tick : Option Int)
    (value other : Binary64) :
    countedAlso (countedAlso entries tick value) tick other =
      countedAlso entries tick value := by
  by_cases counted : entries.getLast?.map Prod.fst = some tick
  · simp [countedAlso, counted]
  · simp [countedAlso, counted]

/-- A value of a tick at which nothing was counted yet is counted. -/
theorem countedAlso_of_new
    {entries : List (Option Int × Binary64)}
    {tick : Option Int}
    (isNew : ∀ entry ∈ entries, entry.1 ≠ tick)
    (value : Binary64) :
    countedAlso entries tick value = entries ++ [(tick, value)] := by
  refine if_neg fun isLast => ?_
  obtain ⟨last, newest, ofTick⟩ := Option.map_eq_some_iff.mp isLast
  exact isNew last (List.mem_of_getLast? newest) ofTick

/-- A double that is observed counts for its own metric. -/
theorem counted_observe
    [BEq κ]
    (key : SeriesKey)
    (calls : List (Call κ))
    (now : Int)
    (other : SeriesKey)
    (value : Binary64)
    (tick : Option Int) :
    counted key
        (calls ++
          [.observe now other
            { value := some (.double value), tick := tick }]) =
      if key = other then
        countedAlso (counted key calls) tick value
      else
        counted key calls := by
  by_cases same : other = key
  · have kept :=
      Sample.effective_concat (history key calls).samples
        { now := now, tick := tick, value := value }
    have samples :
        (history key
            (calls ++
              [.observe now other
                { value := some (.double value), tick := tick }])).samples =
          (history key calls).samples ++
            [{ now := now, tick := tick, value := value }] := by
      simp [history_concat, historyAfter, same, History.withResetKey,
        History.noting, Observation.sample?, Reading.toDouble,
        Except.toOption]
    rw [if_pos same.symm, counted, samples, kept, countedAlso, counted,
      List.getLast?_map, Option.map_map]
    cases newest :
        (Sample.effective (history key calls).samples).getLast? with
    | none =>
        have isEmpty :
            Sample.effective (history key calls).samples = [] :=
          List.getLast?_eq_none_iff.mp newest
        simp [isEmpty]
    | some last =>
        by_cases sameTick : tick = last.tick
        · simp [sameTick]
        · simp [sameTick, Ne.symm sameTick]
  · rw [if_neg (Ne.symm same), counted, history_concat, historyAfter,
      if_neg same, counted]

/-- Of the values that are observed at a tick, the first of a metric counts. -/
theorem counted_observations
    [BEq κ]
    (key : SeriesKey)
    (calls : List (Call κ))
    (tick : Option Int)
    (times : Nat → Int)
    (values : List (SeriesKey × Binary64)) :
    counted key (calls ++ observations tick times values) =
      ((values.lookup key).map
        (countedAlso (counted key calls) tick)).getD (counted key calls) := by
  induction values generalizing calls times with
  | nil =>
      simp [observations]
  | cons entry rest inductionHypothesis =>
      have shape :
          calls ++ observations tick times (entry :: rest) =
            (calls ++
                [.observe (times 0) entry.1
                  { value := some (.double entry.2), tick := tick }]) ++
              observations tick (fun place => times (place + 1)) rest := by
        simp [observations]
      rw [shape, inductionHypothesis, counted_observe, lookup_cons_eq]
      by_cases same : key = entry.1
      -- A later value of the metric has the tick of this one, so it does not count.
      · rw [if_pos same, if_pos same]
        cases rest.lookup key <;> simp [countedAlso_countedAlso]
      · rw [if_neg same, if_neg same]

/-- Sampling a snapshot does not break off, and counts the value of each metric once. -/
theorem observeSnapshot_eq_run
    [BEq κ]
    {tracker : Tracker κ}
    {calls : List (Call κ)}
    (tracks : ∀ key, tracker.Tracks calls key)
    (hasRoom : 1 ≤ tracker.capacity)
    (countable : tracker.capacity ≤ Series.greatestCapacity)
    {snapshot : Snapshot}
    (measurable : snapshot.IsMeasurable)
    (times : Nat → Int)
    (cluster : String)
    (tick : Option Int) :
    ∃ observed,
      tracker.observeSnapshot times cluster snapshot tick =
          (tracker.run observed, .ok ()) ∧
        ∀ key,
          (tracker.run observed).Tracks (calls ++ observed) key ∧
            counted key (calls ++ observed) =
              ((snapshot.value? cluster key).map
                (countedAlso (counted key calls) tick)).getD
                  (counted key calls) := by
  obtain ⟨figures, computed⟩ := exists_eq_ok measurable.figures
  let values := valued (clusterSamples cluster figures snapshot)
  obtain ⟨taken, tracksAfter⟩ :=
    observeAll_eq_run tracks hasRoom countable tick times values
  have allValues :
      values.map (fun (key, value) => (key, .ok value)) =
        clusterSamples cluster figures snapshot :=
    map_valued (isOk_clusterSamples measurable cluster figures)
  refine ⟨observations tick times values, ?_, ?_⟩
  · rw [observeSnapshot, computed, observeFigures, ← allValues]
    exact taken
  · intro key
    refine ⟨tracksAfter key, ?_⟩
    rw [counted_observations, lookup_clusterSamples measurable computed]

end Tracker

namespace Snapshot

/-- If all nodes have a percentage, that of an id is there just if the id is. -/
theorem isSome_percentage_iff
    {nodes : List HostedNode}
    {percentage : HostedNode → Except Overflow Binary64}
    (isOk : ∀ host ∈ nodes, (percentage host).isOk = true)
    (id : String) :
    ((nodes.find? fun host => host.node.id == id).bind fun host =>
        (percentage host).toOption).isSome = true ↔
      ∃ host ∈ nodes, host.node.id = id := by
  cases found : nodes.find? fun host => host.node.id == id with
  | none =>
      simpa using List.find?_eq_none.mp found
  | some host =>
      have isThere := List.mem_of_find?_eq_some found
      have hasId : host.node.id = id := by
        simpa using List.find?_some found
      obtain ⟨value, double⟩ := exists_eq_ok (isOk host isThere)
      simpa [double, Except.toOption] using ⟨host, isThere, hasId⟩

/-- A snapshot gives a value for just the metrics that it has. -/
theorem isSome_value?_iff
    {snapshot : Snapshot}
    (measurable : snapshot.IsMeasurable)
    (cluster : String)
    (key : SeriesKey) :
    (snapshot.value? cluster key).isSome = true ↔
      snapshot.HasMetric cluster key := by
  obtain ⟨figures, computed⟩ := exists_eq_ok measurable.figures
  have isName :
      (figures.lookup key.metric).isSome = true ↔
        key.metric ∈ clusterMetrics := by
    rw [← Tracker.map_fst_figures computed]
    simp [List.lookup_isSome_iff]
  unfold value? HasMetric
  by_cases isHeap : key.metric = "heap_percent"
  · simpa [isHeap] using isSome_percentage_iff measurable.heap key.entity
  · by_cases isDisk : key.metric = "disk_percent"
    · simpa [isDisk] using
        isSome_percentage_iff measurable.disk key.entity
    · by_cases ofCluster : key.entity = cluster
      · rw [computed]
        simpa only [isHeap, isDisk, ofCluster, or_self, if_false, if_true,
          true_and, Except.toOption, Option.bind_some] using isName
      · simp [isHeap, isDisk, ofCluster]

end Snapshot

/-- Taking the last entries and changing each of them may be done in any order. -/
theorem map_lastEntries
    (change : α → β)
    (room : Nat)
    (entries : List α) :
    (lastEntries room entries).map change =
      lastEntries room (entries.map change) := by
  simp [lastEntries]

namespace Sample

/-- The points after a time have the values of their samples. -/
theorem map_value_pointsAfter
    (time : Int)
    (samples : List Sample) :
    (pointsAfter time samples).map Point.value =
      samples.map Sample.value := by
  induction samples generalizing time with
  | nil =>
      rfl
  | cons sample rest inductionHypothesis =>
      simp [pointsAfter, inductionHypothesis]

/-- The log of some samples has a zero and their values. -/
theorem map_value_log
    {samples : List Sample}
    (someSample : samples ≠ []) :
    (log samples).map Point.value =
      .zero :: samples.map Sample.value := by
  cases samples with
  | nil =>
      exact absurd rfl someSample
  | cons first rest =>
      simp [log, map_value_pointsAfter]

end Sample

namespace Tracker

/-- A series shows the last of the values that were counted, after a zero. -/
theorem Tracks.values
    [BEq κ]
    {tracker : Tracker κ}
    {calls : List (Call κ)}
    {key : SeriesKey}
    (tracks : tracker.Tracks calls key)
    (someCounted : counted key calls ≠ []) :
    (tracker.series? key).map Series.values =
      some
        (lastEntries tracker.capacity.toNat
          (.zero :: (counted key calls).map Prod.snd)) := by
  have someEffective :
      Sample.effective (history key calls).samples ≠ [] := by
    simpa [counted] using someCounted
  have values :
      (counted key calls).map Prod.snd =
        (Sample.effective (history key calls).samples).map
          Sample.value := by
    simp [counted]
  unfold Tracks at tracks
  cases known : tracker.tracks.get? key with
  | none =>
      rw [known] at tracks
      rw [tracks.2] at someEffective
      exact absurd rfl someEffective
  | some track =>
      rw [known] at tracks
      rw [series?, known, Option.map_some, Option.map_some, Series.values,
        tracks.2.points, map_lastEntries,
        Sample.map_value_log someEffective, values]

end Tracker

end ShardAtlas
