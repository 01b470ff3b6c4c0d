import ShardAtlas.OrderedMap
import ShardAtlas.Series
import ShardAtlas.Snapshot.Usage

namespace ShardAtlas

/-!
# Tracking metrics

A tracker keeps one series for each metric of each entity and adds a point for
each refresh. The first value of a series comes with a zero one second before
it, so that a trend is seen at once. A refresh that was already sampled adds
nothing, and a new reset key starts a series over. Anything whose values can be
compared may be a reset key.

An observation that breaks off has already done a part of its work: the tracker
that is returned with a fault is the one that was left behind.
-/

/-- What a series is about. -/
structure SeriesKey where
  entity : String
  metric : String
  deriving Repr, DecidableEq

/-- A key whose change starts a series over. -/
inductive ResetKey
  | text (value : String)
  | number (value : Int)
  deriving Repr, DecidableEq

/-- A value as it is observed. -/
inductive Reading
  | whole (value : Int)
  | double (value : Binary64)
  deriving Repr, DecidableEq

/-- The double of a value. -/
def Reading.toDouble :
    Reading →
    Except Overflow Binary64
  | .whole value => Binary64.ofInt value
  | .double value => .ok value

/-- Add a value at a time, if the value has a double. -/
def Series.append
    (series : Series)
    (time : Int)
    (reading : Reading) :
    Except Overflow Series :=
  reading.toDouble.map fun value =>
    series.push { time := time, value := value }

/-- A series with what is remembered about its sampling. -/
structure Track
    (κ : Type) where
  series : Series
  seeded : Bool := false
  lastTick : Option Int := none
  resetKey : Option κ := none
  deriving Repr, DecidableEq

/-- One observation of a metric. -/
structure Observation
    (κ : Type := ResetKey) where
  value : Option Reading
  tick : Option Int
  resetKey : Option κ := none
  deriving Repr, DecidableEq

/-- Milliseconds from the zero at the start of a series to its first value. -/
def baselineOffset : Int :=
  1000

namespace Track

/-- Start a series over. -/
def restarted
    (track : Track κ) :
    Track κ :=
  { track with
    series := track.series.cleared
    seeded := false
    lastTick := none }

/-- Start a series over if it is given a new reset key. -/
def withResetKey
    [BEq κ]
    (track : Track κ)
    (key : Option κ) :
    Track κ :=
  if key.isSome ∧ key != track.resetKey then
    { track.restarted with resetKey := key }
  else
    track

/-- The time of a new point: never before or at that of the newest one. -/
def nextTime
    (track : Track κ)
    (now : Int) :
    Int :=
  match track.series.latest? with
  | some point =>
      max now (point.time + 1)
  | none =>
      now

/-- Add the first value, with the zero before it. -/
def seed
    (track : Track κ)
    (now : Int)
    (reading : Reading)
    (tick : Option Int) :
    Track κ × Except Overflow Unit :=
  let baseline :=
    track.series.push { time := now - baselineOffset, value := .zero }
  match reading.toDouble with
  | .ok value =>
      ({ track with
          series := baseline.push { time := now, value := value }
          seeded := true
          lastTick := tick },
        .ok ())
  | .error cause =>
      ({ track with series := baseline }, .error cause)

/-- Add a value of a refresh that is not sampled yet. -/
def sample
    (track : Track κ)
    (now : Int)
    (reading : Reading)
    (tick : Option Int) :
    Track κ × Except Overflow Unit :=
  if tick = track.lastTick then
    (track, .ok ())
  else
    match reading.toDouble with
    | .ok value =>
        ({ track with
            series :=
              track.series.push
                { time := track.nextTime now, value := value }
            lastTick := tick },
          .ok ())
    | .error cause =>
        (track, .error cause)

/-- Take one observation. -/
def observe
    [BEq κ]
    (track : Track κ)
    (now : Int)
    (observation : Observation κ) :
    Track κ × Except Overflow Unit :=
  let current := track.withResetKey observation.resetKey
  match observation.value with
  | none =>
      (current, .ok ())
  | some reading =>
      if current.seeded then
        current.sample now reading observation.tick
      else
        current.seed now reading observation.tick

end Track

/-- Why an observation breaks off. -/
inductive SamplingFault
  | capacity (fault : CapacityFault)
  | overflow (cause : Overflow)
  deriving Repr, DecidableEq

/-- The series of all metrics, in the order of their first observation. -/
structure Tracker
    (κ : Type := ResetKey) where
  capacity : Int := Series.defaultCapacity
  tracks : OrderedMap SeriesKey (Track κ) := .empty
  deriving Repr, DecidableEq

namespace Tracker

/-- The track of a key, which is a new one at its first observation. -/
def trackFor
    (tracker : Tracker κ)
    (key : SeriesKey) :
    Except CapacityFault (Track κ) :=
  match tracker.tracks.get? key with
  | some track =>
      .ok track
  | none =>
      (Series.ofCapacity tracker.capacity).map fun series =>
        { series := series }

/-- Take one observation of a metric and give its series. -/
def observe
    [BEq κ]
    (tracker : Tracker κ)
    (now : Int)
    (key : SeriesKey)
    (observation : Observation κ) :
    Tracker κ × Except SamplingFault Series :=
  match tracker.trackFor key with
  | .error fault =>
      (tracker, .error (.capacity fault))
  | .ok track =>
      let (observed, result) := track.observe now observation
      ({ tracker with tracks := tracker.tracks.insert key observed },
        (result.mapError .overflow).map fun _ => observed.series)

/-- Start the series of a metric over, if there is one. -/
def reset
    (tracker : Tracker κ)
    (key : SeriesKey) :
    Tracker κ :=
  match tracker.tracks.get? key with
  | some track =>
      { tracker with
        tracks := tracker.tracks.insert key track.restarted }
  | none =>
      tracker

/-- The series of a metric. -/
def series?
    (tracker : Tracker κ)
    (key : SeriesKey) :
    Option Series :=
  (tracker.tracks.get? key).map Track.series

/-- The metrics that were observed, in the order of their first observation. -/
def keys
    (tracker : Tracker κ) :
    List SeriesKey :=
  tracker.tracks.keys

/--
Take the values of some metrics in turn, up to the first that fails.

The time is read anew for each value.
-/
def observeAll
    [BEq κ]
    (tick : Option Int) :
    (Nat → Int) →
    List (SeriesKey × Except Overflow Binary64) →
    Tracker κ →
    Tracker κ × Except SamplingFault Unit
  | _, [], tracker =>
      (tracker, .ok ())
  | _, (_, .error cause) :: _, tracker =>
      (tracker, .error (.overflow cause))
  | times, (key, .ok value) :: rest, tracker =>
      match
        tracker.observe (times 0) key
          { value := some (.double value), tick := tick }
      with
      | (observed, .ok _) =>
          observeAll tick (fun place => times (place + 1)) rest observed
      | (observed, .error fault) =>
          (observed, .error fault)

/-- The metrics of a node with their values. -/
def nodeSamples
    (host : HostedNode) :
    List (SeriesKey × Except Overflow Binary64) :=
  [ (⟨host.node.id, "heap_percent"⟩, host.node.heapPercent),
    (⟨host.node.id, "disk_percent"⟩, host.node.diskPercent) ]

/-- The figures of a cluster and the metrics of its nodes, in the order of sampling. -/
def clusterSamples
    (cluster : String)
    (figures : List (String × Binary64))
    (snapshot : Snapshot) :
    List (SeriesKey × Except Overflow Binary64) :=
  figures.map (fun (metric, value) => (⟨cluster, metric⟩, .ok value)) ++
    snapshot.nodes.flatMap nodeSamples

/-- Sample the figures of a cluster, if they could be computed, and then its nodes. -/
def observeFigures
    [BEq κ]
    (tracker : Tracker κ)
    (times : Nat → Int)
    (cluster : String)
    (snapshot : Snapshot)
    (tick : Option Int) :
    Except Overflow (List (String × Binary64)) →
    Tracker κ × Except SamplingFault Unit
  | .error cause =>
      (tracker, .error (.overflow cause))
  | .ok figures =>
      observeAll tick times (clusterSamples cluster figures snapshot) tracker

/-- Sample the figures of a cluster and the percentages of its nodes. -/
def observeSnapshot
    [BEq κ]
    (tracker : Tracker κ)
    (times : Nat → Int)
    (cluster : String)
    (snapshot : Snapshot)
    (tick : Option Int) :
    Tracker κ × Except SamplingFault Unit :=
  tracker.observeFigures times cluster snapshot tick snapshot.figures

end Tracker

end ShardAtlas
