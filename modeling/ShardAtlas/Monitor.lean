import ShardAtlas.Publication
import ShardAtlas.Refresh.Remembered
import ShardAtlas.Series.Tracker

namespace ShardAtlas

/-!
# Monitors

A monitor watches clusters: it has a clock that starts refreshes, a publication
for each cluster, and a tracker for metrics, and it keeps what an operator chose.

A clock may be replaced by a new one. The publications then go on with the clock
that they began with, and the new clock does not tell them about its refreshes.

What cannot be written about something ends it: a clock does not start, an
interval is set with a failure, and a result is neither published nor dropped.
-/

/-- Something that notes every refresh it is told about, and may fail then. -/
structure Recorder where
  name : String
  fails : Bool := false
  deriving Repr, DecidableEq

/-- What a clock tells about refreshes. -/
inductive Listener
  | recorder (recorder : Recorder)
  | publication (cluster : String)
  deriving Repr, DecidableEq

/-- A note that a recorder was told about a refresh. -/
structure Notice where
  recorder : String
  scope : Refresh.Scope
  deriving Repr, DecidableEq

/-- A recorder that failed. -/
structure RecorderFault where
  name : String
  deriving Repr, DecidableEq

/-- The text about a recorder that failed. -/
def RecorderFault.message
    (fault : RecorderFault) :
    String :=
  "invalidator " ++ fault.name ++ " failed"

/-- A publication, and whether its ticks come from the clock. -/
structure Watched where
  publication : Publication
  clocked : Bool := true
  deriving Repr, DecidableEq

/-- Those who are told about refreshes. -/
structure Audience where
  watched : OrderedMap String Watched := .empty
  notices : List Notice := []
  deriving Repr, DecidableEq

/-- Change the publication of a cluster, if there is one. -/
def Audience.changePublication
    (audience : Audience)
    (cluster : String)
    (change : Publication → Publication) :
    Audience :=
  match audience.watched.get? cluster with
  | some watched =>
      { audience with
        watched :=
          audience.watched.insert cluster
            { watched with publication := change watched.publication } }
  | none =>
      audience

/-- How a listener is told about a refresh. -/
def Listener.announce :
    Listener →
    Refresh.Announce Audience RecorderFault
  | .recorder listening, scope, audience =>
      ({ audience with
          notices := audience.notices ++ [⟨listening.name, scope⟩] },
        if listening.fails then
          .error { name := listening.name }
        else
          .ok ())
  | .publication cluster, scope, audience =>
      (audience.changePublication cluster (·.invalidate scope), .ok ())

/-- Everything that a monitor has. -/
structure Monitor where
  now : Int := 0
  preferences : Option Preferences := none
  firstClock : Option Refresh.Clock := none
  laterClock : Option Refresh.Clock := none
  recorders : List Recorder := []
  listeners : List Listener := []
  audience : Audience := {}
  tracker : Option Tracker := none
  warnings : List String := []
  deriving Repr, DecidableEq

/-- Why something that a monitor is asked for fails. -/
inductive MonitorFault
  | withoutClock
  | withoutPreferences
  | withoutTracker
  | unknownCluster (cluster : String)
  | recorder (fault : RecorderFault)
  | setting (fault : Refresh.SettingFault)
  | preference (fault : PreferenceFault)
  | sampling (fault : SamplingFault)
  | overflow (cause : Overflow)
  | longInteger (cause : Text.LongInteger)
  | handler (text : String)
  deriving Repr

/-- The text about an observation that broke off. -/
def SamplingFault.message :
    SamplingFault →
    String
  | .capacity fault => fault.message
  | .overflow cause => cause.message

/-- The text about a failure. -/
def MonitorFault.message :
    MonitorFault →
    String
  | .withoutClock => "there is no clock"
  | .withoutPreferences => "there are no preferences"
  | .withoutTracker => "there is no tracker"
  | .unknownCluster cluster => Text.quoted cluster
  | .recorder fault => fault.message
  | .setting fault => fault.message
  | .preference fault => fault.message
  | .sampling fault => fault.message
  | .overflow cause => cause.message
  | .longInteger cause => cause.message
  | .handler text => text

/-- Something that is asked of a monitor; what is done before a failure stays. -/
abbrev Asked :=
  ExceptT MonitorFault (StateM Monitor)

namespace Monitor

/-- The clock in use. -/
def clock?
    (monitor : Monitor) :
    Option Refresh.Clock :=
  monitor.laterClock.or monitor.firstClock

/-- Put back the clock in use. -/
def withClock
    (monitor : Monitor)
    (clock : Refresh.Clock) :
    Monitor :=
  if monitor.laterClock.isSome then
    { monitor with laterClock := some clock }
  else
    { monitor with firstClock := some clock }

/-- Take a look at the clock in use. -/
def looked
    (monitor : Monitor) :
    Monitor :=
  match monitor.clock? with
  | some clock => monitor.withClock (clock.settled monitor.now)
  | none => monitor

/-- The tick of the clock in use. -/
def lastTick?
    (monitor : Monitor) :
    Option Int :=
  monitor.clock?.bind Refresh.Clock.lastTick

/-- The publication of a cluster. -/
def publication?
    (monitor : Monitor)
    (cluster : String) :
    Option Publication :=
  (monitor.audience.watched.get? cluster).map Watched.publication

/-- All publications. -/
def publications
    (monitor : Monitor) :
    List Publication :=
  monitor.audience.watched.values.map Watched.publication

/-- Add warnings to those that were given. -/
def withWarnings
    (monitor : Monitor)
    (warnings : List String) :
    Monitor :=
  { monitor with warnings := monitor.warnings ++ warnings }

/-- Forget the warnings and notices, once they are reported. -/
def reported
    (monitor : Monitor) :
    Monitor :=
  { monitor with
    audience := { monitor.audience with notices := [] }
    warnings := [] }

/-- Start the clock in use with what is remembered. -/
def withFirstClock
    (monitor : Monitor)
    (settings : Refresh.ClockSettings) :
    Except Text.LongInteger Monitor :=
  let (clock, warnings) :=
    Refresh.Clock.recalled settings monitor.preferences monitor.now
  Message.given warnings
    ({ monitor with
      firstClock := some clock
      listeners := monitor.recorders.map .recorder }.withWarnings
        (Message.logged warnings).1)

/--
Watch a cluster; the clock may or may not tell about refreshes.

A publication that the cluster had before is forgotten.
-/
def watching
    (monitor : Monitor)
    (cluster : String)
    (clocked isTold : Bool) :
    Monitor :=
  let others := monitor.listeners.filter (· != .publication cluster)
  { monitor with
    listeners :=
      if isTold then
        others ++ [.publication cluster]
      else
        others
    audience :=
      { monitor.audience with
        watched :=
          monitor.audience.watched.insert cluster
            { publication := { cluster := cluster }
              clocked := clocked } } }

/-- The clock in use, which there must be. -/
def needClock :
    Asked Refresh.Clock := do
  match (← get).clock? with
  | some clock => pure clock
  | none => throw .withoutClock

/-- Add to the warnings, up to one that cannot be written. -/
def warn
    (warnings : List Message) :
    Asked Unit := do
  let (texts, outcome) := Message.logged warnings
  modify (·.withWarnings texts)
  match outcome with
  | .ok () => pure ()
  | .error cause => throw (.longInteger cause)

/-- Write a note that nobody reads. -/
def note
    (message : Message) :
    Asked Unit :=
  match message with
  | .ok _ => pure ()
  | .error cause => throw (.longInteger cause)

/-- Let time pass, or go back. -/
def advance
    (milliseconds : Int) :
    Asked Unit :=
  modify fun monitor => { monitor with now := monitor.now + milliseconds }

/-- Set the time. -/
def setTime
    (time : Int) :
    Asked Unit :=
  modify fun monitor => { monitor with now := time }

/-- Change the refresh interval and remember it if it is on offer. -/
def setInterval
    (value : Json) :
    Asked Unit := do
  let clock ← needClock
  let monitor ← get
  let preferences := monitor.preferences
  match clock.choose .ofPreferences preferences value monitor.now with
  | .error _ =>
      pure ()
  | .ok (changed, kept, warnings) =>
      set { monitor.withClock changed with preferences := kept }
      warn warnings
  match
    clock.settingOutcome .ofPreferences preferences value monitor.now
  with
  | .ok () => pure ()
  | .error fault => throw (.setting fault)

/-- Start a refresh and give its tick. -/
def trigger
    (request : Refresh.Request) :
    Asked Int := do
  let clock ← needClock
  let monitor ← get
  let (after, audience, outcome) :=
    clock.trigger (.still monitor.now) request.scope
      (monitor.listeners.map Listener.announce) monitor.audience
  set { monitor.withClock after with audience := audience }
  match outcome with
  | .ok tick => pure tick
  | .error fault => throw (.recorder fault)

/-- Start a refresh if it is due, and say whether it was. -/
def tick :
    Asked Bool := do
  let clock ← needClock
  let monitor ← get
  let (after, audience, outcome) :=
    clock.tick monitor.now monitor.now (.still monitor.now)
      (monitor.listeners.map Listener.announce) monitor.audience
  set { monitor.withClock after with audience := audience }
  match outcome with
  | .ok fired => pure fired
  | .error fault => throw (.recorder fault)

/-- Give out a tick for a fetch that finished. -/
def markFetched :
    Asked Int := do
  let clock ← needClock
  let monitor ← get
  let (stamped, tick) := clock.stamped monitor.now
  set (monitor.withClock stamped)
  pure tick

/-- Let a recorder be told about refreshes too. -/
def addRecorder
    (recorder : Recorder) :
    Asked Unit := do
  let _ ← needClock
  modify fun monitor =>
    { monitor with
      listeners := monitor.listeners ++ [.recorder recorder] }

/-- Replace the clock by a new one that tells only the recorders. -/
def restart :
    Asked Unit := do
  let clock ← needClock
  let monitor ← get
  let (later, warnings) :=
    Refresh.Clock.recalled clock.settings monitor.preferences monitor.now
  warn warnings
  modify fun warned =>
    { warned with
      laterClock := some later
      listeners := monitor.recorders.map .recorder }

/-- The preferences, which there must be. -/
def needPreferences :
    Asked Preferences := do
  match (← get).preferences with
  | some preferences => pure preferences
  | none => throw .withoutPreferences

/-- Open the preferences. -/
def openPreferences :
    Asked Unit := do
  match (← needPreferences).opened with
  | .ok () => pure ()
  | .error fault => throw (.preference fault)

/-- The text under a key of the preferences. -/
def getPreference
    (key : String) :
    Asked (Option String) := do
  match (← needPreferences).get key with
  | .ok text => pure text
  | .error fault => throw (.preference fault)

/-- Put a text under a key of the preferences. -/
def setPreference
    (key : String)
    (value : Option String) :
    Asked Unit := do
  match (← needPreferences).set key value with
  | .ok changed =>
      modify fun monitor => { monitor with preferences := some changed }
  | .error fault =>
      throw (.preference fault)

/-- What is watched of a cluster, which must be watched. -/
def needWatched
    (cluster : String) :
    Asked Watched := do
  match (← get).audience.watched.get? cluster with
  | some watched => pure watched
  | none => throw (.unknownCluster cluster)

/-- Put back a publication. -/
def putPublication
    (cluster : String)
    (publication : Publication) :
    Asked Unit :=
  modify fun monitor =>
    { monitor with
      audience :=
        monitor.audience.changePublication cluster fun _ => publication }

/-- Mark the snapshot of a cluster as stale. -/
def invalidate
    (cluster : String)
    (scope : Refresh.Scope) :
    Asked Unit := do
  let watched ← needWatched cluster
  putPublication cluster (watched.publication.invalidate scope)

/-- Begin a fetch of a cluster and give its token. -/
def beginFetch
    (cluster : String) :
    Asked Int := do
  let watched ← needWatched cluster
  let (publication, token) := watched.publication.beginFetch
  putPublication cluster publication
  pure token

/-- Publish what a fetch of a cluster gave. -/
def applyFetch
    (cluster : String)
    (token : Int)
    (inventory : Inventory) :
    Asked FetchOutcome := do
  let watched ← needWatched cluster
  if watched.publication.accepts token then
    warn (Snapshot.warnings inventory)
  else
    note (watched.publication.droppedNote token)
  let monitor ← get
  let (publication, clock, outcome) :=
    watched.publication.apply
      (if watched.clocked then monitor.firstClock else none)
      monitor.now token inventory
  if watched.clocked then
    set { monitor with firstClock := clock }
  putPublication cluster publication
  pure outcome

/-- Note that a fetch of a cluster failed. -/
def failFetch
    (cluster : String)
    (token : Int)
    (failure : FetchFailure) :
    Asked FetchOutcome := do
  let watched ← needWatched cluster
  if !watched.publication.accepts token then
    note (watched.publication.droppedNote token)
  let (publication, outcome) :=
    watched.publication.recordFailure token failure
  putPublication cluster publication
  warn ((publication.failureWarnings outcome).map .ok)
  pure outcome

/-- Finish a fetch of a cluster with what it gave. -/
def finishFetch
    (cluster : String)
    (token : Int)
    (fetched : Except FetchFailure Inventory) :
    Asked FetchOutcome :=
  match fetched with
  | .ok inventory => applyFetch cluster token inventory
  | .error failure => failFetch cluster token failure

/-- The tracker, which there must be. -/
def needTracker :
    Asked Tracker := do
  match (← get).tracker with
  | some tracker => pure tracker
  | none => throw .withoutTracker

/-- Put back the tracker. -/
def putTracker
    (tracker : Tracker) :
    Asked Unit :=
  modify fun monitor => { monitor with tracker := some tracker }

/-- Take one observation of a metric and give its series. -/
def observe
    (key : SeriesKey)
    (observation : Observation) :
    Asked Series := do
  let (tracker, outcome) :=
    (← needTracker).observe (← get).now key observation
  putTracker tracker
  match outcome with
  | .ok series => pure series
  | .error fault => throw (.sampling fault)

/-- Start the series of a metric over. -/
def resetSeries
    (key : SeriesKey) :
    Asked Unit := do
  putTracker ((← needTracker).reset key)

/-- Sample the figures of a snapshot. -/
def observeSnapshot
    (cluster : String)
    (snapshot : Snapshot)
    (tick : Option Int) :
    Asked Unit := do
  let now := (← get).now
  let (tracker, outcome) :=
    (← needTracker).observeSnapshot (fun _ => now) cluster snapshot tick
  putTracker tracker
  match outcome with
  | .ok () => pure ()
  | .error fault => throw (.sampling fault)

end Monitor

end ShardAtlas
