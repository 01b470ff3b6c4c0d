import ShardAtlas.Proofs.Supersession
import ShardAtlas.Proofs.Survey

namespace ShardAtlas

/-!
# Publishing without a clock

A publication that has no clock stamps a snapshot with the time that is read as the result of
its fetch comes. Nothing makes these times pass: two of them may be the same, or the later one
may be smaller. A tracker that samples each snapshot as it is published goes by the stamp, so it
takes a snapshot for one that it knows if the last one with the same metric was published at
the same time. The values of that snapshot are then missing from its series.
-/

namespace Publication

/-- Whether no clock comes with the result of a fetch. -/
def Call.isClockless :
    Call →
    Bool
  | .succeed _ clock _ _ => clock.isNone
  | _ => true

namespace Session

/-- What a call publishes, with the time that is read for it. -/
def publishing?
    (session : Session)
    (call : Call) :
    Option (Int × Published) :=
  match call, (session.step call).2 with
  | .succeed _ _ now _, some outcome =>
      if outcome.status = .ok then
        some (now, outcome.published)
      else
        none
  | _, _ =>
      none

/-- What is published during a run, in its order. -/
def publishings :
    Session →
    List Call →
    List (Int × Published)
  | _, [] =>
      []
  | session, call :: rest =>
      (session.publishing? call).toList ++
        publishings (session.step call).1 rest

/-- The last call of a run is taken after the others. -/
theorem run_concat
    (session : Session)
    (calls : List Call)
    (call : Call) :
    session.run (calls ++ [call]) = ((session.run calls).step call).1 :=
  List.foldl_concat ..

/-- The calls of two runs publish one after the other. -/
theorem publishings_append
    (session : Session)
    (before later : List Call) :
    session.publishings (before ++ later) =
      session.publishings before ++
        (session.run before).publishings later := by
  induction before generalizing session with
  | nil =>
      rfl
  | cons call rest inductionHypothesis =>
      rw [List.cons_append, publishings, publishings, inductionHypothesis,
        run_cons, List.append_assoc]

/-- What a call publishes is the result of a fetch, stamped by the clock of the call. -/
theorem exists_succeed_of_publishing?
    {session : Session}
    {call : Call}
    {now : Int}
    {published : Published}
    (publishes : session.publishing? call = some (now, published)) :
    ∃ fetch clock inventory,
      call = .succeed fetch clock now inventory ∧
        published =
          { snapshot := .ofInventory inventory
            refreshedAt := some (publicationTick clock now).2 } ∧
        (session.step call).1.publication.published = published := by
  cases call with
  | beginFetch =>
      simp [publishing?] at publishes
  | invalidate scope =>
      simp [publishing?] at publishes
  | fail fetch failure =>
      simp [publishing?] at publishes
  | succeed fetch clock read inventory =>
      cases known : session.tokens[fetch]? with
      | none =>
          simp [publishing?, step, known] at publishes
      | some token =>
          by_cases newest : token = session.publication.generation
          · have effective :=
              (isCurrent_of_eq newest).publishes clock read inventory
            simp only [publishing?, step, known, effective, if_true,
              Option.some.injEq, Prod.mk.injEq] at publishes
            obtain ⟨rfl, rfl⟩ := publishes
            exact
              ⟨fetch, clock, inventory, rfl, rfl, by
                simp [step, known, effective]⟩
          · have refused :=
              (isSuperseded_of_ne newest).publishes clock read inventory
            simp [publishing?, step, known, refused] at publishes

/-- Without a clock, a snapshot is stamped with the time that is read for it. -/
theorem refreshedAt_of_mem_publishings
    {session : Session}
    {calls : List Call}
    (clockless : ∀ call ∈ calls, call.isClockless = true)
    {entry : Int × Published}
    (published : entry ∈ session.publishings calls) :
    entry.2.refreshedAt = some entry.1 := by
  induction calls generalizing session with
  | nil =>
      simp [publishings] at published
  | cons call rest inductionHypothesis =>
      obtain ⟨isClockless, restClockless⟩ :=
        List.forall_mem_cons.mp clockless
      rcases List.mem_append.mp published with now | later
      · rw [Option.mem_toList] at now
        obtain ⟨fetch, clock, inventory, rfl, stamped, _⟩ :=
          exists_succeed_of_publishing? now
        obtain rfl : clock = none :=
          Option.isNone_iff_eq_none.mp isClockless
        rw [stamped]
        rfl
      · exact inductionHypothesis restClockless later

end Session

end Publication

/--
A publication with a tracker that samples each snapshot as it is published.

The figures of the cluster are sampled under a name.
-/
structure Watch where
  session : Publication.Session
  cluster : String
  tracker : Tracker

namespace Watch

/-- A call to the publication, and the times read for the values of what it publishes. -/
structure Call where
  asked : Publication.Call
  times : Nat → Int

/-- What comes of sampling what a call publishes, at the tick that is then shown. -/
def sampling?
    (watch : Watch)
    (call : Call) :
    Option (Tracker × Except SamplingFault Unit) :=
  (watch.session.publishing? call.asked).map fun _ =>
    let publication := (watch.session.step call.asked).1.publication
    watch.tracker.observeSnapshot call.times watch.cluster
      publication.snapshot publication.published.refreshedAt

/-- Take one call, and sample what it publishes. -/
def step
    (watch : Watch)
    (call : Call) :
    Watch :=
  { watch with
    session := (watch.session.step call.asked).1
    tracker := ((watch.sampling? call).map Prod.fst).getD watch.tracker }

/-- Take calls in turn. -/
def run
    (watch : Watch)
    (calls : List Call) :
    Watch :=
  calls.foldl step watch

/-- The last call of a run is taken after the others. -/
theorem run_concat
    (watch : Watch)
    (calls : List Call)
    (call : Call) :
    watch.run (calls ++ [call]) = (watch.run calls).step call :=
  List.foldl_concat ..

/-- What is published in a run, with the times that are read for it. -/
def publishings
    (watch : Watch)
    (calls : List Call) :
    List (Int × Published) :=
  watch.session.publishings (calls.map Call.asked)

/-- What some calls publish is published by them and further ones, too. -/
theorem publishings_subset_append
    (watch : Watch)
    (before later : List Call) :
    watch.publishings before ⊆ watch.publishings (before ++ later) := by
  simp only [publishings, List.map_append,
    Publication.Session.publishings_append]
  exact List.subset_append_left _ _

/-- The entries of another tick than the one before them. -/
def ofNewTicks
    (entries : List (Option Int × Binary64)) :
    List (Option Int × Binary64) :=
  entries.destutter fun last next => last.1 ≠ next.1

/-- One more entry counts unless its tick was counted last. -/
theorem ofNewTicks_concat
    (entries : List (Option Int × Binary64))
    (tick : Option Int)
    (value : Binary64) :
    ofNewTicks (entries ++ [(tick, value)]) =
      Tracker.countedAlso (ofNewTicks entries) tick value :=
  destutter_concat Prod.fst entries (tick, value)

/-- The values that what is published in a run gives for a metric, with their ticks. -/
def entries
    (watch : Watch)
    (calls : List Call)
    (key : SeriesKey) :
    List (Option Int × Binary64) :=
  Survey.entries watch.cluster key
    ((watch.publishings calls).map Prod.snd)

/--
What a watch has come to after some calls: of the values that were published those count
that have another tick than the ones before them.
-/
structure Keeps
    (start : Watch)
    (calls : List Call) :
    Prop where
  session :
    (start.run calls).session = start.session.run (calls.map Call.asked)
  cluster : (start.run calls).cluster = start.cluster
  capacity : (start.run calls).tracker.capacity = start.tracker.capacity
  counts :
    ∃ observed,
      ∀ key,
        (start.run calls).tracker.Tracks observed key ∧
          Tracker.counted key observed =
            ofNewTicks (start.entries calls key)

variable {start : Watch} {calls : List Call}

/-- At first nothing was published or sampled. -/
theorem keeps_start
    {capacity : Int}
    (isUnused : start.tracker = { capacity := capacity }) :
    start.Keeps [] where
  session :=
    rfl
  cluster :=
    rfl
  capacity :=
    rfl
  counts := by
    refine ⟨[], fun key => ⟨?_, rfl⟩⟩
    rw [run, List.foldl_nil, isUnused]
    exact Tracker.tracks_start capacity key

/-- One more call publishes what it does to the session that the others have come to. -/
theorem Keeps.publishings_concat
    (keeps : start.Keeps calls)
    (call : Call) :
    start.publishings (calls ++ [call]) =
      start.publishings calls ++
        ((start.run calls).session.publishing? call.asked).toList := by
  rw [keeps.session]
  simp [publishings, Publication.Session.publishings_append,
    Publication.Session.publishings]

/-- One more call leaves its session behind. -/
theorem Keeps.session_concat
    (keeps : start.Keeps calls)
    (call : Call) :
    (start.run (calls ++ [call])).session =
      start.session.run ((calls ++ [call]).map Call.asked) := by
  rw [run_concat, List.map_append, List.map_singleton,
    Publication.Session.run_concat, ← keeps.session]
  rfl

/--
What a call publishes is sampled without a break, and a value of it counts unless its tick
was counted last.
-/
theorem Keeps.step
    (keeps : start.Keeps calls)
    (hasRoom : 1 ≤ start.tracker.capacity)
    (countable : start.tracker.capacity ≤ Series.greatestCapacity)
    (call : Call)
    (measurable :
      ∀ entry ∈ start.publishings (calls ++ [call]),
        entry.2.snapshot.IsMeasurable) :
    (∀ outcome ∈ (start.run calls).sampling? call,
        outcome.2 = .ok ()) ∧
      start.Keeps (calls ++ [call]) := by
  have grown := keeps.publishings_concat call
  obtain ⟨before, counts⟩ := keeps.counts
  cases publishes : (start.run calls).session.publishing? call.asked with
  | none =>
      have unsampled : (start.run calls).sampling? call = none := by
        rw [sampling?, publishes]
        rfl
      have reached :
          start.run (calls ++ [call]) =
            { start.run calls with
              session :=
                ((start.run calls).session.step call.asked).1 } := by
        rw [run_concat, Watch.step, unsampled]
        rfl
      have sameEntries
          (key : SeriesKey) :
          start.entries (calls ++ [call]) key =
            start.entries calls key := by
        rw [entries, grown, publishes]
        simp [entries]
      refine ⟨by simp [unsampled], keeps.session_concat call, ?_, ?_,
        before, fun key => ?_⟩
      · rw [reached]
        exact keeps.cluster
      · rw [reached]
        exact keeps.capacity
      · rw [reached, sameEntries]
        exact counts key
  | some entry =>
      obtain ⟨now, published⟩ := entry
      obtain ⟨_, _, _, _, _, isShown⟩ :=
        Publication.Session.exists_succeed_of_publishing? publishes
      rw [publishes] at grown
      have isMeasurable : published.snapshot.IsMeasurable :=
        measurable (now, published) (by simp [grown])
      obtain ⟨observed, gives, tracks⟩ :=
        Tracker.observeSnapshot_eq_run (fun key => (counts key).1)
          (by rwa [keeps.capacity]) (by rwa [keeps.capacity])
          isMeasurable call.times start.cluster published.refreshedAt
      have sampled :
          (start.run calls).sampling? call =
            some ((start.run calls).tracker.run observed, .ok ()) := by
        rw [sampling?, publishes, Option.map_some, keeps.cluster]
        simp only [Publication.snapshot, isShown, gives]
      have reached :
          start.run (calls ++ [call]) =
            { start.run calls with
              session := ((start.run calls).session.step call.asked).1
              tracker := (start.run calls).tracker.run observed } := by
        rw [run_concat, Watch.step, sampled]
        rfl
      have moreEntries
          (key : SeriesKey) :
          start.entries (calls ++ [call]) key =
            start.entries calls key ++
              ((published.snapshot.value? start.cluster key).map
                fun value => (published.refreshedAt, value)).toList := by
        rw [entries, grown, List.map_append, Survey.entries_append,
          ← Survey.entries_singleton]
        rfl
      refine ⟨by simp [sampled], keeps.session_concat call, ?_, ?_,
        before ++ observed, fun key => ⟨?_, ?_⟩⟩
      · rw [reached]
        exact keeps.cluster
      · rw [reached, Tracker.capacity_run, keeps.capacity]
      · rw [reached]
        exact (tracks key).1
      · rw [(tracks key).2, (counts key).2, moreEntries]
        cases published.snapshot.value? start.cluster key with
        | none =>
            simp
        | some value =>
            simp [ofNewTicks_concat]

/-- Whatever is asked of a publication that is watched, what it publishes is sampled. -/
theorem keeps_run
    {capacity : Int}
    (isUnused : start.tracker = { capacity := capacity })
    (hasRoom : 1 ≤ capacity)
    (countable : capacity ≤ Series.greatestCapacity)
    (calls : List Call)
    (measurable :
      ∀ entry ∈ start.publishings calls, entry.2.snapshot.IsMeasurable) :
    start.Keeps calls := by
  induction calls using List.reverseRecOn with
  | nil =>
      exact keeps_start isUnused
  | append_singleton calls call inductionHypothesis =>
      have keeps : start.Keeps calls :=
        inductionHypothesis fun entry isEntry =>
          measurable entry
            (start.publishings_subset_append calls [call] isEntry)
      exact
        (keeps.step (by rwa [isUnused]) (by rwa [isUnused]) call
          measurable).2

/-- If what is published has different stamps, each value has another tick than the others. -/
theorem ofNewTicks_entries
    (different :
      ((start.publishings calls).map fun entry =>
        entry.2.refreshedAt).Pairwise (· ≠ ·))
    (key : SeriesKey) :
    ofNewTicks (start.entries calls key) = start.entries calls key := by
  refine (List.destutter_eq_self_iff _ _).mpr (List.Pairwise.isChain ?_)
  have views :
      ((start.publishings calls).map Prod.snd).Pairwise fun last next =>
        last.refreshedAt ≠ next.refreshedAt :=
    List.pairwise_map.mpr (List.pairwise_map.mp different)
  refine views.filterMap _ ?_
  intro last next apart first isFirst second isSecond
  obtain ⟨_, _, rfl⟩ := Option.map_eq_some_iff.mp isFirst
  obtain ⟨_, _, rfl⟩ := Option.map_eq_some_iff.mp isSecond
  exact apart

/--
A snapshot that is published without a clock is stamped with the time read for it, so the
stamps ascend just where these times do.

A tracker that samples each snapshot as it is published shows the last values of a metric
after a zero, without those that were published at the time of the value before them. If the
times ascend, there are none of these.
-/
theorem stamps_eq_times
    {capacity : Int}
    (hasRoom : 1 ≤ capacity)
    (countable : capacity ≤ Series.greatestCapacity)
    (name cluster : String)
    (calls : List Call)
    (clockless : ∀ call ∈ calls, call.asked.isClockless = true) :
    let start : Watch :=
      { session := .start name
        cluster := cluster
        tracker := { capacity := capacity } }
    let publishings := start.publishings calls
    publishings.map (fun entry => entry.2.refreshedAt) =
        publishings.map (fun entry => some entry.1) ∧
      ((publishings.map Prod.fst).Pairwise (· < ·) →
        ∀ key,
          ofNewTicks (start.entries calls key) =
            start.entries calls key) ∧
      ((∀ entry ∈ publishings, entry.2.snapshot.IsMeasurable) →
        (∀ before call later,
          calls = before ++ call :: later →
            ∀ outcome ∈ (start.run before).sampling? call,
              outcome.2 = .ok ()) ∧
          ∀ key,
            let entries := start.entries calls key
            entries ≠ [] →
              ((start.run calls).tracker.series? key).map
                  Series.values =
                some
                  (lastEntries capacity.toNat
                    (.zero :: (ofNewTicks entries).map Prod.snd))) := by
  intro start publishings
  have stamps :
      publishings.map (fun entry => entry.2.refreshedAt) =
        publishings.map (fun entry => some entry.1) := by
    refine List.map_congr_left fun entry isEntry => ?_
    refine Publication.Session.refreshedAt_of_mem_publishings ?_ isEntry
    intro call isCall
    obtain ⟨asked, isAsked, rfl⟩ := List.mem_map.mp isCall
    exact clockless asked isAsked
  refine ⟨stamps, fun ascending => ?_, fun measurable => ⟨?_, ?_⟩⟩
  · refine ofNewTicks_entries ?_
    rw [stamps, List.pairwise_map]
    exact
      (List.pairwise_map.mp ascending).imp fun below same =>
        Int.ne_of_lt below (Option.some.inj same)
  · intro before call later callsShape
    have callsSplit : calls = (before ++ [call]) ++ later := by
      simp [callsShape]
    have measurableThen :
        ∀ entry ∈ start.publishings (before ++ [call]),
          entry.2.snapshot.IsMeasurable := by
      intro entry isEntry
      refine measurable entry ?_
      simp only [publishings, callsSplit]
      exact start.publishings_subset_append _ later isEntry
    have keeps : start.Keeps before :=
      keeps_run rfl hasRoom countable before fun entry isEntry =>
        measurableThen entry
          (start.publishings_subset_append before [call] isEntry)
    exact (keeps.step hasRoom countable call measurableThen).1
  · intro key entries someEntry
    have keeps : start.Keeps calls :=
      keeps_run rfl hasRoom countable calls measurable
    obtain ⟨observed, counts⟩ := keeps.counts
    obtain ⟨tracks, counted⟩ := counts key
    have someCounted : Tracker.counted key observed ≠ [] := by
      rw [counted]
      exact fun none => someEntry ((List.destutter_eq_nil _).mp none)
    rw [tracks.values someCounted, keeps.capacity, counted]

/-- A cluster of some nodes. -/
def clusterOf
    (ids : List String) :
    Inventory :=
  { nodes := ids.map fun id => { id := id, name := id } }

/-- A fetch of such a cluster, whose result comes without a clock at a time. -/
def fetchedAt
    (place : Nat)
    (now : Int)
    (ids : List String) :
    List Call :=
  [ { asked := .beginFetch
      times := fun _ => now },
    { asked := .succeed place none now (clusterOf ids)
      times := fun _ => now } ]

/-- Of three snapshots, the second one is missing as it is published at the time of the first. -/
theorem values_of_time_that_stalls :
    let start : Watch :=
      { session := .start "logs"
        cluster := "logs"
        tracker := { capacity := 20 } }
    let calls :=
      fetchedAt 0 5000 ["a"] ++ fetchedAt 1 5000 ["a", "b"] ++
        fetchedAt 2 4000 ["a", "b", "c"]
    let count (number : Nat) : Binary64 :=
      .finite false (number * Binary64.quantaPerUnit)
    (start.publishings calls).map (fun entry => entry.2.refreshedAt) =
        [some 5000, some 5000, some 4000] ∧
      (start.entries calls ⟨"logs", "nodes"⟩).map Prod.snd =
        [count 1, count 2, count 3] ∧
      ((start.run calls).tracker.series? ⟨"logs", "nodes"⟩).map
          Series.values =
        some [.zero, count 1, count 3] := by
  intro start calls count
  obtain ⟨stamps, _, sampled⟩ :=
    stamps_eq_times (show (1 : Int) ≤ 20 by decide) (by decide) "logs"
      "logs" calls (by decide +kernel)
  have values :=
    (sampled (by decide +kernel)).2 ⟨"logs", "nodes"⟩ (by decide +kernel)
  exact
    ⟨stamps.trans (by decide +kernel), by decide +kernel,
      values.trans (by decide +kernel)⟩

/-- Two snapshots that are published at one time have one stamp, and the later one is missed. -/
theorem missed_at_same_time :
    let start : Watch :=
      { session := .start "logs"
        cluster := "logs"
        tracker := { capacity := 20 } }
    let first := fetchedAt 0 5000 ["a"]
    let calls := first ++ fetchedAt 1 5000 ["a", "b"]
    let nodes : SeriesKey := ⟨"logs", "nodes"⟩
    (start.publishings calls).map (fun entry => entry.2.refreshedAt) =
        [some 5000, some 5000] ∧
      (start.run calls).session.publication.snapshot =
        .ofInventory (clusterOf ["a", "b"]) ∧
      (start.run calls).tracker.series? nodes =
        (start.run first).tracker.series? nodes := by
  decide +kernel

end Watch

end ShardAtlas
