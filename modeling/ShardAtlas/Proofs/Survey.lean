import Mathlib.Data.List.Induction
import ShardAtlas.Proofs.ScopedInvalidation
import ShardAtlas.Proofs.SnapshotValues
import ShardAtlas.Proofs.TickOrder

namespace ShardAtlas

/-!
# Surveys

A survey is an ensemble with a tracker that samples what one of its publications shows,
at the tick of what is shown. It may be sampled as often as one likes while anything
else happens. The ticks of what is published differ, and a tick is sampled once, so
each published snapshot that was sampled at all adds one value to each of its series.
-/

namespace Publication

/-- A failure that is recorded leaves what is published. -/
theorem published_recordFailure
    (publication : Publication)
    (token : Int)
    (failure : FetchFailure) :
    (publication.recordFailure token failure).1.published =
      publication.published := by
  unfold recordFailure
  split <;> rfl

end Publication

namespace Ensemble

/-- What is published in some place, of what is published anywhere. -/
def inPlace?
    (place : Nat) :
    Nat × Published →
    Option Published
  | (other, published) =>
      if other = place then
        some published
      else
        none

/-- Nothing else of what is published is in a place but what names that place. -/
theorem inPlace?_eq_some_iff
    {place : Nat}
    {entry : Nat × Published}
    {published : Published} :
    inPlace? place entry = some published ↔ entry = (place, published) := by
  simp [inPlace?, Prod.ext_iff]

/-- What a call publishes in some place. -/
def publishesAt?
    (place : Nat)
    (ensemble : Ensemble σ ε)
    (call : Call σ ε) :
    Option Published :=
  (ensemble.publishes? call).bind (inPlace? place)

/-- A refresh keeps what is published. -/
theorem getElem?_triggered
    {ensemble : Ensemble σ ε}
    {place : Nat}
    {publication : Publication}
    (found : ensemble.publications[place]? = some publication)
    (scope : Refresh.Scope)
    (times : Refresh.RefreshTimes) :
    ∃ after,
      (ensemble.triggered scope times).2.1.1[place]? = some after ∧
        after.published = publication.published := by
  obtain ⟨count, shape, _⟩ :=
    getElem?_announceAll scope ensemble.hearers ensemble.publications
      ensemble.others place
  rw [found, Option.map_some] at shape
  refine ⟨_, ?_, publication.published_iterate_invalidate scope count⟩
  rw [triggered, Refresh.Clock.told_trigger]
  exact shape

/-- A call changes what is published in a place just if it publishes there. -/
theorem getElem?_step
    {ensemble : Ensemble σ ε}
    {place : Nat}
    {publication : Publication}
    (found : ensemble.publications[place]? = some publication)
    (call : Call σ ε) :
    ∃ after,
      (ensemble.step call).publications[place]? = some after ∧
        after.published =
          (ensemble.publishesAt? place call).getD
            publication.published := by
  cases call with
  | setInterval value now =>
      simp only [step]
      split <;> exact ⟨publication, found, rfl⟩
  | trigger scope times =>
      exact getElem?_triggered found scope times
  | tick looked due times =>
      simp only [step, ticked, Refresh.Clock.tick_eq]
      cases ensemble.clock.isDue due with
      | true =>
          exact getElem?_triggered found .everything times
      | false =>
          exact ⟨publication, found, rfl⟩
  | invalidate other scope =>
      simp only [step, List.getElem?_modify, found]
      by_cases same : other = place
      · exact
          ⟨publication.invalidate scope, by simp [same],
            publication.published_iterate_invalidate scope 1⟩
      · exact ⟨publication, by simp [same], rfl⟩
  | beginFetch other =>
      simp only [step, List.getElem?_modify, found]
      by_cases same : other = place
      · exact ⟨publication.beginFetch.1, by simp [same], rfl⟩
      · exact ⟨publication, by simp [same], rfl⟩
  | fail other token failure =>
      simp only [step, List.getElem?_modify, found]
      by_cases same : other = place
      · exact
          ⟨(publication.recordFailure token failure).1, by simp [same],
            publication.published_recordFailure token failure⟩
      · exact ⟨publication, by simp [same], rfl⟩
  | succeed other token now inventory =>
      rw [publishesAt?, publishes?_succeed]
      by_cases same : other = place
      · subst same
        have within : other < ensemble.publications.length :=
          (List.getElem?_eq_some_iff.mp found).1
        simp only [step, found, List.getElem?_set_self within]
        cases current : publication.accepts token with
        | true =>
            exact
              ⟨_, rfl, by simp [Publication.apply, publicationTick,
                inPlace?, Refresh.Clock.stamped, current, Option.filter]⟩
        | false =>
            exact
              ⟨_, rfl, by
                simp [Publication.apply, current, Option.filter]⟩
      · refine ⟨publication, ?_, ?_⟩
        · simp only [step]
          split
          · simp [List.getElem?_set_ne same, found]
          · exact found
        · cases ensemble.publications[other]?.filter (·.accepts token) <;>
            simp [inPlace?, same]
  | _ =>
      exact ⟨publication, found, rfl⟩

/-- What a run publishes has pairwise different ticks. -/
theorem pairwise_publishes
    (ensemble : Ensemble σ ε)
    (calls : List (Call σ ε)) :
    (ensemble.publishes calls).Pairwise fun earlier later =>
      earlier.2.refreshedAt ≠ later.2.refreshedAt := by
  obtain ⟨ticks, published, within⟩ := ensemble.refreshedAt_publishes calls
  have ascending : ticks.Pairwise (· < ·) :=
    ((List.pairwise_append.mp (ensemble.pairwise_ticks calls)).2.1).sublist
      within
  have different : (ticks.map some).Pairwise (· ≠ ·) :=
    List.pairwise_map.mpr
      (ascending.imp fun below same =>
        Int.ne_of_lt below (Option.some.inj same))
  rw [← published] at different
  exact List.pairwise_map.mp different

end Ensemble

/--
An ensemble with a tracker that samples what is shown in one of its places.

The figures of the cluster are sampled under a name.
-/
structure Survey
    (σ : Type u)
    (ε : Type v) where
  ensemble : Ensemble σ ε
  place : Nat
  cluster : String
  tracker : Tracker

namespace Survey

/-- What is asked of a survey; the time is read anew for each value of a sampling. -/
inductive Call
    (σ : Type u)
    (ε : Type v)
  | ask (call : Ensemble.Call σ ε)
  | sample (times : Nat → Int)

/-- What a call asks of the ensemble. -/
def Call.asked? :
    Call σ ε →
    Option (Ensemble.Call σ ε)
  | .ask call => some call
  | .sample _ => none

/-- The publication that is sampled. -/
def shown?
    (survey : Survey σ ε) :
    Option Publication :=
  survey.ensemble.publications[survey.place]?

/-- What comes of sampling what is shown now. -/
def sampling?
    (survey : Survey σ ε)
    (times : Nat → Int) :
    Option (Tracker × Except SamplingFault Unit) :=
  survey.shown?.map fun publication =>
    survey.tracker.observeSnapshot times survey.cluster
      publication.snapshot publication.published.refreshedAt

/-- Take one call. -/
def step
    (survey : Survey σ ε) :
    Call σ ε →
    Survey σ ε
  | .ask call =>
      { survey with ensemble := survey.ensemble.step call }
  | .sample times =>
      match survey.sampling? times with
      | some (tracker, _) => { survey with tracker := tracker }
      | none => survey

/-- Take calls in turn. -/
def run
    (survey : Survey σ ε)
    (calls : List (Call σ ε)) :
    Survey σ ε :=
  calls.foldl step survey

/-- The last call of a run is taken after the others. -/
theorem run_concat
    (survey : Survey σ ε)
    (calls : List (Call σ ε))
    (call : Call σ ε) :
    survey.run (calls ++ [call]) = (survey.run calls).step call :=
  List.foldl_concat ..

/-- What is published by a call in the place that is sampled. -/
def publishing?
    (survey : Survey σ ε) :
    Call σ ε →
    Option Published
  | .ask call => survey.ensemble.publishesAt? survey.place call
  | .sample _ => none

/-- What is sampled by a call. -/
def sampled?
    (survey : Survey σ ε) :
    Call σ ε →
    Option Published
  | .ask _ => none
  | .sample _ => survey.shown?.map Publication.published

/-- What is given by the calls of a run, each asked of the survey that it finds. -/
def gathered
    (given? : Survey σ ε → Call σ ε → Option α) :
    Survey σ ε →
    List (Call σ ε) →
    List α
  | _, [] =>
      []
  | survey, call :: rest =>
      (given? survey call).toList ++ gathered given? (survey.step call) rest

/-- What the calls of two runs give, one after the other. -/
theorem gathered_append
    (given? : Survey σ ε → Call σ ε → Option α)
    (survey : Survey σ ε)
    (before later : List (Call σ ε)) :
    gathered given? survey (before ++ later) =
      gathered given? survey before ++
        gathered given? (survey.run before) later := by
  induction before generalizing survey with
  | nil =>
      rfl
  | cons call rest inductionHypothesis =>
      simp [gathered, inductionHypothesis, run]

/-- What a run gives with one more call. -/
theorem gathered_concat
    (given? : Survey σ ε → Call σ ε → Option α)
    (survey : Survey σ ε)
    (calls : List (Call σ ε))
    (call : Call σ ε) :
    gathered given? survey (calls ++ [call]) =
      gathered given? survey calls ++
        (given? (survey.run calls) call).toList := by
  simp [gathered_append, gathered]

/-- What is published in a run in the place that is sampled. -/
def publishings
    (survey : Survey σ ε) :
    List (Call σ ε) →
    List Published :=
  gathered publishing? survey

/-- What is sampled in a run, as often as it is sampled. -/
def samplings
    (survey : Survey σ ε) :
    List (Call σ ε) →
    List Published :=
  gathered sampled? survey

/-- What is published in a run is what its calls to the ensemble publish in that place. -/
theorem publishings_eq
    (survey : Survey σ ε)
    (calls : List (Call σ ε)) :
    survey.publishings calls =
      (survey.ensemble.publishes
        (calls.filterMap Call.asked?)).filterMap
          (Ensemble.inPlace? survey.place) := by
  induction calls generalizing survey with
  | nil =>
      rfl
  | cons call rest inductionHypothesis =>
      have later := inductionHypothesis (survey.step call)
      simp only [publishings, gathered] at later ⊢
      rw [later]
      cases call with
      | ask asked =>
          have isAsked : (Call.ask asked).asked? = some asked :=
            rfl
          rw [List.filterMap_cons_some isAsked]
          simp only [step, publishing?, Ensemble.publishesAt?,
            Ensemble.publishes, Ensemble.gathered, List.filterMap_append]
          cases survey.ensemble.publishes? asked with
          | none =>
              rfl
          | some entry =>
              cases shape : Ensemble.inPlace? survey.place entry <;>
                simp [shape]
      | sample times =>
          have isNotAsked :
              Call.asked? (.sample times : Call σ ε) = none :=
            rfl
          rw [List.filterMap_cons_none isNotAsked]
          simp only [step, publishing?, Option.toList_none, List.nil_append]
          split <;> rfl

/-- What readers see in turn: nothing at first, and then what is published. -/
def views
    (survey : Survey σ ε)
    (calls : List (Call σ ε)) :
    List Published :=
  {} :: survey.publishings calls

/-- One more call shows what it publishes to the readers. -/
theorem views_concat
    (survey : Survey σ ε)
    (calls : List (Call σ ε))
    (call : Call σ ε) :
    survey.views (calls ++ [call]) =
      survey.views calls ++
        ((survey.run calls).publishing? call).toList := by
  simp [views, publishings, gathered_concat]

/-- What readers see has pairwise different ticks, or none before all of them. -/
theorem pairwise_views
    (survey : Survey σ ε)
    (calls : List (Call σ ε)) :
    (survey.views calls).Pairwise fun earlier later =>
      earlier.refreshedAt ≠ later.refreshedAt := by
  obtain ⟨ticks, published, _⟩ :=
    survey.ensemble.refreshedAt_publishes (calls.filterMap Call.asked?)
  rw [views, publishings_eq]
  refine List.pairwise_cons.mpr ⟨?_, ?_⟩
  · intro view isView
    obtain ⟨entry, isEntry, inPlace⟩ := List.mem_filterMap.mp isView
    rw [Ensemble.inPlace?_eq_some_iff] at inPlace
    subst inPlace
    have ticked : view.refreshedAt ∈ ticks.map some :=
      published ▸ List.mem_map_of_mem isEntry
    obtain ⟨tick, _, isTick⟩ := List.mem_map.mp ticked
    rw [← isTick]
    exact Option.some_ne_none tick |>.symm
  · refine (survey.ensemble.pairwise_publishes _).filterMap _ ?_
    intro earlier later different first isFirst second isSecond
    rw [Ensemble.inPlace?_eq_some_iff] at isFirst isSecond
    subst isFirst isSecond
    exact different

/-- The values that snapshots give for a metric, with the ticks of the snapshots. -/
def entries
    (cluster : String)
    (key : SeriesKey)
    (views : List Published) :
    List (Option Int × Binary64) :=
  views.filterMap fun view =>
    (view.snapshot.value? cluster key).map fun value =>
      (view.refreshedAt, value)

/-- The values of some snapshots come before those of the ones after them. -/
theorem entries_append
    (cluster : String)
    (key : SeriesKey)
    (before later : List Published) :
    entries cluster key (before ++ later) =
      entries cluster key before ++ entries cluster key later :=
  List.filterMap_append

/-- One snapshot gives one value or none. -/
theorem entries_singleton
    (cluster : String)
    (key : SeriesKey)
    (view : Published) :
    entries cluster key [view] =
      ((view.snapshot.value? cluster key).map fun value =>
        (view.refreshedAt, value)).toList := by
  cases value : view.snapshot.value? cluster key <;>
    simp [entries, value]

/-- The values of entries are those that the snapshots give. -/
theorem map_snd_entries
    (cluster : String)
    (key : SeriesKey)
    (views : List Published) :
    (entries cluster key views).map Prod.snd =
      views.filterMap (·.snapshot.value? cluster key) := by
  rw [entries, List.map_filterMap]
  congr 1
  funext view
  cases view.snapshot.value? cluster key <;> rfl

/--
Sampling what is shown last counts its value just if it was not sampled before.

The ticks of the views differ, so the value that was counted last has the tick of the
last view only if it is of that view.
-/
theorem entries_sampledAlso
    {earlier : List Published}
    {current : Published}
    (different :
      ∀ view ∈ earlier, view.refreshedAt ≠ current.refreshedAt)
    (sampled : List Published)
    (cluster : String)
    (key : SeriesKey) :
    let before :=
      entries cluster key
        ((earlier ++ [current]).filter (· ∈ sampled))
    entries cluster key
        ((earlier ++ [current]).filter (· ∈ sampled ++ [current])) =
      ((current.snapshot.value? cluster key).map
        (Tracker.countedAlso before current.refreshedAt)).getD before := by
  intro before
  let ofEarlier :=
    entries cluster key (earlier.filter (· ∈ sampled))
  have sameEarlier :
      earlier.filter (· ∈ sampled ++ [current]) =
        earlier.filter (· ∈ sampled) := by
    refine List.filter_congr fun view member => ?_
    have isOther : view ≠ current :=
      fun same => different view member (congrArg _ same)
    simp [isOther]
  have after :
      entries cluster key
          ((earlier ++ [current]).filter (· ∈ sampled ++ [current])) =
        ofEarlier ++ entries cluster key [current] := by
    rw [List.filter_append, sameEarlier, entries_append]
    simp [ofEarlier]
  have isNew : ∀ entry ∈ ofEarlier, entry.1 ≠ current.refreshedAt := by
    intro entry member
    obtain ⟨view, isView, gives⟩ := List.mem_filterMap.mp member
    obtain ⟨value, _, rfl⟩ := Option.map_eq_some_iff.mp gives
    exact different view (List.mem_filter.mp isView).1
  rw [after, entries_singleton]
  by_cases again : current ∈ sampled
  · have counted : before = ofEarlier ++ entries cluster key [current] := by
      simp [before, ofEarlier, List.filter_append, entries_append, again]
    rw [counted, entries_singleton]
    cases current.snapshot.value? cluster key <;>
      simp [Tracker.countedAlso]
  · have counted : before = ofEarlier := by
      simp [before, ofEarlier, List.filter_append, again]
    rw [counted]
    cases current.snapshot.value? cluster key with
    | none =>
        simp
    | some value =>
        simp [Tracker.countedAlso_of_new isNew value]

/-- One call shows what it publishes. -/
theorem shown?_step
    {survey : Survey σ ε}
    {shown : Publication}
    (isShown : survey.shown? = some shown)
    (call : Call σ ε) :
    ∃ after,
      (survey.step call).shown? = some after ∧
        after.published =
          (survey.publishing? call).getD shown.published := by
  cases call with
  | ask asked =>
      exact Ensemble.getElem?_step isShown asked
  | sample times =>
      refine ⟨shown, ?_, rfl⟩
      simp only [step]
      split <;> exact isShown

/--
What a survey has come to after some calls: the last of the views is shown, and of those
that were sampled each value counts once.
-/
structure Keeps
    (start : Survey σ ε)
    (calls : List (Call σ ε)) :
    Prop where
  shows :
    ∃ shown earlier,
      (start.run calls).shown? = some shown ∧
        start.views calls = earlier ++ [shown.published]
  sampledViews : start.samplings calls ⊆ start.views calls
  cluster : (start.run calls).cluster = start.cluster
  capacity : (start.run calls).tracker.capacity = start.tracker.capacity
  counts :
    ∃ observed,
      ∀ key,
        (start.run calls).tracker.Tracks observed key ∧
          Tracker.counted key observed =
            entries start.cluster key
              ((start.views calls).filter (· ∈ start.samplings calls))

/-- At first nothing is shown and nothing was sampled. -/
theorem keeps_start
    {start : Survey σ ε}
    (isNew : start.shown?.map Publication.published = some {})
    {capacity : Int}
    (isUnused : start.tracker = { capacity := capacity }) :
    start.Keeps [] where
  shows := by
    obtain ⟨shown, isShown, published⟩ := Option.map_eq_some_iff.mp isNew
    exact ⟨shown, [], isShown, by rw [published]; rfl⟩
  sampledViews :=
    List.nil_subset _
  cluster :=
    rfl
  capacity :=
    rfl
  counts := by
    refine ⟨[], fun key => ⟨?_, ?_⟩⟩
    · rw [run, List.foldl_nil, isUnused]
      exact Tracker.tracks_start capacity key
    · simp [samplings, gathered, entries, Tracker.counted,
        Tracker.history, Sample.effective]

/--
Sampling what is shown does not break off, and counts those of its values that were not
counted before.
-/
theorem Keeps.sample
    {start : Survey σ ε}
    {calls : List (Call σ ε)}
    (keeps : start.Keeps calls)
    (hasRoom : 1 ≤ start.tracker.capacity)
    (countable : start.tracker.capacity ≤ Series.greatestCapacity)
    (measurable :
      ∀ view ∈ start.views calls, view.snapshot.IsMeasurable)
    (times : Nat → Int) :
    ((start.run calls).sampling? times).map Prod.snd = some (.ok ()) ∧
      start.Keeps (calls ++ [.sample times]) := by
  obtain ⟨shown, earlier, isShown, viewsShape⟩ := keeps.shows
  obtain ⟨before, counts⟩ := keeps.counts
  have different := start.pairwise_views calls
  rw [viewsShape, List.pairwise_append] at different
  have isView : shown.published ∈ start.views calls := by
    simp [viewsShape]
  obtain ⟨observed, gives, tracks⟩ :=
    Tracker.observeSnapshot_eq_run (fun key => (counts key).1)
      (by rwa [keeps.capacity]) (by rwa [keeps.capacity])
      (measurable shown.published isView) times start.cluster
      shown.published.refreshedAt
  have sampling :
      (start.run calls).sampling? times =
        some ((start.run calls).tracker.run observed, .ok ()) := by
    rw [sampling?, isShown, Option.map_some, keeps.cluster, ← gives]
    rfl
  have reached :
      start.run (calls ++ [.sample times]) =
        { start.run calls with
          tracker := (start.run calls).tracker.run observed } := by
    simp only [run_concat, step, sampling]
  have views :
      start.views (calls ++ [.sample times]) = start.views calls := by
    simp [views_concat, publishing?]
  have samplings :
      start.samplings (calls ++ [.sample times]) =
        start.samplings calls ++ [shown.published] := by
    simp [samplings, gathered_concat, sampled?, isShown]
  refine ⟨by rw [sampling]; rfl, ?_⟩
  refine
    ⟨⟨shown, earlier, by rw [reached]; exact isShown,
      views.trans viewsShape⟩, ?_, ?_, ?_, before ++ observed, ?_⟩
  · rw [views, samplings]
    exact List.append_subset.mpr
      ⟨keeps.sampledViews, by simpa using isView⟩
  · rw [reached]
    exact keeps.cluster
  · rw [reached, Tracker.capacity_run, keeps.capacity]
  · intro key
    rw [reached, views, samplings]
    refine ⟨(tracks key).1, ?_⟩
    rw [(tracks key).2, (counts key).2, viewsShape,
      entries_sampledAlso fun view member =>
        different.2.2 view member _ (List.mem_singleton_self _)]

/-- A call to the ensemble leaves what was sampled, also where it publishes. -/
theorem Keeps.ask
    {start : Survey σ ε}
    {calls : List (Call σ ε)}
    (keeps : start.Keeps calls)
    (asked : Ensemble.Call σ ε) :
    start.Keeps (calls ++ [.ask asked]) := by
  obtain ⟨shown, earlier, isShown, viewsShape⟩ := keeps.shows
  obtain ⟨after, isAfter, published⟩ := shown?_step isShown (.ask asked)
  have different := start.pairwise_views (calls ++ [.ask asked])
  rw [views_concat, List.pairwise_append] at different
  have samplings :
      start.samplings (calls ++ [.ask asked]) = start.samplings calls := by
    simp [samplings, gathered_concat, sampled?]
  -- What is published now has another tick than all that could be sampled.
  have unsampled :
      ((start.run calls).publishing? (.ask asked)).toList.filter
        (· ∈ start.samplings calls) = [] := by
    refine List.filter_eq_nil_iff.mpr fun view isNew => ?_
    rw [decide_eq_true_eq]
    intro isSampled
    exact different.2.2 view (keeps.sampledViews isSampled) view isNew rfl
  refine ⟨⟨after, ?_⟩, ?_, ?_, ?_, ?_⟩
  · rw [run_concat, views_concat]
    cases new : (start.run calls).publishing? (.ask asked) with
    | none =>
        rw [new] at published
        exact ⟨earlier, isAfter, by rw [published]; simpa using viewsShape⟩
    | some view =>
        rw [new] at published
        exact ⟨start.views calls, isAfter, by rw [published]; rfl⟩
  · rw [samplings, views_concat]
    exact List.Subset.trans keeps.sampledViews
      (List.subset_append_left _ _)
  · rw [run_concat]
    exact keeps.cluster
  · rw [run_concat]
    exact keeps.capacity
  · rw [run_concat, samplings, views_concat, List.filter_append, unsampled,
      List.append_nil]
    exact keeps.counts

/-- Whatever is asked of a survey, it keeps the values of the views that were sampled. -/
theorem keeps_run
    {start : Survey σ ε}
    (isNew : start.shown?.map Publication.published = some {})
    {capacity : Int}
    (isUnused : start.tracker = { capacity := capacity })
    (hasRoom : 1 ≤ capacity)
    (countable : capacity ≤ Series.greatestCapacity)
    (calls : List (Call σ ε))
    (measurable :
      ∀ view ∈ start.views calls, view.snapshot.IsMeasurable) :
    start.Keeps calls := by
  induction calls using List.reverseRecOn with
  | nil =>
      exact keeps_start isNew isUnused
  | append_singleton calls call inductionHypothesis =>
      rw [views_concat] at measurable
      have measurableBefore :
          ∀ view ∈ start.views calls, view.snapshot.IsMeasurable :=
        fun view member =>
          measurable view (List.mem_append_left _ member)
      have keeps := inductionHypothesis measurableBefore
      cases call with
      | ask asked =>
          exact keeps.ask asked
      | sample times =>
          exact
            (keeps.sample (by rwa [isUnused]) (by rwa [isUnused])
              measurableBefore times).2

/-- If nothing is sampled before the first publishing, the sampled views are publishings. -/
theorem filter_views
    {start : Survey σ ε}
    {calls : List (Call σ ε)}
    (afterPublishing : start.samplings calls ⊆ start.publishings calls) :
    (start.views calls).filter (· ∈ start.samplings calls) =
      (start.publishings calls).filter (· ∈ start.samplings calls) := by
  have unsampled : ({} : Published) ∉ start.samplings calls := by
    intro isSampled
    have different := List.pairwise_cons.mp (start.pairwise_views calls)
    exact different.1 {} (afterPublishing isSampled) rfl
  exact List.filter_cons_of_neg (by simpa using unsampled)

/--
Each published snapshot that is sampled adds one value to each of its series, however
often it is sampled and whatever else is asked meanwhile.

If nothing is sampled before the first publishing, a series shows the last of the values
after the zero it begins with. A snapshot has a value for the figures of the cluster and
for the percentages of its nodes, also where a node is gone and comes back later.
-/
theorem values_eq_published_and_sampled
    {capacity : Int}
    (hasRoom : 1 ≤ capacity)
    (countable : capacity ≤ Series.greatestCapacity)
    (settings : Refresh.ClockSettings)
    (interval now : Int)
    {clusters : List String}
    {place : Nat}
    (isPlace : place < clusters.length)
    (hearers : List (Hearer σ ε))
    (others : σ)
    (cluster : String)
    (calls : List (Call σ ε)) :
    let start : Survey σ ε :=
      { ensemble :=
          .start settings interval now clusters hearers others
        place := place
        cluster := cluster
        tracker := { capacity := capacity } }
    let publishings := start.publishings calls
    let samplings := start.samplings calls
    (∀ published ∈ publishings, published.snapshot.IsMeasurable) →
      samplings ⊆ publishings →
        (∀ before times later,
          calls = before ++ .sample times :: later →
            ((start.run before).sampling? times).map Prod.snd =
              some (.ok ())) ∧
          ∀ key,
            let values :=
              (publishings.filter (· ∈ samplings)).filterMap
                (·.snapshot.value? cluster key)
            (∀ published ∈ publishings,
              (published.snapshot.value? cluster key).isSome = true ↔
                published.snapshot.HasMetric cluster key) ∧
              (values ≠ [] →
                ((start.run calls).tracker.series? key).map
                    Series.values =
                  some (lastEntries capacity.toNat (.zero :: values))) := by
  intro start publishings samplings measurable afterPublishing
  have isNew : start.shown?.map Publication.published = some {} := by
    simp [shown?, start, Ensemble.start, isPlace]
  have keeps :
      ∀ before later,
        calls = before ++ later →
          (∀ view ∈ start.views before, view.snapshot.IsMeasurable) ∧
            start.Keeps before := by
    intro before later callsShape
    have measurableBefore :
        ∀ view ∈ start.views before, view.snapshot.IsMeasurable := by
      refine List.forall_mem_cons.mpr
        ⟨Snapshot.isMeasurable_empty, fun view member => ?_⟩
      refine measurable view ?_
      simp only [publishings, Survey.publishings, callsShape,
        gathered_append]
      exact List.mem_append_left _ member
    exact
      ⟨measurableBefore,
        keeps_run isNew rfl hasRoom countable before measurableBefore⟩
  refine ⟨?_, ?_⟩
  · intro before times later callsShape
    obtain ⟨measurableBefore, keepsBefore⟩ := keeps before _ callsShape
    exact
      (keepsBefore.sample hasRoom countable measurableBefore times).1
  · intro key values
    refine ⟨?_, ?_⟩
    · intro published isPublished
      exact
        Snapshot.isSome_value?_iff (measurable published isPublished)
          cluster key
    · intro someValue
      obtain ⟨_, keepsAll⟩ := keeps calls [] (List.append_nil calls).symm
      obtain ⟨observed, counts⟩ := keepsAll.counts
      obtain ⟨tracks, counted⟩ := counts key
      have countedValues :
          (Tracker.counted key observed).map Prod.snd = values := by
        rw [counted, filter_views afterPublishing, map_snd_entries]
      have someCounted : Tracker.counted key observed ≠ [] := by
        intro isEmpty
        rw [isEmpty] at countedValues
        exact someValue countedValues.symm
      rw [tracks.values someCounted, keepsAll.capacity, countedValues]

/-- A cluster that reports a node twice: once with half of its memory in use, then with all. -/
def nodeReportedTwice : Inventory :=
  { nodes :=
      [ { id := "a", name := "first", heapUsed := 50, heapMax := 100 },
        { id := "a", name := "second", heapUsed := 100, heapMax := 100 } ] }

/-- A node that is gone for a while, and is sampled twice before that, has a value each time. -/
theorem values_of_node_that_comes_back :
    let start : Survey Unit Unit :=
      { ensemble := .start {} 15000 0 ["logs"] [.publication 0] ()
        place := 0
        cluster := "logs"
        tracker := { capacity := 20 } }
    let calls : List (Call Unit Unit) :=
      [ .ask (.beginFetch 0),
        .ask (.succeed 0 1 100 nodeReportedTwice),
        .sample fun _ => 100,
        .sample fun _ => 105,
        .ask (.beginFetch 0),
        .ask (.succeed 0 2 90 {}),
        .sample fun _ => 90,
        .ask (.beginFetch 0),
        .ask (.succeed 0 3 200 nodeReportedTwice),
        .sample fun _ => 200 ]
    let half : Binary64 := .finite false (50 * Binary64.quantaPerUnit)
    ((start.run calls).tracker.series? ⟨"a", "heap_percent"⟩).map
        Series.values =
      some [.zero, half, half] := by
  intro start calls half
  have values :=
    ((values_eq_published_and_sampled (show (1 : Int) ≤ 20 by decide)
      (by decide) {} 15000 0 (show 0 < ["logs"].length by decide)
      [.publication 0] () "logs" calls (by decide +kernel)
      (by decide +kernel)).2 ⟨"a", "heap_percent"⟩).2
      (by decide +kernel)
  rw [values]
  decide +kernel

/-- A series with a greater capacity is refused, so nothing that is sampled is shown. -/
theorem no_values_beyond_greatestCapacity :
    ¬ ∀ (capacity : Int)
        (calls : List (Call Unit Unit))
        (key : SeriesKey),
        1 ≤ capacity →
          let start : Survey Unit Unit :=
            { ensemble := .start {} 15000 0 ["logs"] [.publication 0] ()
              place := 0
              cluster := "logs"
              tracker := { capacity := capacity } }
          let publishings := start.publishings calls
          let samplings := start.samplings calls
          let values :=
            (publishings.filter (· ∈ samplings)).filterMap
              (·.snapshot.value? "logs" key)
          (∀ published ∈ publishings, published.snapshot.IsMeasurable) →
            publishings = samplings →
              values ≠ [] →
                ((start.run calls).tracker.series? key).map
                    Series.values =
                  some
                    (lastEntries capacity.toNat (.zero :: values)) := by
  intro shown
  have refused :=
    shown 9223372036854775808
      [ .ask (.beginFetch 0),
        .ask (.succeed 0 1 100 {}),
        .sample fun _ => 100 ]
      ⟨"logs", "nodes"⟩ (by decide) (by decide +kernel)
      (by decide +kernel) (by decide +kernel)
  revert refused
  decide +kernel

end Survey

end ShardAtlas
