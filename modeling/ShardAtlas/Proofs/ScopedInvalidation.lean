import Mathlib.Logic.Function.Iterate
import ShardAtlas.Proofs.Ensemble
import ShardAtlas.Proofs.Supersession

namespace ShardAtlas

/-!
# Refreshes of some clusters

A refresh is asked for every cluster, for a single one, or for those of a list. A
publication that hears of it is invalidated if its cluster is among them, once for
each time that it hears. All the rest stays as it is: the other publications, and
what is published of any cluster.

What becomes of a publication depends on nothing but its own calls, so the histories
of the publications are taken apart here, each with the times and clocks of its calls.
-/

/-- Whether a refresh is asked for a cluster. -/
def Refresh.Request.Means
    (request : Request)
    (cluster : String) :
    Prop :=
  match request with
  | .everything => True
  | .cluster name => cluster = name
  | .clusters names => cluster ∈ names

/-- A refresh is announced for just the clusters that it is asked for. -/
theorem Refresh.Request.covers_scope_iff
    (request : Request)
    (cluster : String) :
    request.scope.covers cluster = true ↔ request.Means cluster := by
  cases request <;> simp [scope, Scope.covers, Means]

namespace Publication

/-- Each time a publication is invalidated, it gets a new generation and is stale. -/
theorem iterate_invalidate
    (publication : Publication)
    (scope : Refresh.Scope)
    (times : Nat) :
    (·.invalidate scope)^[times] publication =
      if scope.covers publication.cluster then
        { publication with
          generation := publication.generation + times
          stale := publication.stale || decide (0 < times) }
      else
        publication := by
  induction times with
  | zero =>
      simp
  | succ times inductionHypothesis =>
      rw [Function.iterate_succ_apply', inductionHypothesis]
      cases covered : scope.covers publication.cluster with
      | false =>
          simp [invalidate, covered]
      | true =>
          simp [invalidate, covered, Int.add_assoc]

/-- Invalidating a publication leaves what is published as it is. -/
theorem published_iterate_invalidate
    (publication : Publication)
    (scope : Refresh.Scope)
    (times : Nat) :
    ((·.invalidate scope)^[times] publication).published =
      publication.published := by
  rw [iterate_invalidate]
  split <;> rfl

namespace Session

/-- No run changes the cluster. -/
theorem cluster_run
    (session : Session)
    (calls : List Call) :
    (session.run calls).publication.cluster =
      session.publication.cluster := by
  induction calls generalizing session with
  | nil =>
      rfl
  | cons call rest inductionHypothesis =>
      rw [run_cons, inductionHypothesis, cluster_step]

/-- A token of an earlier generation stays superseded, whatever calls follow. -/
theorem isSuperseded_run
    {session : Session}
    {token : Int}
    (older : token < session.publication.generation)
    (calls : List Call) :
    (session.run calls).publication.IsSuperseded token := by
  apply isSuperseded_of_ne
  rw [generation_run]
  omega

end Session

end Publication

namespace Ensemble

/-- A publication is invalidated once for each time that it hears of a refresh. -/
theorem getElem?_announceAll
    (scope : Refresh.Scope)
    (hearers : List (Hearer σ ε))
    (publications : List Publication)
    (others : σ)
    (place : Nat) :
    let announced :=
      Refresh.announceAll scope (hearers.map Hearer.announce)
        (publications, others)
    ∃ times,
      announced.1.1[place]? =
          publications[place]?.map (·.invalidate scope)^[times] ∧
        (Hearer.publication place ∉ hearers → times = 0) ∧
        (announced.2 = .ok () →
          Hearer.publication place ∈ hearers → 0 < times) := by
  induction hearers generalizing publications others with
  | nil =>
      exact ⟨0, by simp [Refresh.announceAll], by simp, by simp⟩
  | cons hearer rest inductionHypothesis =>
      cases hearer with
      | publication heard =>
          obtain ⟨times, shape, unheard, told⟩ :=
            inductionHypothesis
              (publications.modify heard (·.invalidate scope)) others
          simp only [List.map_cons, Refresh.announceAll, Hearer.announce]
          by_cases same : heard = place
          · refine ⟨times + 1, ?_, by simp [same], by simp⟩
            rw [shape, List.getElem?_modify]
            cases publications[place]? <;> simp [same]
          · refine ⟨times, ?_, ?_, ?_⟩
            · rw [shape, List.getElem?_modify]
              simp [same]
            · intro absent
              exact unheard fun member =>
                absent (List.mem_cons_of_mem _ member)
            · intro succeeded member
              rcases List.mem_cons.mp member with isFirst | isLater
              · cases isFirst
                exact absurd rfl same
              · exact told succeeded isLater
      | other announce =>
          simp only [List.map_cons, Refresh.announceAll, Hearer.announce]
          rcases heard : announce scope others with ⟨after, outcome⟩
          cases outcome with
          -- Whoever comes after a hearer that fails is not told.
          | error cause =>
              exact ⟨0, by simp, by simp, by simp⟩
          | ok done =>
              obtain ⟨times, shape, unheard, told⟩ :=
                inductionHypothesis publications after
              refine ⟨times, shape, ?_, ?_⟩
              · intro absent
                exact unheard fun member =>
                  absent (List.mem_cons_of_mem _ member)
              · intro succeeded member
                rcases List.mem_cons.mp member with isFirst | isLater
                · cases isFirst
                · exact told succeeded isLater

end Ensemble

namespace Publication.Session

/--
A refresh invalidates just the publications that hear of it and whose cluster it is
asked for.

Whatever calls were made before, no result of a fetch that was begun until then counts
any more. Every other publication is as it was before, also where a hearer fails, and
what is published is the same for all of them.
-/
theorem refresh_supersedes_within_scope
    (clock : Refresh.Clock)
    (times : Refresh.RefreshTimes)
    (request : Refresh.Request)
    (hearers : List (Hearer σ ε))
    (histories : List (String × List Call))
    (others : σ) :
    let sessions :=
      histories.map fun (cluster, calls) => (start cluster).run calls
    let caches := hearers.map Hearer.announce
    let state := (sessions.map Session.publication, others)
    let refreshed := clock.trigger times request.scope caches state
    let heard :=
      (Refresh.announceAll request.scope caches state).2 = .ok ()
    (heard → refreshed.2.2 = .ok (clock.nextTick times.told)) ∧
      ∀ place cluster calls,
        histories[place]? = some (cluster, calls) →
          let session := (start cluster).run calls
          ∃ after,
            refreshed.2.1.1[place]? = some after ∧
              after.published = session.publication.published ∧
              (¬ (Hearer.publication place ∈ hearers ∧
                  request.Means cluster) →
                after = session.publication) ∧
              (heard →
                Hearer.publication place ∈ hearers →
                  request.Means cluster →
                    after.stale = true ∧
                      ∀ token ∈ session.tokens,
                        ∀ later,
                          (({ session with publication := after } :
                            Session).run later).publication.IsSuperseded
                              token) := by
  intro sessions caches state refreshed heard
  refine ⟨clock.trigger_of_told times, ?_⟩
  intro place cluster calls found session
  have isThere :
      (sessions.map Session.publication)[place]? =
        some session.publication := by
    simp [sessions, found, session]
  have ofCluster : session.publication.cluster = cluster :=
    cluster_run (start cluster) calls
  obtain ⟨count, shape, unheard, told⟩ :=
    Ensemble.getElem?_announceAll request.scope hearers
      (sessions.map Session.publication) others place
  rw [isThere, Option.map_some] at shape
  have covers := request.covers_scope_iff cluster
  rw [← ofCluster] at covers
  refine ⟨(·.invalidate request.scope)^[count] session.publication, ?_,
    published_iterate_invalidate _ _ _, ?_, ?_⟩
  · rw [← shape, ← Refresh.Clock.told_trigger clock times]
  · intro outside
    rw [iterate_invalidate]
    split
    · next covered =>
        have absent : Hearer.publication place ∉ hearers :=
          fun member => outside ⟨member, ofCluster ▸ covers.mp covered⟩
        simp [unheard absent]
    · rfl
  · intro succeeded member means
    have invalidated : 0 < count :=
      told succeeded member
    have covered : request.scope.covers session.publication.cluster = true :=
      covers.mpr (ofCluster.symm ▸ means)
    rw [iterate_invalidate, if_pos covered]
    refine ⟨by simp [invalidated], ?_⟩
    intro token handedOut later
    have ascending : session.Ascending :=
      (ascending_start cluster).run calls
    have bound := ascending.bounded token handedOut
    apply isSuperseded_run
    simp only
    omega

/-- A refresh of one cluster stops its fetch for good, and not the fetch of another cluster. -/
theorem refresh_of_one_cluster_while_fetching :
    let fetching : List Call := [.beginFetch]
    let logs := (start "logs").run fetching
    let metrics := (start "metrics").run fetching
    let refreshed : Refresh.Clock × (List Publication × Unit) ×
        Except Unit Int :=
      Refresh.Clock.trigger (.started {} 15000 0) (.still 100)
        (Refresh.Request.cluster "logs").scope
        ([.publication 0, .publication 1].map Hearer.announce)
        ([logs.publication, metrics.publication], ())
    refreshed.2.2 = .ok 100 ∧
      (∃ after,
        refreshed.2.1.1[0]? = some after ∧
          after.stale = true ∧
          ∀ later,
            (({ logs with publication := after } :
              Session).run later).publication.IsSuperseded 1) ∧
      refreshed.2.1.1[1]? = some metrics.publication := by
  intro fetching logs metrics refreshed
  obtain ⟨ticked, places⟩ :=
    refresh_supersedes_within_scope (.started {} 15000 0) (.still 100)
      (.cluster "logs")
      ([.publication 0, .publication 1] : List (Hearer Unit Unit))
      [("logs", fetching), ("metrics", fetching)] ()
  obtain ⟨after, isFirst, _, _, superseded⟩ :=
    places 0 "logs" fetching rfl
  obtain ⟨other, isSecond, _, kept, _⟩ :=
    places 1 "metrics" fetching rfl
  obtain ⟨stale, forGood⟩ :=
    superseded rfl (by simp) rfl
  have notMeant :
      ¬ (Refresh.Request.cluster "logs").Means "metrics" := by
    simp [Refresh.Request.Means]
  refine ⟨ticked rfl, ⟨after, isFirst, stale, ?_⟩, ?_⟩
  · exact forGood 1 (by decide)
  · rw [← kept fun both => notMeant both.2]
    exact isSecond

end Publication.Session

end ShardAtlas
