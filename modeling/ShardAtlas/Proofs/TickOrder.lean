import ShardAtlas.Proofs.Ensemble

namespace ShardAtlas.Ensemble

/-!
# The order of ticks

All ticks of an ensemble come from one clock, which keeps the last of them. A call
gives out at most one tick, and that is the next one after the last. So ticks ascend
over a whole run, however the times go that they are made from, and with them the
ticks at which the publications are published.
-/

/-- The tick of what is published is given out by the call that publishes it. -/
theorem stamp?_of_publishes?
    {ensemble : Ensemble σ ε}
    {call : Call σ ε}
    {place : Nat}
    {published : Published}
    (given : ensemble.publishes? call = some (place, published)) :
    ∃ stamp,
      ensemble.stamp? call = some stamp ∧
        published.refreshedAt = some stamp.tick := by
  cases call with
  | succeed at' token now inventory =>
      have shape := given
      rw [publishes?_succeed, Option.map_eq_some_iff] at shape
      obtain ⟨publication, _, same⟩ := shape
      cases same
      exact
        ⟨{ reading := now, tick := ensemble.clock.nextTick now },
          by simp [stamp?, given], rfl⟩
  | _ =>
      simp [publishes?] at given

/-- A tick that is given out is the next one of the clock. -/
theorem Effect.tick_eq
    {clock after : Refresh.Clock}
    {attempt : Option (Attempt ε)}
    {look : Option Int}
    {stamp : Stamp}
    (effect : Effect clock after attempt (some stamp) look) :
    stamp.tick = clock.nextTick stamp.reading := by
  cases effect <;> rfl

/-- The clock keeps the tick that is given out, and the last one if there is none. -/
theorem Effect.lastTick_eq
    {clock after : Refresh.Clock}
    {attempt : Option (Attempt ε)}
    {stamp : Option Stamp}
    {look : Option Int}
    (effect : Effect clock after attempt stamp look) :
    after.lastTick = (stamp.map Stamp.tick).or clock.lastTick := by
  cases effect with
  | looked now =>
      rw [Refresh.Clock.settled_eq]
      rfl
  | _ =>
      rfl

/-- The last tick after a run is the newest one that the run gave out, if any. -/
theorem lastTick_run
    (ensemble : Ensemble σ ε)
    (calls : List (Call σ ε)) :
    (ensemble.run calls).clock.lastTick =
      ((ensemble.stamps calls).map Stamp.tick).getLast?.or
        ensemble.clock.lastTick := by
  induction calls generalizing ensemble with
  | nil =>
      rfl
  | cons call rest inductionHypothesis =>
      have later := inductionHypothesis (ensemble.step call)
      rw [(ensemble.effect_step call).lastTick_eq] at later
      rw [run_cons, later, stamps, stamps, gathered, List.map_append,
        List.getLast?_append, Option.or_assoc]
      cases ensemble.stamp? call <;> rfl

/-- No tick of a run is before the time that it was made from. -/
theorem reading_le_tick
    (ensemble : Ensemble σ ε)
    (calls : List (Call σ ε)) :
    ∀ stamp ∈ ensemble.stamps calls, stamp.reading ≤ stamp.tick := by
  induction calls generalizing ensemble with
  | nil =>
      intro stamp member
      cases member
  | cons call rest inductionHypothesis =>
      intro stamp member
      rcases List.mem_append.mp member with now | later
      · rw [Option.mem_toList] at now
        have effect := ensemble.effect_step call
        rw [now] at effect
        rw [effect.tick_eq]
        exact ensemble.clock.le_nextTick stamp.reading
      · exact inductionHypothesis (ensemble.step call) stamp later

/-- The ticks of a run ascend, from the last tick before it on. -/
theorem pairwise_ticks
    (ensemble : Ensemble σ ε)
    (calls : List (Call σ ε)) :
    (ensemble.clock.lastTick.toList ++
      (ensemble.stamps calls).map Stamp.tick).Pairwise (· < ·) := by
  induction calls generalizing ensemble with
  | nil =>
      cases ensemble.clock.lastTick <;> simp [stamps, gathered]
  | cons call rest inductionHypothesis =>
      have later := inductionHypothesis (ensemble.step call)
      rw [(ensemble.effect_step call).lastTick_eq] at later
      have shape :
          ensemble.stamps (call :: rest) =
            (ensemble.stamp? call).toList ++
              (ensemble.step call).stamps rest :=
        rfl
      rw [shape]
      cases given : ensemble.stamp? call with
      | none =>
          rw [given] at later
          simpa using later
      | some stamp =>
          rw [given] at later
          cases known : ensemble.clock.lastTick with
          | none =>
              simpa using later
          | some last =>
              have effect := ensemble.effect_step call
              rw [given] at effect
              have above := ensemble.clock.lt_nextTick known stamp.reading
              rw [← effect.tick_eq] at above
              have ascending :
                  (stamp.tick ::
                    ((ensemble.step call).stamps rest).map
                      Stamp.tick).Pairwise (· < ·) := by
                simpa using later
              -- What is above the new tick is above the last one too.
              refine List.Pairwise.cons ?_ ascending
              intro tick member
              rcases List.mem_cons.mp member with isNew | isLater
              · rw [isNew]
                exact above
              · have grown :=
                  (List.pairwise_cons.mp ascending).1 tick isLater
                exact Int.lt_trans above grown

/-- Every publishing of a run has one of its ticks, in their order. -/
theorem refreshedAt_publishes
    (ensemble : Ensemble σ ε)
    (calls : List (Call σ ε)) :
    ∃ ticks : List Int,
      (ensemble.publishes calls).map (·.2.refreshedAt) = ticks.map some ∧
        ticks.Sublist ((ensemble.stamps calls).map Stamp.tick) := by
  induction calls generalizing ensemble with
  | nil =>
      exact ⟨[], rfl, List.nil_sublist _⟩
  | cons call rest inductionHypothesis =>
      obtain ⟨ticks, ofRest, within⟩ :=
        inductionHypothesis (ensemble.step call)
      have publishesShape :
          ensemble.publishes (call :: rest) =
            (ensemble.publishes? call).toList ++
              (ensemble.step call).publishes rest :=
        rfl
      have stampsShape :
          ensemble.stamps (call :: rest) =
            (ensemble.stamp? call).toList ++
              (ensemble.step call).stamps rest :=
        rfl
      rw [publishesShape, stampsShape, List.map_append, List.map_append,
        ofRest]
      cases given : ensemble.publishes? call with
      | none =>
          exact ⟨ticks, by simp,
            within.trans (List.sublist_append_right _ _)⟩
      | some entry =>
          obtain ⟨stamp, stamped, refreshedAt⟩ := stamp?_of_publishes? given
          refine ⟨stamp.tick :: ticks, ?_, ?_⟩
          · simp [refreshedAt]
          · rw [stamped]
            exact within.cons_cons stamp.tick

/-- What a call publishes is what readers then see, at the last tick of the clock. -/
theorem step_of_publishes?
    {ensemble : Ensemble σ ε}
    {call : Call σ ε}
    {place : Nat}
    {published : Published}
    (given : ensemble.publishes? call = some (place, published)) :
    (ensemble.step call).publications[place]?.map
          Publication.published = some published ∧
      published.refreshedAt = (ensemble.step call).clock.lastTick ∧
      published.refreshedAt.isSome = true := by
  obtain ⟨stamp, stamped, refreshedAt⟩ := stamp?_of_publishes? given
  refine ⟨?_, ?_, by rw [refreshedAt]; rfl⟩
  · cases call with
    | succeed at' token now inventory =>
        rw [publishes?_succeed, Option.map_eq_some_iff] at given
        obtain ⟨publication, found, same⟩ := given
        cases same
        obtain ⟨isThere, current⟩ := Option.filter_eq_some_iff.mp found
        have within : place < ensemble.publications.length :=
          (List.getElem?_eq_some_iff.mp isThere).1
        simp only [step, isThere, Publication.apply, publicationTick,
          current, if_true]
        rw [List.getElem?_set_self within]
        rfl
    | _ =>
        simp [publishes?] at given
  · rw [(ensemble.effect_step call).lastTick_eq, stamped, refreshedAt]
    rfl

/--
Ticks never repeat or go back, whatever is asked of an ensemble and however the times
go that are read.

No tick is before the time it is made from, and the clock keeps the newest one. A look
at the timer gives out a tick just if it fires. What is published has the newest tick
of that moment, so the ticks of all publications ascend in the order in which they are
published.
-/
theorem ticks_ascend_across_publications
    (settings : Refresh.ClockSettings)
    (interval now : Int)
    (clusters : List String)
    (hearers : List (Hearer σ ε))
    (others : σ)
    (calls : List (Call σ ε)) :
    let start := start settings interval now clusters hearers others
    let reached := start.run calls
    let stamps := start.stamps calls
    (stamps.map Stamp.tick).Pairwise (· < ·) ∧
      (∀ stamp ∈ stamps, stamp.reading ≤ stamp.tick) ∧
      reached.clock.lastTick = (stamps.map Stamp.tick).getLast? ∧
      (∀ looked due times,
        (reached.ticked looked due times).2.2 = .ok true ↔
          (reached.stamp? (.tick looked due times)).isSome = true) ∧
      (∀ call place published,
        reached.publishes? call = some (place, published) →
          (reached.step call).publications[place]?.map
                Publication.published = some published ∧
            published.refreshedAt = (reached.step call).clock.lastTick ∧
            published.refreshedAt.isSome = true) ∧
      ∃ ticks : List Int,
        (start.publishes calls).map (·.2.refreshedAt) = ticks.map some ∧
          ticks.Pairwise (· < ·) := by
  intro start reached stamps
  have unstamped : start.clock.lastTick = none :=
    rfl
  have ascending := start.pairwise_ticks calls
  rw [unstamped, Option.toList_none, List.nil_append] at ascending
  have newest := start.lastTick_run calls
  rw [unstamped, Option.or_none] at newest
  obtain ⟨ticks, published, within⟩ := start.refreshedAt_publishes calls
  exact
    ⟨ascending, start.reading_le_tick calls, newest,
      reached.ticked_eq_ok_true_iff,
      fun _ _ _ given => step_of_publishes? given,
      ticks, published, ascending.sublist within⟩

/-- Time that goes back does not take the ticks of two publications back. -/
theorem publishing_while_time_goes_back :
    let start : Ensemble Unit Unit :=
      start {} 15000 0 ["first", "second"] [.publication 0] ()
    let calls : List (Call Unit Unit) :=
      [ .beginFetch 1,
        .trigger .everything (.still 100),
        .beginFetch 0,
        .succeed 0 2 100 {} ]
    let later : Call Unit Unit := .succeed 1 1 50 {}
    start.stamps calls = [⟨100, 100⟩, ⟨100, 101⟩] ∧
      (100 : Int) ≤ 101 ∧
      ((start.run calls).step later).publications[1]?.map
          Publication.published =
        some
          { snapshot := .ofInventory {}
            refreshedAt := some 102 } ∧
      some 102 = ((start.run calls).step later).clock.lastTick := by
  intro start calls later
  obtain ⟨_, readings, _, _, publishing, _⟩ :=
    ticks_ascend_across_publications {} 15000 0 ["first", "second"]
      [.publication 0] () calls
  have published :=
    publishing later 1
      { snapshot := .ofInventory {}
        refreshedAt := some 102 }
      (by rfl)
  exact
    ⟨by decide, readings ⟨100, 101⟩ (by decide), published.1,
      published.2.1⟩

end ShardAtlas.Ensemble
