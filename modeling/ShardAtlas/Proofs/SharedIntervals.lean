import ShardAtlas.Refresh.Remembered

namespace ShardAtlas

/-!
# Clocks that share preferences

Clocks may keep their intervals under one key of the same preferences. What is there is
the newest interval on offer that any of them has accepted, so a clock that starts later
takes that one up. Intervals that are not on offer leave no trace among the preferences:
they are known only to the clock that accepted them.
-/

namespace Preferences

/-- Preferences that can be used take every text, under its key only. -/
theorem exists_set_eq_ok
    {preferences : Preferences}
    (usable : preferences.opened = .ok ())
    (key text : String) :
    ∃ changed,
      preferences.set key (some text) = .ok changed ∧
        changed.opened = .ok () ∧
        ∀ other,
          changed.get other =
            if other = key then .ok (some text) else preferences.get other := by
  cases preferences with
  | memory values =>
      refine ⟨.memory (values.insert key (some text)), rfl, rfl, ?_⟩
      intro other
      simp only [get, OrderedMap.get?_insert]
      split <;> rfl
  | database values =>
      refine ⟨.database (values.insert key text), rfl, rfl, ?_⟩
      intro other
      simp only [get, OrderedMap.get?_insert]
      split <;> rfl
  | broken defect =>
      cases usable

end Preferences

namespace Refresh

/-- The interval on offer that preferences have under a key. -/
def offeredUnder?
    (preferences : Preferences)
    (key : String) :
    Option Int :=
  ((preferences.get key).toOption.join.bind readRemembered?).filter
    isOffered

/-- An interval on offer is read again from its text. -/
theorem readRemembered?_integer
    {interval : Int}
    (offered : isOffered interval = true) :
    readRemembered? (Text.integer interval) = some interval := by
  have eachChoice :
      ∀ choice ∈ choices,
        readRemembered? (Text.integer choice.interval) =
          some choice.interval := by
    decide
  obtain ⟨choice, member, same⟩ := List.any_eq_true.mp offered
  rw [← eq_of_beq same]
  exact eachChoice choice member

/-- What remembering an interval leaves among preferences that can be used. -/
theorem exists_remember_eq_some
    {preferences : Preferences}
    (usable : preferences.opened = .ok ())
    (settings : ClockSettings)
    (interval : Int) :
    ∃ changed,
      (remember .ofPreferences settings (some preferences) interval).1 =
          some changed ∧
        changed.opened = .ok () ∧
        offeredUnder? changed settings.preferenceKey =
          (if isOffered interval then
            some interval
          else
            offeredUnder? preferences settings.preferenceKey) ∧
        ∀ other, other ≠ settings.preferenceKey →
          changed.get other = preferences.get other := by
  cases offered : isOffered interval with
  | false =>
      exact
        ⟨preferences, by simp [remember, offered], usable, rfl,
          fun _ _ => rfl⟩
  | true =>
      obtain ⟨changed, written, usableNext, found⟩ :=
        Preferences.exists_set_eq_ok usable settings.preferenceKey
          (Text.integer interval)
      refine ⟨changed, ?_, usableNext, ?_, ?_⟩
      · simp [remember, offered, Keeper.ofPreferences, written]
      · simp [offeredUnder?, found, Except.toOption,
          readRemembered?_integer offered, offered]
      · intro other different
        rw [found, if_neg different]

end Refresh

/-- Clocks that keep their intervals under one key of the same preferences. -/
structure ClockGroup where
  key : String
  preferences : Preferences
  clocks : List Refresh.Clock := []
  deriving Repr, DecidableEq

namespace ClockGroup

/--
What is asked of a group: to start one more clock, or to set the interval of one.

An interval is asked for by a JSON value. Kinds of integers that print themselves in a way of
their own are none, and are left out.
-/
inductive Call
  | start
      (settings : Refresh.ClockSettings)
      (now : Int)
  | setInterval
      (place : Nat)
      (value : Json)
      (now : Int)

/-- The clock that a group starts with some settings, under the key of the group. -/
def nextClock
    (group : ClockGroup)
    (settings : Refresh.ClockSettings)
    (now : Int) :
    Refresh.Clock :=
  (Refresh.Clock.recalled
    { settings with preferenceKey := group.key }
    (some group.preferences) now).1

/-- Take one call; nothing can be set where there is no clock. -/
def step
    (group : ClockGroup) :
    Call →
    ClockGroup
  | .start settings now =>
      { group with
        clocks := group.clocks ++ [group.nextClock settings now] }
  | .setInterval place value now =>
      match group.clocks[place]? with
      | none =>
          group
      | some clock =>
          match
            clock.choose .ofPreferences (some group.preferences) value now
          with
          | .error _ =>
              group
          | .ok (changed, preferences, _) =>
              { group with
                preferences := preferences.getD group.preferences
                clocks := group.clocks.set place changed }

/-- Take calls in turn. -/
def run
    (group : ClockGroup)
    (calls : List Call) :
    ClockGroup :=
  calls.foldl step group

/--
The interval that a call sets, with the place of the clock: a whole number that is not
negative, set where there is a clock.
-/
def accepted?
    (group : ClockGroup) :
    Call →
    Option (Nat × Int)
  | .setInterval place (.integer interval) _ =>
      if place < group.clocks.length ∧ 0 ≤ interval then
        some (place, interval)
      else
        none
  | _ =>
      none

/-- The intervals that a run sets, each with the place of its clock. -/
def accepted :
    ClockGroup →
    List Call →
    List (Nat × Int)
  | _, [] =>
      []
  | group, call :: rest =>
      (group.accepted? call).toList ++ (group.step call).accepted rest

/-- The intervals on offer that some clocks accepted. -/
def offeredAmong
    (accepted : List (Nat × Int)) :
    List Int :=
  (accepted.map Prod.snd).filter Refresh.isOffered

/-- A group with preferences that can be used, whose clocks all keep to its key. -/
structure WellFormed
    (group : ClockGroup) :
    Prop where
  usable : group.preferences.opened = .ok ()
  keyed :
    ∀ clock ∈ group.clocks, clock.settings.preferenceKey = group.key

/-- A clock refuses a value just if the call sets no interval. -/
theorem choose_eq_error_iff
    {group : ClockGroup}
    {place : Nat}
    {clock : Refresh.Clock}
    (there : group.clocks[place]? = some clock)
    (value : Json)
    (now : Int) :
    (∃ fault,
      clock.choose .ofPreferences (some group.preferences) value now =
        .error fault) ↔
      group.accepted? (.setInterval place value now) = none := by
  have isPlace : place < group.clocks.length :=
    (List.getElem?_eq_some_iff.mp there).1
  cases checked : Refresh.checkInterval value with
  | ok interval =>
      obtain ⟨rfl, notNegative⟩ :=
        Refresh.checkInterval_eq_ok_iff.mp checked
      simp [Refresh.Clock.choose, checked, Except.map, accepted?, isPlace,
        notNegative]
  | error fault =>
      have refused :
          ∀ interval, value = .integer interval → ¬0 ≤ interval := by
        intro interval same notNegative
        have taken :=
          Refresh.checkInterval_eq_ok_iff.mpr ⟨same, notNegative⟩
        rw [checked] at taken
        cases taken
      constructor
      · intro
        cases value with
        | integer interval =>
            simp [accepted?, refused interval rfl]
        | _ =>
            rfl
      · intro
        exact
          ⟨fault, by simp only [Refresh.Clock.choose, checked, Except.map]⟩

/-- A call that sets no interval leaves preferences and clocks as they are. -/
theorem step_of_not_accepted
    {group : ClockGroup}
    {place : Nat}
    {value : Json}
    {now : Int}
    (refused : group.accepted? (.setInterval place value now) = none) :
    group.step (.setInterval place value now) = group := by
  simp only [step]
  cases there : group.clocks[place]? with
  | none =>
      rfl
  | some clock =>
      obtain ⟨fault, failed⟩ := (choose_eq_error_iff there value now).mpr refused
      simp only [failed]

/-- What a call leaves that sets the interval of a clock. -/
theorem step_of_accepted
    {group : ClockGroup}
    {call : Call}
    {place : Nat}
    {interval : Int}
    (accepted : group.accepted? call = some (place, interval)) :
    ∃ clock now,
      group.clocks[place]? = some clock ∧
        group.step call =
          { group with
            preferences :=
              ((Refresh.remember .ofPreferences clock.settings
                (some group.preferences) interval).1).getD
                  group.preferences
            clocks :=
              group.clocks.set place (clock.withInterval interval now) } := by
  unfold accepted? at accepted
  split at accepted
  · next at' chosen now =>
      split at accepted
      · next valid =>
          cases accepted
          obtain ⟨isPlace, notNegative⟩ := valid
          refine ⟨group.clocks[place], now, by simp [isPlace], ?_⟩
          have checked :
              Refresh.checkInterval (.integer interval) = .ok interval :=
            Refresh.checkInterval_eq_ok_iff.mpr ⟨rfl, notNegative⟩
          simp only [step, isPlace, List.getElem?_eq_getElem,
            Refresh.Clock.choose, checked, Except.map]
      · cases accepted
  · cases accepted

/-- A call that sets no interval starts a clock or changes nothing. -/
theorem step_of_accepted_eq_none
    {group : ClockGroup}
    {call : Call}
    (refused : group.accepted? call = none) :
    (∃ settings now,
      group.step call =
        { group with
          clocks := group.clocks ++ [group.nextClock settings now] }) ∨
      group.step call = group := by
  cases call with
  | start settings now =>
      exact .inl ⟨settings, now, rfl⟩
  | setInterval place value now =>
      exact .inr (step_of_not_accepted refused)

/--
A call keeps a group well-formed and changes nothing but the text under its key, which
comes to stand for the interval that is set if that is on offer.
-/
theorem WellFormed.step
    {group : ClockGroup}
    (wellFormed : group.WellFormed)
    (call : Call) :
    let after := group.step call
    after.key = group.key ∧
      after.WellFormed ∧
      Refresh.offeredUnder? after.preferences group.key =
        (offeredAmong (group.accepted? call).toList).getLast?.or
          (Refresh.offeredUnder? group.preferences group.key) ∧
      ∀ other, other ≠ group.key →
        after.preferences.get other = group.preferences.get other := by
  intro after
  cases accepted : group.accepted? call with
  | none =>
      rcases step_of_accepted_eq_none accepted with
        ⟨settings, now, started⟩ | same
      · have shape : after = _ := started
        rw [shape]
        refine ⟨rfl, ⟨wellFormed.usable, ?_⟩, rfl, fun _ _ => rfl⟩
        intro clock member
        rcases List.mem_append.mp member with isOld | isNew
        · exact wellFormed.keyed clock isOld
        · rw [List.mem_singleton.mp isNew]
          rfl
      · have shape : after = _ := same
        rw [shape]
        exact ⟨rfl, wellFormed, rfl, fun _ _ => rfl⟩
  | some entry =>
      rcases entry with ⟨place, interval⟩
      obtain ⟨clock, now, there, stepped⟩ := step_of_accepted accepted
      have keyed :=
        wellFormed.keyed clock (List.mem_of_getElem? there)
      obtain ⟨changed, remembered, usable, offered, others⟩ :=
        Refresh.exists_remember_eq_some wellFormed.usable clock.settings
          interval
      rw [keyed] at offered others
      have shape : after = _ := stepped
      rw [remembered, Option.getD_some] at shape
      rw [shape]
      refine ⟨rfl, ⟨usable, ?_⟩, ?_, others⟩
      · intro found member
        rcases List.mem_or_eq_of_mem_set member with isOld | rfl
        · exact wellFormed.keyed found isOld
        · exact keyed
      · show Refresh.offeredUnder? changed group.key = _
        rw [offered]
        cases isOffered : Refresh.isOffered interval <;>
          simp [offeredAmong, isOffered]

/--
A run changes nothing but the text under the key of a group, which stands for the newest
interval on offer that was set, if there is one.
-/
theorem WellFormed.run
    {group : ClockGroup}
    (wellFormed : group.WellFormed)
    (calls : List Call) :
    let reached := group.run calls
    reached.key = group.key ∧
      Refresh.offeredUnder? reached.preferences group.key =
        (offeredAmong (group.accepted calls)).getLast?.or
          (Refresh.offeredUnder? group.preferences group.key) ∧
      ∀ other, other ≠ group.key →
        reached.preferences.get other = group.preferences.get other := by
  induction calls generalizing group with
  | nil =>
      exact ⟨rfl, rfl, fun _ _ => rfl⟩
  | cons call rest inductionHypothesis =>
      obtain ⟨key, next, offered, others⟩ := wellFormed.step call
      obtain ⟨keyLater, offeredLater, othersLater⟩ :=
        inductionHypothesis next
      rw [key] at keyLater offeredLater othersLater
      refine ⟨keyLater, ?_, ?_⟩
      · have split :
            offeredAmong (group.accepted (call :: rest)) =
              offeredAmong (group.accepted? call).toList ++
                offeredAmong ((group.step call).accepted rest) := by
          simp [offeredAmong, accepted]
        rw [split, List.getLast?_append, Option.or_assoc, ← offered]
        exact offeredLater
      · intro other different
        exact (othersLater other different).trans (others other different)

end ClockGroup

end ShardAtlas
