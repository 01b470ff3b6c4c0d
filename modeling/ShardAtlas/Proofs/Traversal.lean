import Mathlib.Data.List.Forall2

namespace ShardAtlas

/-!
# Going through lists

A list is gone through for the first item that is meant, or with a computation for each entry,
of which the first that fails ends it. What comes of it can be told without the way: by the
items alone where one at most is meant, entry by entry where all computations succeed, and as
one list where lists are gone through one inside the other.
-/

/-- What is meant of one item at most is found in any order of the items. -/
theorem find?_eq_of_perm
    {first second : List α}
    {isMeant : α → Bool}
    (same : first.Perm second)
    (single :
      ∀ item ∈ first, ∀ other ∈ first,
        isMeant item = true → isMeant other = true → item = other) :
    first.find? isMeant = second.find? isMeant := by
  cases found : first.find? isMeant with
  | none =>
      symm
      rw [List.find?_eq_none] at found ⊢
      intro item member
      exact found item (same.mem_iff.mpr member)
  | some item =>
      have member := List.mem_of_find?_eq_some found
      have meant := List.find?_some found
      obtain ⟨other, foundOther⟩ :
          ∃ other, second.find? isMeant = some other := by
        rw [← Option.isSome_iff_exists, List.find?_isSome]
        exact ⟨item, same.mem_iff.mp member, meant⟩
      have otherMember :=
        same.mem_iff.mpr (List.mem_of_find?_eq_some foundOther)
      rw [foundOther,
        single item member other otherMember meant
          (List.find?_some foundOther)]

/-- A computation that succeeds has a result. -/
theorem exists_eq_ok
    {outcome : Except ε α}
    (isOk : outcome.isOk = true) :
    ∃ result, outcome = .ok result := by
  cases outcome with
  | ok result =>
      exact ⟨result, rfl⟩
  | error cause =>
      cases isOk

/-- A computation succeeds just if there is no cause that it fails with. -/
theorem isOk_iff_ne_error
    {outcome : Except ε α} :
    outcome.isOk = true ↔ ∀ cause, outcome ≠ .error cause := by
  cases outcome with
  | ok result =>
      exact iff_of_true rfl fun _ => nofun
  | error cause =>
      exact iff_of_false nofun fun never => never cause rfl

/-- What follows from a result does not make a computation fail. -/
theorem isOk_map
    (change : α → β)
    (outcome : Except ε α) :
    (outcome.map change).isOk = outcome.isOk := by
  cases outcome <;> rfl

/-- Another name for its cause does not make a computation succeed. -/
theorem isOk_mapError
    (change : ε → δ)
    (outcome : Except ε α) :
    (outcome.mapError change).isOk = outcome.isOk := by
  cases outcome <;> rfl

/-- A computation whose cause gets another name succeeds with what it succeeded with. -/
theorem mapError_eq_ok_iff
    {change : ε → δ}
    {outcome : Except ε α}
    {result : α} :
    outcome.mapError change = .ok result ↔ outcome = .ok result := by
  cases outcome with
  | error cause =>
      exact iff_of_false nofun nofun
  | ok value =>
      constructor <;>
        · rintro ⟨⟩
          rfl

/-- A computation whose cause gets another name fails just for a cause with that name. -/
theorem mapError_eq_error_iff
    {change : ε → δ}
    {outcome : Except ε α}
    {fault : δ} :
    outcome.mapError change = .error fault ↔
      ∃ cause, fault = change cause ∧ outcome = .error cause := by
  cases outcome with
  | error found =>
      constructor
      · rintro ⟨⟩
        exact ⟨found, rfl, rfl⟩
      · rintro ⟨_, rfl, ⟨⟩⟩
        rfl
  | ok value =>
      exact iff_of_false nofun fun ⟨_, _, fails⟩ => nomatch fails

/-- Where a further computation does not depend on the result, both have to succeed. -/
theorem isOk_bind_iff
    {outcome : Except ε α}
    {next : α → Except ε β}
    {succeeds : Prop}
    (further : ∀ value, (next value).isOk = true ↔ succeeds) :
    (outcome >>= next).isOk = true ↔
      outcome.isOk = true ∧ succeeds := by
  cases outcome with
  | error cause =>
      exact iff_of_false nofun fun both => nomatch both.1
  | ok value =>
      exact (further value).trans (and_iff_right rfl).symm

/-- A computation and a further one on its result succeed just if both do. -/
theorem bind_eq_ok_iff
    {outcome : Except ε α}
    {next : α → Except ε β}
    {result : β} :
    outcome >>= next = .ok result ↔
      ∃ value, outcome = .ok value ∧ next value = .ok result := by
  cases outcome with
  | error cause =>
      exact iff_of_false nofun fun ⟨_, succeeds, _⟩ => nomatch succeeds
  | ok value =>
      constructor
      · intro succeeds
        exact ⟨value, rfl, succeeds⟩
      · rintro ⟨_, ⟨⟩, succeeds⟩
        exact succeeds

/-- A computation and a further one on its result fail just if the one or the other does. -/
theorem bind_eq_error_iff
    {outcome : Except ε α}
    {next : α → Except ε β}
    {cause : ε} :
    outcome >>= next = .error cause ↔
      outcome = .error cause ∨
        ∃ value, outcome = .ok value ∧ next value = .error cause := by
  cases outcome with
  | error found =>
      constructor
      · rintro ⟨⟩
        exact .inl rfl
      · rintro (⟨⟨⟩⟩ | ⟨_, ⟨⟩, _⟩)
        rfl
  | ok value =>
      constructor
      · intro fails
        exact .inr ⟨value, rfl, fails⟩
      · rintro (⟨⟨⟩⟩ | ⟨_, ⟨⟩, fails⟩)
        exact fails

/-- Computations in turn succeed with some results just if each succeeds with its own. -/
theorem mapM_eq_ok_iff
    {compute : α → Except ε β}
    {entries : List α}
    {results : List β} :
    entries.mapM compute = .ok results ↔
      List.Forall₂
        (fun entry result => compute entry = .ok result)
        entries results := by
  induction entries generalizing results with
  | nil =>
      rw [List.mapM_nil, List.forall₂_nil_left_iff]
      exact ⟨fun same => (Except.ok.inj same).symm, fun same => same ▸ rfl⟩
  | cons entry rest inductionHypothesis =>
      rw [List.mapM_cons, List.forall₂_cons_left_iff]
      cases first : compute entry with
      | error cause =>
          exact iff_of_false nofun (by simp)
      | ok result =>
          cases later : rest.mapM compute with
          | error cause =>
              refine iff_of_false nofun ?_
              rintro ⟨_, others, _, succeed, _⟩
              rw [← inductionHypothesis, later] at succeed
              cases succeed
          | ok others =>
              constructor
              · rintro ⟨⟩
                exact
                  ⟨result, others, rfl, inductionHypothesis.mp later, rfl⟩
              · rintro ⟨_, _, ⟨⟩, succeed, rfl⟩
                rw [← inductionHypothesis, later] at succeed
                cases succeed
                rfl

/-- Computations in turn succeed just if each of them does. -/
theorem isOk_mapM_iff
    (compute : α → Except ε β)
    (entries : List α) :
    (entries.mapM compute).isOk = true ↔
      ∀ entry ∈ entries, (compute entry).isOk = true := by
  induction entries with
  | nil =>
      exact iff_of_true rfl (by simp)
  | cons entry rest inductionHypothesis =>
      rw [List.mapM_cons, List.forall_mem_cons, ← inductionHypothesis]
      cases compute entry with
      | error cause =>
          exact iff_of_false nofun fun both => nomatch both.1
      | ok result =>
          cases rest.mapM compute with
          | error cause =>
              exact iff_of_false nofun fun both => nomatch both.2
          | ok results =>
              exact iff_of_true rfl ⟨rfl, rfl⟩

/-- Computations in turn fail with the cause of the first that fails. -/
theorem mapM_eq_error_iff
    {compute : α → Except ε β}
    {entries : List α}
    {cause : ε} :
    entries.mapM compute = .error cause ↔
      ∃ before entry behind,
        entries = before ++ entry :: behind ∧
          (∀ other ∈ before, (compute other).isOk = true) ∧
          compute entry = .error cause := by
  induction entries with
  | nil =>
      exact iff_of_false nofun (by simp)
  | cons entry rest inductionHypothesis =>
      rw [List.mapM_cons, bind_eq_error_iff]
      constructor
      · rintro (fails | ⟨result, first, fails⟩)
        · exact ⟨[], entry, rest, rfl, by simp, fails⟩
        · rcases bind_eq_error_iff.mp fails with later | ⟨_, _, ⟨⟩⟩
          obtain ⟨before, failing, behind, rfl, succeed, cause⟩ :=
            inductionHypothesis.mp later
          refine ⟨entry :: before, failing, behind, rfl, ?_, cause⟩
          exact List.forall_mem_cons.mpr ⟨by rw [first]; rfl, succeed⟩
      · rintro ⟨before, failing, behind, split, succeed, fails⟩
        rcases List.cons_eq_append_iff.mp split with
          ⟨rfl, same⟩ | ⟨others, rfl, later⟩
        · obtain ⟨rfl, rfl⟩ := List.cons.inj same
          exact .inl fails
        · obtain ⟨isOk, succeedLater⟩ := List.forall_mem_cons.mp succeed
          obtain ⟨result, first⟩ := exists_eq_ok isOk
          refine .inr ⟨result, first, bind_eq_error_iff.mpr (.inl ?_)⟩
          exact
            inductionHypothesis.mpr
              ⟨others, failing, behind, later, succeedLater, fails⟩

/-- What each computation keeps is kept by all of them in turn. -/
theorem map_eq_of_mapM
    {compute : α → Except ε β}
    (name : α → γ)
    (nameAfter : β → γ)
    (keeps :
      ∀ entry result,
        compute entry = .ok result → nameAfter result = name entry)
    {entries : List α}
    {results : List β}
    (succeeds : entries.mapM compute = .ok results) :
    results.map nameAfter = entries.map name := by
  have pairs := mapM_eq_ok_iff.mp succeeds
  clear succeeds
  induction pairs with
  | nil =>
      rfl
  | @cons entry result _ _ first _ inductionHypothesis =>
      rw [List.map_cons, List.map_cons, keeps entry result first,
        inductionHypothesis]

section

variable {m : Type u → Type v} [Monad m] [LawfulMonad m]

/-- A change of every result can wait until all are there. -/
theorem mapM_map_eq
    (compute : α → m β)
    (change : β → γ)
    (entries : List α) :
    (entries.mapM fun entry => change <$> compute entry) =
      List.map change <$> entries.mapM compute := by
  induction entries with
  | nil =>
      simp
  | cons entry rest inductionHypothesis =>
      simp [List.mapM_cons, inductionHypothesis]

/-- Going through parts of entries is going through the entries, and through each one's parts. -/
theorem mapM_flatMap
    (parts : α → List β)
    (compute : β → m γ)
    (entries : List α) :
    (entries.flatMap parts).mapM compute =
      List.flatten <$>
        entries.mapM fun entry => (parts entry).mapM compute := by
  induction entries with
  | nil =>
      simp
  | cons entry rest inductionHypothesis =>
      simp [List.mapM_cons, List.mapM_append, inductionHypothesis]

end

end ShardAtlas
