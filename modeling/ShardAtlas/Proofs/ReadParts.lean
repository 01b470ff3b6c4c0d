import ShardAtlas.Proofs.ChangedDocuments

namespace ShardAtlas

/-!
# What is read of the parts of a value

A container passes with something for each of its parts. What is read of a part depends on the
part alone, so a relation between the two that the check of the parts gives holds between the
parts of the container and those of what is read of it, in their order and under their keys.
-/

namespace Json

/-- The value of a member; it is null where there is none. -/
def inside
    (name : String)
    (value : Json) :
    Json :=
  (value.member? name).getD .null

/-- The members of an object by name. -/
def byName
    (value : Json) :
    OrderedMap String Json :=
  .ofList value.members

end Json

/-- What is related to something that is related to a third is related to this. -/
theorem forall₂_trans
    {first : α → β → Prop}
    {second : β → γ → Prop}
    {both : α → γ → Prop}
    (gives : ∀ a b c, first a b → second b c → both a c)
    {inputs : List α}
    {between : List β}
    {outputs : List γ}
    (pairs : List.Forall₂ first inputs between)
    (others : List.Forall₂ second between outputs) :
    List.Forall₂ both inputs outputs := by
  induction pairs generalizing outputs with
  | nil =>
      cases others
      exact .nil
  | cons isFirst _ inductionHypothesis =>
      cases others with
      | cons isSecond rest =>
          exact
            .cons (gives _ _ _ isFirst isSecond)
              (inductionHypothesis rest)

namespace Payload

variable {check : Check α}

/-- An object passes just if its members do. -/
theorem record_eq_passed_iff
    {kind : String}
    {check : MemberCheck α}
    {value : Json}
    {found : α} :
    record kind check value = .passed found ↔
      ∃ members,
        value = .object members ∧ check members = .passed found := by
  cases value <;> simp [record]

/-- A field passes with what is read of its value, which is null where the field is left out. -/
theorem related_of_optional
    (related : Json → α → Prop)
    {field : String}
    {fallback found : α}
    {members : Members}
    (passed :
      optional ⟨field, none⟩ fallback check members = .passed found)
    (itself : related .null fallback)
    (reads : ∀ value read, check value = .passed read → related value read) :
    related ((Json.object members).inside field) found := by
  simp only [optional, FieldName.find?, Option.bind_none,
    Option.or_none] at passed
  change related ((members.lookup field).getD .null) found
  cases isThere : members.lookup field with
  | none =>
      rw [isThere] at passed
      obtain rfl : fallback = found := by
        simpa using passed
      exact itself
  | some value =>
      rw [isThere] at passed
      exact reads value found (Checked.within_eq_passed_iff.mp passed)

/-- Each item of a list passes with what is read of it. -/
theorem forall₂_of_listOf
    {value : Json}
    {found : List α}
    (passed : listOf check value = .passed found) :
    List.Forall₂ (fun item read => check item = .passed read) value.items
      found := by
  cases value with
  | array items =>
      exact listOf_array_eq_passed_iff.mp passed
  | _ =>
      exact absurd passed (Checked.fault_ne_passed _ _)

/-- Each member of a map passes with what is read of it, under the same key. -/
theorem agree_of_mapOf
    {related : Json → α → Prop}
    (reads : ∀ value read, check value = .passed read → related value read)
    {value : Json}
    {found : OrderedMap String α}
    (passed : mapOf check value = .passed found) :
    value.byName.Agree (fun _ => related) found := by
  cases value with
  | object members =>
      obtain ⟨entries, pairs, rfl⟩ :=
        mapOf_object_eq_passed_iff.mp passed
      exact
        OrderedMap.agree_ofList
          (pairs.imp fun member entry both =>
            ⟨both.1.symm, reads member.2 entry.2 both.2⟩)
  | _ =>
      exact absurd passed (Checked.fault_ne_passed _ _)

/-- Each value of a map has what the check of the values ensures. -/
theorem Ensures.mapOf
    {property : α → Prop}
    (ensures : Ensures check property) :
    Ensures (Payload.mapOf check)
      (fun found => ∀ entry ∈ found.entries, property entry.2) :=
  fun _ _ passed =>
    forall_mem_of_forall₂ (fun _ _ both => both.2)
      (agree_of_mapOf (fun value read => ensures value read) passed)

end Payload

end ShardAtlas
