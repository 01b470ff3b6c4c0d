import Mathlib.Data.List.Perm.Basic
import Mathlib.Data.Option.Basic
import ShardAtlas.Proofs.CheckedParts

namespace ShardAtlas

/-!
# Documents with a change inside

A value deep inside a document is changed, and the rest stays. Whether the changed document
passes, and with what, need not be found out anew: a check that carries a change of what it is
for is part of one that carries the change one level further out, under the name of a member.
So a change is followed through a document from the inside to the outside.
-/

namespace OrderedMap

variable {related : κ → ν → μ → Prop}

/-- Whether two maps have the same keys in the same order, with related values. -/
def Agree
    (related : κ → ν → μ → Prop)
    (first : OrderedMap κ ν)
    (second : OrderedMap κ μ) :
    Prop :=
  List.Forall₂
    (fun entry other =>
      entry.1 = other.1 ∧ related entry.1 entry.2 other.2)
    first.entries second.entries

/-- Maps without entries agree. -/
theorem agree_empty :
    (empty : OrderedMap κ ν).Agree related (empty : OrderedMap κ μ) :=
  .nil

variable [DecidableEq κ]

/-- Maps still agree when a key is given related values in both. -/
theorem Agree.insert
    {first : OrderedMap κ ν}
    {second : OrderedMap κ μ}
    (agree : first.Agree related second)
    {key : κ}
    {value : ν}
    {other : μ}
    (isRelated : related key value other) :
    (first.insert key value).Agree related (second.insert key other) := by
  rcases first with ⟨entries, distinct⟩
  rcases second with ⟨others, distinctOthers⟩
  simp only [Agree, OrderedMap.insert, alter] at agree ⊢
  clear distinct distinctOthers
  induction agree with
  | nil =>
      exact .cons ⟨rfl, isRelated⟩ .nil
  | @cons entry counterpart rest restOther both rests inductionHypothesis =>
      rcases entry with ⟨name, there⟩
      rcases counterpart with ⟨_, thereOther⟩
      obtain ⟨rfl, relatedThere⟩ := both
      simp only [alterEntries]
      split
      · next same =>
          subst same
          exact .cons ⟨rfl, isRelated⟩ rests
      · exact .cons ⟨rfl, relatedThere⟩ inductionHypothesis

/-- Maps agree that are written by the same keys with related values. -/
theorem agree_ofList
    {entries : List (κ × ν)}
    {others : List (κ × μ)}
    (agree :
      List.Forall₂
        (fun entry other =>
          entry.1 = other.1 ∧ related entry.1 entry.2 other.2)
        entries others) :
    (ofList entries).Agree related (ofList others) := by
  have further
      (first : OrderedMap κ ν)
      (second : OrderedMap κ μ)
      (before : first.Agree related second) :
      (entries.foldl (fun map entry => map.insert entry.1 entry.2)
          first).Agree related
        (others.foldl (fun map entry => map.insert entry.1 entry.2)
          second) := by
    induction agree generalizing first second with
    | nil =>
        exact before
    | cons both _ inductionHypothesis =>
        apply inductionHypothesis
        beta_reduce
        rw [← both.1]
        exact before.insert both.2
  exact further .empty .empty agree_empty

/-- Maps that agree have related values under each key, or none. -/
theorem Agree.get?
    {first : OrderedMap κ ν}
    {second : OrderedMap κ μ}
    (agree : first.Agree related second)
    (key : κ) :
    Option.Rel (related key) (first.get? key) (second.get? key) := by
  rcases first with ⟨entries, distinct⟩
  rcases second with ⟨others, distinctOthers⟩
  simp only [Agree, OrderedMap.get?] at agree ⊢
  clear distinct distinctOthers
  induction agree with
  | nil =>
      exact .none
  | @cons entry counterpart rest restOther both _ inductionHypothesis =>
      rcases entry with ⟨name, there⟩
      rcases counterpart with ⟨_, thereOther⟩
      obtain ⟨rfl, relatedThere⟩ := both
      by_cases same : name = key
      · subst same
        simpa using Option.Rel.some relatedThere
      · simpa [same] using inductionHypothesis

/-- Whether two maps are the same but for related values under one key. -/
abbrev AgreeBut
    (key : κ)
    (related : ν → ν → Prop) :
    OrderedMap κ ν →
    OrderedMap κ ν →
    Prop :=
  Agree fun other before after =>
    if other = key then related before after else before = after

end OrderedMap

namespace Json

/-- A change of the members of an object with one name. -/
def changeMembers
    (name : String)
    (change : Json → Json)
    (members : List (String × Json)) :
    List (String × Json) :=
  members.map fun (other, value) =>
    (other, if other = name then change value else value)

/-- A change of the member of an object with one name. -/
def changeMember
    (name : String)
    (change : Json → Json) :
    Json →
    Json
  | .object members => .object (changeMembers name change members)
  | value => value

/-- A change of the items of an array. -/
def changeItems
    (change : List Json → List Json) :
    Json →
    Json
  | .array items => .array (change items)
  | value => value

/-- What is found in changed members is what was there, changed under the one name. -/
theorem lookup_changeMembers
    (name other : String)
    (change : Json → Json)
    (members : List (String × Json)) :
    (changeMembers name change members).lookup other =
      (members.lookup other).map fun value =>
        if other = name then change value else value := by
  induction members with
  | nil =>
      rfl
  | cons member rest inductionHypothesis =>
      rcases member with ⟨first, value⟩
      rw [changeMembers, List.map_cons, List.lookup_cons,
        List.lookup_cons]
      by_cases same : other = first
      · simp [same]
      · rw [beq_false_of_ne same]
        exact inductionHypothesis

end Json

namespace Payload

/-- Whether a check lets every changed value pass, with something related to what passed. -/
def Carries
    (check : Check α)
    (change : Json → Json)
    (related : α → α → Prop) :
    Prop :=
  ∀ value before,
    check value = .passed before →
      ∃ after, check (change value) = .passed after ∧ related before after

/-- Items in another order pass in that order. -/
theorem Carries.listOf_perm
    (check : Check α)
    {order : List Json → List Json}
    (keeps : ∀ items, (order items).Perm items) :
    Carries (listOf check) (Json.changeItems order) List.Perm := by
  intro value before passed
  cases value with
  | array items =>
      have pairs := listOf_array_eq_passed_iff.mp passed
      obtain ⟨after, passAfter, same⟩ :=
        List.perm_comp_forall₂ (keeps items) pairs
      exact
        ⟨after, listOf_array_eq_passed_iff.mpr passAfter, same.symm⟩
  | _ =>
      exact absurd passed (Checked.fault_ne_passed _ _)

/-- Members pass with a change under one name if the values under it do. -/
theorem Carries.members
    {check : Check α}
    {change : Json → Json}
    {related : α → α → Prop}
    (carries : Carries check change related)
    (name : String)
    {members : Members}
    {entries : List (String × α)}
    (passed :
      List.Forall₂
        (fun member entry =>
          entry.1 = member.1 ∧ check member.2 = .passed entry.2)
        members entries) :
    ∃ others : List (String × α),
      List.Forall₂
        (fun member entry =>
          entry.1 = member.1 ∧ check member.2 = .passed entry.2)
        (Json.changeMembers name change members) others ∧
      List.Forall₂
        (fun entry other =>
          entry.1 = other.1 ∧
            if entry.1 = name then related entry.2 other.2
            else entry.2 = other.2)
        entries others := by
  induction passed with
  | nil =>
      exact ⟨[], .nil, .nil⟩
  | @cons member entry _ _ both _ inductionHypothesis =>
      obtain ⟨others, passOthers, agree⟩ := inductionHypothesis
      rcases entry with ⟨key, found⟩
      rcases member with ⟨_, value⟩
      obtain ⟨rfl, passes⟩ := both
      by_cases same : key = name
      · obtain ⟨after, passesAfter, isRelated⟩ :=
          carries value found passes
        refine
          ⟨(key, after) :: others, .cons ?_ passOthers, .cons ?_ agree⟩
        · simpa [same] using passesAfter
        · simpa [same] using isRelated
      · refine
          ⟨(key, found) :: others, .cons ?_ passOthers, .cons ?_ agree⟩
        · simpa [same] using passes
        · simp [same]

/-- A map passes with a change under one key if the values under it do. -/
theorem Carries.mapOf
    {check : Check α}
    {change : Json → Json}
    {related : α → α → Prop}
    (carries : Carries check change related)
    (name : String) :
    Carries (mapOf check) (Json.changeMember name change)
      (OrderedMap.AgreeBut name related) := by
  intro value before passed
  cases value with
  | object members =>
      obtain ⟨entries, pairs, rfl⟩ :=
        mapOf_object_eq_passed_iff.mp passed
      obtain ⟨others, passOthers, agree⟩ := carries.members name pairs
      exact
        ⟨OrderedMap.ofList others,
          mapOf_object_eq_passed_iff.mpr ⟨others, passOthers, rfl⟩,
          OrderedMap.agree_ofList agree⟩
  | _ =>
      exact absurd passed (Checked.fault_ne_passed _ _)

/-- A field that has another name is not touched by a change under one name. -/
theorem optional_changeMembers_of_ne
    {field other : String}
    (different : field ≠ other)
    (fallback : α)
    (check : Check α)
    (change : Json → Json)
    (members : Members) :
    optional ⟨field, none⟩ fallback check
        (Json.changeMembers other change members) =
      optional ⟨field, none⟩ fallback check members := by
  have found :
      FieldName.find? ⟨field, none⟩
          (Json.changeMembers other change members) =
        FieldName.find? ⟨field, none⟩ members := by
    simp [FieldName.find?, Json.lookup_changeMembers, different]
  simp only [optional, found]

/-- A field passes with a change if its check carries it, also where the field is left out. -/
theorem Carries.optional
    {check : Check α}
    {change : Json → Json}
    {related : α → α → Prop}
    (carries : Carries check change related)
    (field : String)
    {fallback : α}
    (itself : related fallback fallback)
    {members : Members}
    {before : α}
    (passed :
      optional ⟨field, none⟩ fallback check members = .passed before) :
    ∃ after,
      Payload.optional ⟨field, none⟩ fallback check
          (Json.changeMembers field change members) = .passed after ∧
        related before after := by
  simp only [Payload.optional, FieldName.find?,
    Json.lookup_changeMembers, if_true, Option.bind_none,
    Option.or_none] at passed ⊢
  cases found : members.lookup field with
  | none =>
      rw [found] at passed
      obtain rfl : fallback = before := by
        simpa using passed
      exact ⟨fallback, rfl, itself⟩
  | some value =>
      rw [found] at passed
      obtain ⟨after, passes, isRelated⟩ :=
        carries value before (Checked.within_eq_passed_iff.mp passed)
      exact
        ⟨after, Checked.within_eq_passed_iff.mpr passes, isRelated⟩

/-- A record with a field of its own passes with a change of that field. -/
theorem Carries.record
    {check : Check α}
    {change : Json → Json}
    {related : α → α → Prop}
    (carries : Carries check change related)
    (kind field : String)
    {fallback : α}
    (itself : related fallback fallback) :
    Carries
      (record kind fun members =>
        Payload.optional ⟨field, none⟩ fallback check members)
      (Json.changeMember field change) related := by
  intro value before passed
  cases value with
  | object members =>
      exact carries.optional field itself passed
  | _ =>
      exact absurd passed (Checked.fault_ne_passed _ _)

/-- A record passes with a change of its last field, if the others are not touched. -/
theorem Carries.recordLast
    {head : MemberCheck (α → β)}
    {check : Check α}
    {change : Json → Json}
    {relatedPart : α → α → Prop}
    {related : β → β → Prop}
    (carries : Carries check change relatedPart)
    (kind field : String)
    {fallback : α}
    (itself : relatedPart fallback fallback)
    (untouched :
      ∀ members,
        head (Json.changeMembers field change members) = head members)
    (gives :
      Ensures head fun make =>
        ∀ before after,
          relatedPart before after → related (make before) (make after)) :
    Carries
      (Payload.record kind fun members =>
        head members <*>
          Payload.optional ⟨field, none⟩ fallback check members)
      (Json.changeMember field change) related := by
  intro value before passed
  cases value with
  | object members =>
      obtain ⟨make, part, made, passes, rfl⟩ :=
        Checked.seq_eq_passed_iff.mp passed
      obtain ⟨after, passesAfter, isRelated⟩ :=
        carries.optional field itself passes
      refine
        ⟨make after, Checked.seq_eq_passed_iff.mpr ?_,
          gives members make made part after isRelated⟩
      exact
        ⟨make, after, (untouched members).trans made, passesAfter, rfl⟩
  | _ =>
      exact absurd passed (Checked.fault_ne_passed _ _)

end Payload

end ShardAtlas
