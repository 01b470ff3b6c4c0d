import Mathlib.Data.List.Forall2
import ShardAtlas.Payload.Container

namespace ShardAtlas.Payload

/-!
# What checks let pass

A record or a list passes just if its parts pass, each with the value that it has in
the whole. Two things follow for every document format that is put together of such
checks. What the checks of the parts ensure holds of the parts of whatever passes; and
a record that is written field by field, each under either of its names, is found again
field by field.
-/

namespace Checked

/-- A passed value is changed. -/
@[simp] theorem map_passed
    (change : α → β)
    (value : α) :
    change <$> passed value = passed (change value) :=
  rfl

/-- A passed function is applied to a passed argument. -/
@[simp] theorem passed_seq_passed
    (change : α → β)
    (value : α) :
    passed change <*> passed value = passed (change value) :=
  rfl

/-- A changed value passes just if the value itself does. -/
theorem map_eq_passed_iff
    {change : α → β}
    {argument : Checked α}
    {result : β} :
    change <$> argument = .passed result ↔
      ∃ value, argument = .passed value ∧ change value = result := by
  cases argument <;> simp [Functor.map, map]

/-- Two checks side by side pass just if both do. -/
theorem seq_eq_passed_iff
    {function : Checked (α → β)}
    {argument : Checked α}
    {result : β} :
    function <*> argument = .passed result ↔
      ∃ change value,
        function = .passed change ∧ argument = .passed value ∧
          change value = result := by
  cases function <;> cases argument <;> simp [Seq.seq, apply]

/-- A check with a further one passes just if both do. -/
theorem andThen_eq_passed_iff
    {checked : Checked α}
    {next : α → Checked β}
    {result : β} :
    checked.andThen next = .passed result ↔
      ∃ value, checked = .passed value ∧ next value = .passed result := by
  cases checked <;> simp [andThen]

/-- A passed value is the same from further out. -/
@[simp] theorem within_passed
    (step : Step)
    (value : α) :
    (passed value).within step = passed value :=
  rfl

/-- Seen from further out, the same value passes. -/
@[simp] theorem within_eq_passed_iff
    {step : Step}
    {checked : Checked α}
    {value : α} :
    checked.within step = .passed value ↔ checked = .passed value := by
  cases checked <;> simp [within]

/-- A single issue is no value. -/
@[simp] theorem fault_ne_passed
    (cause : Fault)
    (value : α) :
    (fault cause : Checked α) ≠ .passed value := by
  simp [fault]

/-- The value of a passed check is the one of the document. -/
@[simp] theorem toShape_eq_ok_iff
    {source : String}
    {checked : Checked α}
    {value : α} :
    checked.toShape source = .ok value ↔ checked = .passed value := by
  cases checked <;> simp [toShape]

/-- A malformed document is reported with its name and with all issues that were found. -/
theorem toShape_eq_error_iff
    {source : String}
    {checked : Checked α}
    {fault : ShapeFault} :
    checked.toShape source = .error fault ↔
      fault.source = source ∧ fault.issues = checked.issues := by
  rcases fault with ⟨name, first, rest⟩
  cases checked with
  | passed value =>
      simp [toShape, issues, ShapeFault.issues]
  | failed found others =>
      simp only [toShape, issues, ShapeFault.issues, Except.error.injEq,
        ShapeFault.mk.injEq, List.cons.injEq]
      constructor <;> rintro ⟨rfl, rfl, rfl⟩ <;> exact ⟨rfl, rfl, rfl⟩

/-- The items of a list pass just if each of them does, wherever it stands. -/
theorem items_within_eq_passed_iff
    {check : α → Checked β}
    {step : Nat → α → Step}
    {position : Nat}
    {inputs : List α}
    {outputs : List β} :
    items (fun place input => (check input).within (step place input))
        position inputs =
      .passed outputs ↔
      List.Forall₂
        (fun input output => check input = .passed output)
        inputs outputs := by
  induction inputs generalizing position outputs with
  | nil =>
      simp [items, eq_comm]
  | cons first rest inductionHypothesis =>
      simp only [items, seq_eq_passed_iff, map_eq_passed_iff,
        within_eq_passed_iff, inductionHypothesis,
        List.forall₂_cons_left_iff]
      constructor
      · rintro ⟨_, others, ⟨value, passes, rfl⟩, pass, rfl⟩
        exact ⟨value, others, passes, pass, rfl⟩
      · rintro ⟨value, others, passes, pass, rfl⟩
        exact ⟨_, others, ⟨value, passes, rfl⟩, pass, rfl⟩

end Checked

/-- What holds of the items of a list and of those of another one alike holds of all or not. -/
theorem forall_mem_iff_of_forall₂
    {related : α → β → Prop}
    {ofInput : α → Prop}
    {ofOutput : β → Prop}
    (alike :
      ∀ input output,
        related input output → (ofOutput output ↔ ofInput input))
    {inputs : List α}
    {outputs : List β}
    (pairs : List.Forall₂ related inputs outputs) :
    (∀ output ∈ outputs, ofOutput output) ↔
      ∀ input ∈ inputs, ofInput input := by
  induction pairs with
  | nil =>
      simp
  | cons isRelated _ inductionHypothesis =>
      simp only [List.forall_mem_cons, alike _ _ isRelated,
        inductionHypothesis]

/-- What the items of a list give those of another one holds of all of these. -/
theorem forall_mem_of_forall₂
    {related : α → β → Prop}
    {property : β → Prop}
    (gives : ∀ input output, related input output → property output)
    {inputs : List α}
    {outputs : List β}
    (pairs : List.Forall₂ related inputs outputs) :
    ∀ output ∈ outputs, property output := by
  have alike :
      (∀ output ∈ outputs, property output) ↔ ∀ input ∈ inputs, True :=
    forall_mem_iff_of_forall₂
      (fun input output isRelated =>
        iff_true_intro (gives input output isRelated))
      pairs
  exact alike.mpr fun _ _ => trivial

/-- An array passes just if each of its items does. -/
theorem listOf_array_eq_passed_iff
    {check : Check α}
    {items : List Json}
    {values : List α} :
    listOf check (.array items) = .passed values ↔
      List.Forall₂
        (fun item value => check item = .passed value)
        items values :=
  Checked.items_within_eq_passed_iff

/-- An object passes as a map just if each of its values does, under its name. -/
theorem mapOf_object_eq_passed_iff
    {check : Check α}
    {members : Members}
    {map : OrderedMap String α} :
    mapOf check (.object members) = .passed map ↔
      ∃ entries,
        List.Forall₂
          (fun member entry =>
            entry.1 = member.1 ∧ check member.2 = .passed entry.2)
          members entries ∧
          OrderedMap.ofList entries = map := by
  have ofMember
      (member : String × Json)
      (entry : String × α) :
      (check member.2).map (member.1, ·) = .passed entry ↔
        entry.1 = member.1 ∧ check member.2 = .passed entry.2 := by
    rcases entry with ⟨name, value⟩
    cases check member.2 <;> simp [Checked.map, eq_comm]
  refine Checked.map_eq_passed_iff.trans ?_
  simp only [Checked.items_within_eq_passed_iff, ofMember]

/-- An array passes if what is written at each position passes. -/
theorem listOf_mapIdx
    {check : Check β}
    {write : Nat → α → Json}
    {read : α → β}
    {sources : List α}
    (passes :
      ∀ source ∈ sources, ∀ position,
        check (write position source) = .passed (read source)) :
    listOf check (.array (sources.mapIdx write)) =
      .passed (sources.map read) := by
  rw [listOf_array_eq_passed_iff, List.forall₂_iff_get]
  refine ⟨by simp, ?_⟩
  intro position inItems inValues
  have inSources : position < sources.length := by
    simpa using inValues
  simpa using passes sources[position] (List.getElem_mem inSources) position

/-! ## What a check ensures -/

/-- Whether all that a check lets pass has a property. -/
def Ensures
    (check : α → Checked β)
    (property : β → Prop) :
    Prop :=
  ∀ input found, check input = .passed found → property found

namespace Ensures

variable {check : Check α} {property : α → Prop}

/-- A changed value has a property that the change gives it. -/
theorem map
    {part : α → Checked β}
    {change : β → γ}
    {ofPart : β → Prop}
    {property : γ → Prop}
    (gives : ∀ value, ofPart value → property (change value))
    (ensures : Ensures part ofPart) :
    Ensures (fun input => change <$> part input) property := by
  intro input found passed
  obtain ⟨value, passes, rfl⟩ := Checked.map_eq_passed_iff.mp passed
  exact gives value (ensures input value passes)

/-- A changed value has a property that the change always gives. -/
theorem map_any
    {part : α → Checked β}
    {change : β → γ}
    {property : γ → Prop}
    (gives : ∀ value, property (change value)) :
    Ensures (fun input => change <$> part input) property := by
  intro input found passed
  obtain ⟨value, -, rfl⟩ := Checked.map_eq_passed_iff.mp passed
  exact gives value

/-- What is made of parts has a property that follows from those of the parts. -/
theorem seq
    {whole : α → Checked (β → γ)}
    {part : α → Checked β}
    {ofPart : β → Prop}
    {property : γ → Prop}
    (gives :
      Ensures whole fun change =>
        ∀ value, ofPart value → property (change value))
    (ensures : Ensures part ofPart) :
    Ensures (fun input => whole input <*> part input) property := by
  intro input found passed
  obtain ⟨change, value, changes, passes, rfl⟩ :=
    Checked.seq_eq_passed_iff.mp passed
  exact gives input change changes value (ensures input value passes)

/-- A part of which nothing is known adds nothing to a property. -/
theorem seq_any
    {whole : α → Checked (β → γ)}
    {part : α → Checked β}
    {property : γ → Prop}
    (gives :
      Ensures whole fun change => ∀ value, property (change value)) :
    Ensures (fun input => whole input <*> part input) property := by
  intro input found passed
  obtain ⟨change, value, changes, -, rfl⟩ :=
    Checked.seq_eq_passed_iff.mp passed
  exact gives input change changes value

/-- A further check adds its condition. -/
theorem andThen
    {first : α → Checked β}
    {next : β → Checked γ}
    {property : γ → Prop}
    (ensures : Ensures next property) :
    Ensures (fun input => (first input).andThen next) property := by
  intro input found passed
  obtain ⟨value, -, passes⟩ := Checked.andThen_eq_passed_iff.mp passed
  exact ensures value found passes

/-- A field that must be there has what its check ensures. -/
theorem required
    (ensures : Ensures check property)
    (field : FieldName) :
    Ensures (Payload.required field check) property := by
  intro members found passed
  unfold Payload.required at passed
  split at passed
  · exact ensures _ found (Checked.within_eq_passed_iff.mp passed)
  · exact absurd (Checked.within_eq_passed_iff.mp passed)
      (Checked.fault_ne_passed _ _)

/-- A field has what its check ensures, if its value of its own has it. -/
theorem optional
    (ensures : Ensures check property)
    (field : FieldName)
    {fallback : α}
    (itself : property fallback) :
    Ensures (Payload.optional field fallback check) property := by
  intro members found passed
  unfold Payload.optional at passed
  split at passed
  · exact ensures _ found (Checked.within_eq_passed_iff.mp passed)
  · obtain rfl : fallback = found := by
      simpa using passed
    exact itself

/-- A value that may be null has what its check ensures, if it is not null. -/
theorem nullable
    (ensures : Ensures check property) :
    Ensures (Payload.nullable check)
      (fun found => ∀ value ∈ found, property value) := by
  intro input found passed value isValue
  unfold Payload.nullable at passed
  split at passed
  · obtain rfl : none = found := by
      simpa using passed
    cases isValue
  · obtain ⟨inner, passes, rfl⟩ := Checked.map_eq_passed_iff.mp passed
    obtain rfl : inner = value := by
      simpa using isValue
    exact ensures input inner passes

/-- Each item of an array has what the check of the items ensures. -/
theorem listOf
    (ensures : Ensures check property) :
    Ensures (Payload.listOf check)
      (fun found => ∀ value ∈ found, property value) := by
  intro input found passed
  cases input with
  | array items =>
      exact forall_mem_of_forall₂ ensures
        (listOf_array_eq_passed_iff.mp passed)
  | _ =>
      exact absurd passed (Checked.fault_ne_passed _ _)

/-- An object has what the check of its members ensures. -/
theorem record
    {check : MemberCheck α}
    (ensures : Ensures check property)
    (kind : String) :
    Ensures (Payload.record kind check) property := by
  intro input found passed
  cases input with
  | object members =>
      exact ensures members found passed
  | _ =>
      exact absurd passed (Checked.fault_ne_passed _ _)

end Ensures

/-- A number of things is not negative. -/
theorem ensures_count :
    Ensures count (0 ≤ ·) := by
  apply Ensures.andThen
  intro whole found passed
  beta_reduce at passed
  split at passed
  · obtain rfl : whole = found := by
      simpa using passed
    assumption
  · exact absurd passed (Checked.fault_ne_passed _ _)

/-- A filled text has a character. -/
theorem ensures_filledText :
    Ensures filledText (· ≠ "") := by
  apply Ensures.andThen
  intro content found passed
  beta_reduce at passed
  split at passed
  · exact absurd passed (Checked.fault_ne_passed _ _)
  · obtain rfl : content = found := by
      simpa using passed
    assumption

/-! ## Records written field by field -/

namespace FieldName

/-- The names of a field. -/
def names
    (field : FieldName) :
    List String :=
  field.preferred :: field.other.toList

end FieldName

/-- Which fields are spelled with their second name, if they have one. -/
abbrev Spelling :=
  FieldName →
  Bool

/-- The name that a field has in a spelling. -/
def Spelling.nameOf
    (spelling : Spelling)
    (field : FieldName) :
    String :=
  if spelling field then
    field.other.getD field.preferred
  else
    field.preferred

/-- The members of an object with some fields, in a spelling. -/
def Spelling.members
    (spelling : Spelling)
    (fields : List (FieldName × Json)) :
    Members :=
  fields.map fun (field, value) => (spelling.nameOf field, value)

/-- Whether no two fields, and no two names of a field, are the same. -/
def AreApart
    (fields : List FieldName) :
    Prop :=
  (fields.flatMap FieldName.names).Nodup

instance (fields : List FieldName) : Decidable (AreApart fields) :=
  inferInstanceAs (Decidable (List.Nodup _))

namespace Spelling

variable
  (spelling : Spelling)
  {fields : List (FieldName × Json)}
  {field : FieldName}
  {value : Json}

/-- A field is spelled with one of its names. -/
theorem nameOf_mem_names
    (field : FieldName) :
    spelling.nameOf field ∈ field.names := by
  rcases field with ⟨preferred, _ | second⟩ <;>
    simp only [nameOf, FieldName.names] <;> split <;> simp

/-- A name of none of the fields is the name of no member. -/
theorem lookup_members_eq_none
    {name : String}
    (strange : ∀ entry ∈ fields, name ∉ entry.1.names) :
    (spelling.members fields).lookup name = none := by
  rw [List.lookup_eq_none_iff]
  intro entry member
  obtain ⟨source, isField, rfl⟩ := List.mem_map.mp member
  have isNamed := spelling.nameOf_mem_names source.1
  rw [bne_iff_ne]
  rintro rfl
  exact strange source isField isNamed

/-- The names of a field in a list are its own, and differ. -/
theorem names_of_apart
    {before behind : List (FieldName × Json)}
    (apart :
      AreApart ((before ++ (field, value) :: behind).map Prod.fst)) :
    field.names.Nodup ∧
      ∀ name ∈ field.names,
        (∀ entry ∈ before, name ∉ entry.1.names) ∧
          ∀ entry ∈ behind, name ∉ entry.1.names := by
  simp only [AreApart, List.map_append, List.map_cons,
    List.flatMap_append, List.flatMap_cons, List.nodup_append,
    List.mem_append, List.mem_flatMap, List.mem_map] at apart
  obtain ⟨-, ⟨once, -, fromBehind⟩, fromBefore⟩ := apart
  refine ⟨once, fun name isName => ⟨?_, ?_⟩⟩
  · intro entry member shared
    exact fromBefore name ⟨entry.1, ⟨entry, member, rfl⟩, shared⟩
      name (Or.inl isName) rfl
  · intro entry member shared
    exact fromBehind name isName
      name ⟨entry.1, ⟨entry, member, rfl⟩, shared⟩ rfl

/-- Under a name of a written field stands its value, or nothing. -/
theorem lookup_members
    (apart : AreApart (fields.map Prod.fst))
    (member : (field, value) ∈ fields)
    {name : String}
    (isName : name ∈ field.names) :
    (spelling.members fields).lookup name =
      if name = spelling.nameOf field then some value else none := by
  -- Neither what stands before the field nor what stands behind it has the name.
  obtain ⟨before, behind, rfl⟩ := List.append_of_mem member
  have strange := (names_of_apart apart).2 name isName
  have parts :
      spelling.members (before ++ (field, value) :: behind) =
        spelling.members before ++
          (spelling.nameOf field, value) :: spelling.members behind := by
    simp [members]
  rw [parts, List.lookup_append,
    spelling.lookup_members_eq_none strange.1, Option.none_or]
  by_cases same : name = spelling.nameOf field
  · rw [same, List.lookup_cons_self, if_pos rfl]
  · rw [List.lookup_cons, beq_false_of_ne same, if_neg same]
    exact spelling.lookup_members_eq_none strange.2

/-- Each written field is found with its value, under the name it is spelled with. -/
theorem find?_members
    (apart : AreApart (fields.map Prod.fst)) :
    ∀ entry ∈ fields,
      entry.1.find? (spelling.members fields) =
        some (spelling.nameOf entry.1, entry.2) := by
  rintro ⟨field, value⟩ member
  have once : field.names.Nodup := by
    obtain ⟨before, behind, rfl⟩ := List.append_of_mem member
    exact (names_of_apart apart).1
  have atFirst :=
    spelling.lookup_members apart member (List.mem_cons_self ..)
  rcases field with ⟨preferred, _ | second⟩
  · simp [FieldName.find?, atFirst, nameOf]
  · have atSecond :=
      spelling.lookup_members apart member
        (List.mem_cons_of_mem _ (List.mem_singleton_self second))
    have differ : preferred ≠ second := by
      simpa [FieldName.names] using once
    by_cases asSecond : spelling ⟨preferred, some second⟩ <;>
      simp [FieldName.find?, atFirst, atSecond, nameOf, asSecond, differ]

end Spelling

end ShardAtlas.Payload
