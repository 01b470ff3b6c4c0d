import Mathlib.Data.List.DropRight
import ShardAtlas.Proofs.FlatImage

namespace ShardAtlas

/-!
# The names of roles

A name of a role is read without blanks at its ends and in lower case, and the names of data
tiers are names of the data role. Texts may have unpaired halves, which are neither blank nor a
letter: so they stay where they are, a text with one in it is no name of a role, and what comes
behind one makes no difference to whether a text begins like a data tier.
-/

section

variable {kept next : α} {start front rest : List α} {drops : α → Bool}

/-- A list starts another one up to where something comes that is not in it. -/
theorem prefix_append_cons_iff
    (behind : List α)
    (absent : next ∉ start) :
    start <+: front ++ next :: behind ↔ start <+: front := by
  constructor
  · intro starts
    rcases List.prefix_or_prefix_of_prefix starts
        (List.prefix_append front (next :: behind)) with
      isPart | ⟨rest, rfl⟩
    · exact isPart
    · cases rest with
      | nil =>
          simp
      | cons first rest =>
          rw [List.prefix_append_right_inj] at starts
          have same := (List.cons_prefix_cons.mp starts).1
          simp [same] at absent
  · exact fun isPart => isPart.trans (List.prefix_append _ _)

/-- From the front nothing is dropped behind what is kept. -/
theorem dropWhile_append_cons
    (keeps : drops kept = false) :
    (front ++ kept :: rest).dropWhile drops =
      front.dropWhile drops ++ kept :: rest := by
  rw [List.dropWhile_append]
  split
  · next nothingLeft =>
      rw [List.isEmpty_iff.mp nothingLeft,
        List.dropWhile_cons_of_neg (by simp [keeps]), List.nil_append]
  · rfl

/-- From the back nothing is dropped in front of what is kept. -/
theorem rdropWhile_append_cons
    (keeps : drops kept = false) :
    (front ++ kept :: rest).rdropWhile drops =
      front ++ kept :: rest.rdropWhile drops := by
  rw [List.rdropWhile, List.reverse_append, List.reverse_cons,
    List.append_assoc, List.singleton_append, dropWhile_append_cons keeps]
  simp [List.rdropWhile]

end

namespace Text

/-- Whether a code point is that of a blank; no half is. -/
def isBlankCode
    (code : Nat) :
    Bool :=
  (informationSeparators :: whiteSpace).any (·.holds code)

/-- A code point, in lower case if that form is an ASCII letter; halves stay as they are. -/
def lowerCaseCode
    (code : Nat) :
    Nat :=
  match Surrogate.ofCode? code with
  | some _ => code
  | none => (lowerCaseChar (Char.ofNat code)).toNat

/-- The code points of a text without blanks at either end and in lower case. -/
def normalCodes
    (text : Text) :
    List Nat :=
  ((text.codes.dropWhile isBlankCode).rdropWhile isBlankCode).map
    lowerCaseCode

/-- A character is blank by its code point. -/
@[simp] theorem isBlankCode_toNat
    (char : Char) :
    isBlankCode char.toNat = isBlank char := by
  rw [Bool.eq_iff_iff, isBlank_iff, isBlankCode, List.any_eq_true]

/-- A half is not blank. -/
@[simp] theorem isBlankCode_code
    (half : Surrogate) :
    isBlankCode half.code = false := by
  have apart :
      ∀ range ∈ informationSeparators :: whiteSpace,
        range.last < Surrogate.firstCode := by
    decide
  rw [isBlankCode, List.any_eq_false]
  intro range isRange within
  have isBelow := apart range isRange
  rw [CodeRange.holds_iff, Surrogate.code] at within
  omega

/-- A character is in lower case by its code point. -/
@[simp] theorem lowerCaseCode_toNat
    (char : Char) :
    lowerCaseCode char.toNat = (lowerCaseChar char).toNat := by
  rw [lowerCaseCode, Surrogate.ofCode?_toNat, Char.ofNat_toNat]

/-- A half stays as it is. -/
@[simp] theorem lowerCaseCode_code
    (half : Surrogate) :
    lowerCaseCode half.code = half.code := by
  rw [lowerCaseCode, Surrogate.ofCode?_code]

/-- The code points of characters, without blanks at their front. -/
theorem dropWhile_isBlankCode_map
    (chars : List Char) :
    (chars.map Char.toNat).dropWhile isBlankCode =
      (chars.dropWhile isBlank).map Char.toNat := by
  simp [List.dropWhile_map, Function.comp_def]

/-- The code points of characters in lower case. -/
theorem map_lowerCaseCode_map
    (chars : List Char) :
    (chars.map Char.toNat).map lowerCaseCode =
      (chars.map lowerCaseChar).map Char.toNat := by
  simp

/-- The normal form of a string is its normal form as a role name. -/
theorem normalCodes_coe
    (content : String) :
    (content : Text).normalCodes =
      charCodes (NodeRole.normalized content) := by
  have codes : (content : Text).codes = content.toList.map Char.toNat :=
    List.append_nil _
  have trimmedCodes :
      ((content.toList.map Char.toNat).dropWhile isBlankCode).rdropWhile
          isBlankCode =
        (trimmed isBlank content.toList).map Char.toNat := by
    rw [dropWhile_isBlankCode_map, List.rdropWhile, ← List.map_reverse,
      dropWhile_isBlankCode_map, ← List.map_reverse, trimmed]
  rw [normalCodes, codes, trimmedCodes, map_lowerCaseCode_map, charCodes,
    NodeRole.normalized, lowerCase, withoutBlanks, String.toList_ofList,
    String.toList_ofList]

/-- With a half, only the blanks in front of the string before it are taken off there. -/
theorem exists_normalCodes_of_half
    (lead following : String)
    (half : Surrogate)
    (more : List (Surrogate × String)) :
    ∃ rest,
      normalCodes ⟨lead, (half, following) :: more⟩ =
        ((lead.toList.dropWhile isBlank).map lowerCaseChar).map Char.toNat ++
          half.code :: rest := by
  obtain ⟨behind, codes⟩ :
      ∃ behind,
        codes ⟨lead, (half, following) :: more⟩ =
          lead.toList.map Char.toNat ++ half.code :: behind :=
    ⟨_, rfl⟩
  rw [normalCodes, codes, dropWhile_append_cons (isBlankCode_code half),
    rdropWhile_append_cons (isBlankCode_code half),
    dropWhile_isBlankCode_map, List.map_append, map_lowerCaseCode_map,
    List.map_cons, lowerCaseCode_code]
  exact ⟨_, rfl⟩

/-- A half is no code point of a string. -/
theorem code_notMem_charCodes
    (half : Surrogate)
    (content : String) :
    half.code ∉ charCodes content := by
  intro member
  obtain ⟨char, _, same⟩ := List.mem_map.mp member
  have noHalf := Surrogate.ofCode?_toNat char
  rw [same, Surrogate.ofCode?_code] at noHalf
  cases noHalf

/-- Texts with the same code points are the same strings. -/
theorem charCodes_inj
    {first second : String} :
    charCodes first = charCodes second ↔ first = second := by
  have injective : Function.Injective Char.toNat :=
    fun _ _ => Char.toNat_inj.mp
  rw [charCodes, charCodes, (List.map_injective_iff.mpr injective).eq_iff,
    String.toList_inj]

/-- A string begins with another one just if its code points do. -/
theorem map_toNat_prefix_iff
    {start chars : List Char} :
    start.map Char.toNat <+: chars.map Char.toNat ↔ start <+: chars :=
  List.prefix_map_iff_of_injective fun _ _ => Char.toNat_inj.mp

/-- Blanks have no case. -/
theorem lowerCaseChar_of_isBlank
    {char : Char}
    (blank : isBlank char = true) :
    lowerCaseChar char = char := by
  have apart :
      ∀ range ∈ informationSeparators :: whiteSpace,
        (range.last < 'A'.toNat ∨ 'Z'.toNat < range.first) ∧
          (range.last < 0x212a ∨ 0x212a < range.first) := by
    decide
  obtain ⟨range, isRange, within⟩ := isBlank_iff.mp blank
  obtain ⟨noCapital, noKelvin⟩ := apart range isRange
  rw [CodeRange.holds_iff] at within
  have notKelvin : char.toNat ≠ 0x212a := by
    omega
  have notCapital :
      ¬('A'.toNat ≤ char.toNat ∧ char.toNat ≤ 'Z'.toNat) := by
    omega
  rw [lowerCaseChar, if_neg notKelvin]
  exact dif_neg notCapital

end Text

namespace NodeRole

/-- Blanks at the end make no difference to what a name begins with. -/
theorem tierStart_prefix_iff
    (chars : List Char) :
    tierStart.toList <+: chars.map Text.lowerCaseChar ↔
      tierStart.toList <+:
        (chars.rdropWhile Text.isBlank).map Text.lowerCaseChar := by
  have noBlanks : tierStart.toList.any Text.isBlank = false := by
    decide
  have parts :=
    List.rdropWhile_append_rtakeWhile (p := Text.isBlank) (l := chars)
  cases behind : chars.rtakeWhile Text.isBlank with
  | nil =>
      rw [behind, List.append_nil] at parts
      rw [parts]
  | cons next rest =>
      have blank : Text.isBlank next = true :=
        List.mem_rtakeWhile_imp (behind ▸ List.mem_cons_self ..)
      have absent : next ∉ tierStart.toList := by
        intro member
        exact List.any_eq_false.mp noBlanks next member blank
      rw [behind] at parts
      conv_lhs => rw [← parts]
      rw [List.map_append, List.map_cons,
        Text.lowerCaseChar_of_isBlank blank, prefix_append_cons_iff _ absent]

/-- Whether a name begins like that of a data tier is told by its normal form. -/
theorem startsTier_iff
    (name : Text) :
    tierStart.toList.isPrefixOf (normalized name.lead).toList = true ↔
      Text.charCodes tierStart <+: name.normalCodes := by
  rcases name with ⟨lead, _ | ⟨⟨half, following⟩, more⟩⟩
  · rw [List.isPrefixOf_iff_prefix]
    have codes := Text.normalCodes_coe lead
    rw [codes, Text.charCodes, Text.charCodes, Text.map_toNat_prefix_iff]
  · obtain ⟨rest, codes⟩ :=
      Text.exists_normalCodes_of_half lead following half more
    rw [codes,
      prefix_append_cons_iff _ (Text.code_notMem_charCodes half tierStart),
      Text.charCodes, Text.map_toNat_prefix_iff, tierStart_prefix_iff,
      List.isPrefixOf_iff_prefix, normalized, Text.lowerCase,
      Text.withoutBlanks, String.toList_ofList, String.toList_ofList]
    rfl

/-- A role is found by its name, and by no other. -/
theorem ofName?_eq_some_iff
    (name : String)
    (role : NodeRole) :
    ofName? name = some role ↔ role.name = name := by
  constructor
  · intro found
    simpa using List.find?_some found
  · rintro rfl
    cases role <;> decide

/-- A text that is no data tier is a role just if its normal form is the name of the role. -/
theorem ofName?_normalized_eq_some_iff
    (name : Text)
    (role : NodeRole) :
    (name.whole?.bind fun content => ofName? (normalized content)) =
        some role ↔
      name.normalCodes = Text.charCodes role.name := by
  rcases name with ⟨lead, _ | ⟨⟨half, following⟩, more⟩⟩
  · have codes := Text.normalCodes_coe lead
    rw [codes, Text.charCodes_inj, Text.whole?_coe, Option.bind_some,
      ofName?_eq_some_iff]
    exact eq_comm
  · obtain ⟨rest, codes⟩ :=
      Text.exists_normalCodes_of_half lead following half more
    have noString :
        Text.whole? ⟨lead, (half, following) :: more⟩ = none :=
      rfl
    rw [noString, Option.bind_none]
    refine iff_of_false (Option.some_ne_none role).symm ?_
    intro same
    refine Text.code_notMem_charCodes half role.name ?_
    rw [← same, codes]
    simp

/-- No role has a name like that of a data tier. -/
theorem not_tierStart_prefix_name
    (role : NodeRole) :
    ¬Text.charCodes tierStart <+: Text.charCodes role.name := by
  cases role <;> decide

/-- A name stands for the data role just if it is its name or begins like a data tier. -/
theorem read?_eq_some_data_iff
    (name : Text) :
    read? name = some .data ↔
      name.normalCodes = Text.charCodes "data" ∨
        Text.charCodes "data_" <+: name.normalCodes := by
  rw [read?]
  split
  · next isTier =>
      exact
        iff_of_true rfl (.inr ((startsTier_iff name).mp isTier))
  · next noTier =>
      rw [startsTier_iff] at noTier
      rw [ofName?_normalized_eq_some_iff]
      exact (or_iff_left noTier).symm

/-- A name stands for another role just if its normal form is the name of the role. -/
theorem read?_eq_some_iff
    {role : NodeRole}
    (other : role ≠ .data)
    (name : Text) :
    read? name = some role ↔
      name.normalCodes = Text.charCodes role.name := by
  rw [read?]
  split
  · next isTier =>
      refine iff_of_false (fun same => other (Option.some.inj same).symm) ?_
      intro same
      rw [startsTier_iff, same] at isTier
      exact not_tierStart_prefix_name role isTier
  · exact ofName?_normalized_eq_some_iff name role

end NodeRole

namespace RoleSet

/-- The set of the members of two sets. -/
def union
    (first second : RoleSet) :
    RoleSet :=
  ofList (first.members ++ second.members)

/-- A role is in the union of two sets just if it is in one of them. -/
@[simp] theorem contains_union
    (first second : RoleSet)
    (role : NodeRole) :
    (first.union second).contains role =
      (first.contains role || second.contains role) := by
  rw [union, contains_ofList]
  simp [contains]

/-- A role is read from some names just if one of them stands for it. -/
theorem contains_read_iff
    (names : List Text)
    (role : NodeRole) :
    (read names).contains role = true ↔
      ∃ name ∈ names, NodeRole.read? name = some role := by
  rw [read, contains_ofList, decide_eq_true_iff, List.mem_filterMap]

/-- The roles of two lists of names are those of the one and those of the other. -/
theorem read_append
    (first second : List Text) :
    read (first ++ second) = (read first).union (read second) := by
  apply ext_contains
  intro role
  rw [Bool.eq_iff_iff, contains_union, Bool.or_eq_true]
  simp only [contains_read_iff, List.mem_append, or_and_right, exists_or]

/-- Order and repetition of the names make no difference. -/
theorem read_congr
    {first second : List Text}
    (same : ∀ name, name ∈ first ↔ name ∈ second) :
    read first = read second := by
  apply ext_contains
  intro role
  rw [Bool.eq_iff_iff]
  simp only [contains_read_iff, same]

/--
The roles that some names stand for.

Reading takes lists of names to unions of roles, whatever the order and the repetition of the
names. The data role is read from its name and from those of data tiers, every other role from
its name, where blanks at either end and case make no difference. A set is read again from the
names of its roles.
-/
theorem read_by_normal_names :
    (∀ first second,
      read (first ++ second) = (read first).union (read second)) ∧
      (∀ first second : List Text,
        (∀ name, name ∈ first ↔ name ∈ second) →
          read first = read second) ∧
      (∀ names,
        (read names).contains .data = true ↔
          ∃ name ∈ names,
            name.normalCodes = Text.charCodes "data" ∨
              Text.charCodes "data_" <+: name.normalCodes) ∧
      (∀ names role, role ≠ NodeRole.data →
        ((read names).contains role = true ↔
          ∃ name ∈ names,
            name.normalCodes = Text.charCodes role.name)) ∧
      ∀ (roles : RoleSet) (listed : List NodeRole),
        (∀ role, role ∈ listed ↔ roles.contains role = true) →
          read (listed.map fun role => (role.name : Text)) = roles := by
  refine ⟨read_append, fun _ _ => read_congr, ?_, ?_, ?_⟩
  · intro names
    simp only [contains_read_iff, NodeRole.read?_eq_some_data_iff]
  · intro names role other
    simp only [contains_read_iff, NodeRole.read?_eq_some_iff other]
  · intro roles listed complete
    exact read_names complete

/-- Two roles read from names with blanks and capitals, in another order and repeated. -/
theorem read_of_mixedSpellings :
    let names : List Text := ["\x1c DATA_Hot", "Master\u3000", "transform"]
    let repeated : List Text :=
      ["transform", "Master\u3000", "\x1c DATA_Hot", "Master\u3000"]
    let roles := ofList [.data, .master]
    (∀ name, name ∈ names ↔ name ∈ repeated) ∧
      read names = read repeated ∧
      NodeRole.master ≠ .data ∧
      (read names).contains .master = true ∧
      (read names).contains .data = true ∧
      (∀ role,
        role ∈ [NodeRole.master, .data] ↔ roles.contains role = true) ∧
      read ["master", "data"] = roles := by
  intro names repeated roles
  obtain ⟨_, congr, dataIff, otherIff, readAgain⟩ := read_by_normal_names
  have sameNames : ∀ name, name ∈ names ↔ name ∈ repeated := by
    intro name
    simp only [names, repeated, List.mem_cons, List.not_mem_nil, or_false]
    grind
  have complete :
      ∀ role,
        role ∈ [NodeRole.master, .data] ↔ roles.contains role = true := by
    intro role
    cases role <;> decide
  refine
    ⟨sameNames, congr names repeated sameNames, by decide, ?_, ?_, complete,
      readAgain roles _ complete⟩
  · exact
      (otherIff names .master (by decide)).mpr
        ⟨"Master\u3000", by simp [names], by decide +kernel⟩
  · exact
      (dataIff names).mpr
        ⟨"\x1c DATA_Hot", by simp [names], .inr (by decide +kernel)⟩

end RoleSet

end ShardAtlas
