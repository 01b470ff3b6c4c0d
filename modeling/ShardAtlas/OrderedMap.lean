namespace ShardAtlas

/-!
# Maps in insertion order

A map is a list of entries with different keys. A new key goes to the end and a
known key keeps its place, so the order of the entries is the order in which the
keys were first written.
-/

/-- Finite maps whose entries are kept in insertion order. -/
structure OrderedMap
    (κ : Type u)
    (ν : Type v) where
  entries : List (κ × ν)
  keysNodup : (entries.map Prod.fst).Nodup
  deriving Repr, DecidableEq

namespace OrderedMap

/-- Change the value of a key in a list of entries, at the end if it is new. -/
def alterEntries
    [DecidableEq κ]
    (key : κ)
    (change : Option ν → ν) :
    List (κ × ν) →
    List (κ × ν)
  | [] =>
      [(key, change none)]
  | (other, value) :: rest =>
      if other = key then
        (other, change (some value)) :: rest
      else
        (other, value) :: alterEntries key change rest

/-- Changing a value adds its key at the end or leaves the keys alone. -/
theorem map_fst_alterEntries
    [DecidableEq κ]
    (key : κ)
    (change : Option ν → ν)
    (entries : List (κ × ν)) :
    (alterEntries key change entries).map Prod.fst =
      if key ∈ entries.map Prod.fst then
        entries.map Prod.fst
      else
        entries.map Prod.fst ++ [key] := by
  induction entries with
  | nil =>
      simp [alterEntries]
  | cons entry rest inductionHypothesis =>
      rcases entry with ⟨other, value⟩
      by_cases same : other = key
      · subst same
        simp [alterEntries]
      · have different : key ≠ other :=
          fun equal => same equal.symm
        simp only [alterEntries, same, if_false, List.map_cons,
          inductionHypothesis, List.mem_cons, different, false_or]
        split <;> simp

/-- Changing a value keeps the keys different. -/
theorem nodup_alterEntries
    [DecidableEq κ]
    (key : κ)
    (change : Option ν → ν)
    {entries : List (κ × ν)}
    (distinct : (entries.map Prod.fst).Nodup) :
    ((alterEntries key change entries).map Prod.fst).Nodup := by
  rw [map_fst_alterEntries]
  split
  · exact distinct
  · next fresh =>
      rw [List.nodup_append]
      refine ⟨distinct, by simp, ?_⟩
      intro left leftMember right rightMember
      simp only [List.mem_singleton] at rightMember
      subst rightMember
      intro equal
      subst equal
      exact fresh leftMember

/-- The map without entries. -/
def empty : OrderedMap κ ν :=
  { entries := []
    keysNodup := by simp }

instance : Inhabited (OrderedMap κ ν) :=
  ⟨empty⟩

/-- Change the value of a key by a function, which is told the value if there is one. -/
def alter
    [DecidableEq κ]
    (map : OrderedMap κ ν)
    (key : κ)
    (change : Option ν → ν) :
    OrderedMap κ ν :=
  { entries := alterEntries key change map.entries
    keysNodup := nodup_alterEntries key change map.keysNodup }

/-- Give a key a value. -/
def insert
    [DecidableEq κ]
    (map : OrderedMap κ ν)
    (key : κ)
    (value : ν) :
    OrderedMap κ ν :=
  map.alter key fun _ => value

/-- Give a key a value unless it has one. -/
def insertNew
    [DecidableEq κ]
    (map : OrderedMap κ ν)
    (key : κ)
    (value : ν) :
    OrderedMap κ ν :=
  map.alter key fun known => known.getD value

/-- The value of a key. -/
def get?
    [DecidableEq κ]
    (map : OrderedMap κ ν)
    (key : κ) :
    Option ν :=
  (map.entries.find? fun entry => entry.1 = key).map Prod.snd

/-- The keys, in the order in which they were first written. -/
def keys
    (map : OrderedMap κ ν) :
    List κ :=
  map.entries.map Prod.fst

/-- The values, in the order of their keys. -/
def values
    (map : OrderedMap κ ν) :
    List ν :=
  map.entries.map Prod.snd

/-- Number of entries. -/
def size
    (map : OrderedMap κ ν) :
    Nat :=
  map.entries.length

/-- Change every value. -/
def mapValues
    (map : OrderedMap κ ν)
    (change : ν → μ) :
    OrderedMap κ μ :=
  { entries := map.entries.map fun entry => (entry.1, change entry.2)
    keysNodup := by
      simpa [List.map_map, Function.comp_def] using map.keysNodup }

/-- The entries whose value passes a test. -/
def filterValues
    (map : OrderedMap κ ν)
    (keeps : ν → Bool) :
    OrderedMap κ ν :=
  { entries := map.entries.filter fun entry => keeps entry.2
    keysNodup :=
      (List.filter_sublist.map Prod.fst).nodup map.keysNodup }

/-- The entries whose key passes a test. -/
def filterKeys
    (map : OrderedMap κ ν)
    (keeps : κ → Bool) :
    OrderedMap κ ν :=
  { entries := map.entries.filter fun entry => keeps entry.1
    keysNodup :=
      (List.filter_sublist.map Prod.fst).nodup map.keysNodup }

/-- The map written by some entries in turn. -/
def ofList
    [DecidableEq κ]
    (entries : List (κ × ν)) :
    OrderedMap κ ν :=
  entries.foldl (fun map entry => map.insert entry.1 entry.2) empty

/-- The keys after a value is changed. -/
theorem keys_alter
    [DecidableEq κ]
    (map : OrderedMap κ ν)
    (key : κ)
    (change : Option ν → ν) :
    (map.alter key change).keys =
      if key ∈ map.keys then
        map.keys
      else
        map.keys ++ [key] :=
  map_fst_alterEntries key change map.entries

/-- Looking up the key that was changed. -/
theorem get?_alter_self
    [DecidableEq κ]
    (map : OrderedMap κ ν)
    (key : κ)
    (change : Option ν → ν) :
    (map.alter key change).get? key = some (change (map.get? key)) := by
  rcases map with ⟨entries, distinct⟩
  simp only [get?, alter]
  clear distinct
  induction entries with
  | nil =>
      simp [alterEntries]
  | cons entry rest inductionHypothesis =>
      rcases entry with ⟨other, value⟩
      by_cases same : other = key
      · simp [alterEntries, same]
      · simpa [alterEntries, same] using inductionHypothesis

/-- Looking up another key than the one that was changed. -/
theorem get?_alter_of_ne
    [DecidableEq κ]
    (map : OrderedMap κ ν)
    {key other : κ}
    (change : Option ν → ν)
    (different : other ≠ key) :
    (map.alter key change).get? other = map.get? other := by
  rcases map with ⟨entries, distinct⟩
  simp only [get?, alter]
  clear distinct
  induction entries with
  | nil =>
      simp [alterEntries, Ne.symm different]
  | cons entry rest inductionHypothesis =>
      rcases entry with ⟨first, value⟩
      by_cases same : first = key
      · have away : first ≠ other :=
          fun equal => different (equal ▸ same)
        simp [alterEntries, same, Ne.symm different]
      · by_cases hit : first = other
        · simp [alterEntries, hit, different]
        · simpa [alterEntries, same, hit] using inductionHypothesis

/-- Nothing is found in the map without entries. -/
@[simp] theorem get?_empty
    [DecidableEq κ]
    (key : κ) :
    (empty : OrderedMap κ ν).get? key = none :=
  rfl

/-- Looking up any key after a value is changed. -/
theorem get?_alter
    [DecidableEq κ]
    (map : OrderedMap κ ν)
    (key other : κ)
    (change : Option ν → ν) :
    (map.alter key change).get? other =
      if other = key then
        some (change (map.get? key))
      else
        map.get? other := by
  by_cases same : other = key
  · subst same
    simp [get?_alter_self]
  · simp [same, get?_alter_of_ne]

/-- Looking up any key after a key is given a value. -/
theorem get?_insert
    [DecidableEq κ]
    (map : OrderedMap κ ν)
    (key other : κ)
    (value : ν) :
    (map.insert key value).get? other =
      if other = key then
        some value
      else
        map.get? other :=
  get?_alter map key other fun _ => value

/-- Looking up any key after a key is given a value unless it has one. -/
theorem get?_insertNew
    [DecidableEq κ]
    (map : OrderedMap κ ν)
    (key other : κ)
    (value : ν) :
    (map.insertNew key value).get? other =
      if other = key then
        some ((map.get? key).getD value)
      else
        map.get? other :=
  get?_alter map key other fun known => known.getD value

/-- Changing a value only asks for the new value of the one that is there. -/
theorem alterEntries_congr
    [DecidableEq κ]
    (key : κ)
    {first second : Option ν → ν}
    (entries : List (κ × ν))
    (agree :
      first ((entries.find? fun entry => entry.1 = key).map Prod.snd) =
        second ((entries.find? fun entry => entry.1 = key).map Prod.snd)) :
    alterEntries key first entries = alterEntries key second entries := by
  induction entries with
  | nil =>
      simpa [alterEntries] using agree
  | cons entry rest inductionHypothesis =>
      rcases entry with ⟨other, value⟩
      by_cases same : other = key
      · simpa [alterEntries, same] using agree
      · have later := inductionHypothesis (by simpa [same] using agree)
        simp [alterEntries, same, later]

/-- Changing the value that a key has is giving it the new one. -/
theorem alter_eq_insert
    [DecidableEq κ]
    {map : OrderedMap κ ν}
    {key : κ}
    {value : ν}
    (change : Option ν → ν)
    (known : map.get? key = some value) :
    map.alter key change = map.insert key (change (some value)) := by
  have same :
      alterEntries key change map.entries =
        alterEntries key (fun _ => change (some value)) map.entries := by
    apply alterEntries_congr
    rw [show (map.entries.find? fun entry => entry.1 = key).map Prod.snd =
      some value from known]
  simp only [insert, alter, same]

/-- Giving a key the value that it has changes nothing. -/
theorem alterEntries_eq_self
    [DecidableEq κ]
    {key : κ}
    {value : ν}
    {entries : List (κ × ν)}
    (known :
      (entries.find? fun entry => entry.1 = key).map Prod.snd =
        some value) :
    alterEntries key (fun _ => value) entries = entries := by
  induction entries with
  | nil =>
      cases known
  | cons entry rest inductionHypothesis =>
      rcases entry with ⟨other, there⟩
      by_cases same : other = key
      · have equal : there = value := by
          simpa [same] using known
        simp [alterEntries, same, equal]
      · have later := inductionHypothesis (by simpa [same] using known)
        simp [alterEntries, same, later]

/-- Giving a key a value changes nothing just if it has that value. -/
theorem insert_eq_self_iff
    [DecidableEq κ]
    (map : OrderedMap κ ν)
    (key : κ)
    (value : ν) :
    map.insert key value = map ↔ map.get? key = some value := by
  constructor
  · intro same
    have written := map.get?_insert key key value
    rw [same, if_pos rfl] at written
    exact written
  · intro known
    rcases map with ⟨entries, distinct⟩
    simp only [insert, alter, mk.injEq]
    exact alterEntries_eq_self known

/-- Changing the value of a new key adds an entry at the end. -/
theorem alterEntries_of_not_mem
    [DecidableEq κ]
    {key : κ}
    (change : Option ν → ν)
    {entries : List (κ × ν)}
    (fresh : key ∉ entries.map Prod.fst) :
    alterEntries key change entries = entries ++ [(key, change none)] := by
  induction entries with
  | nil =>
      rfl
  | cons entry rest inductionHypothesis =>
      rcases entry with ⟨other, value⟩
      simp only [List.map_cons, List.mem_cons, not_or] at fresh
      obtain ⟨different, freshLater⟩ := fresh
      simp [alterEntries, Ne.symm different,
        inductionHypothesis freshLater]

/-- Giving a new key a value adds an entry at the end. -/
theorem entries_insert_of_not_mem
    [DecidableEq κ]
    {map : OrderedMap κ ν}
    {key : κ}
    (fresh : key ∉ map.keys)
    (value : ν) :
    (map.insert key value).entries = map.entries ++ [(key, value)] :=
  alterEntries_of_not_mem (fun _ => value) fresh

/-- Where keys differ and are new, the others are still new once one has a value. -/
theorem forall_not_mem_keys_insert
    [DecidableEq κ]
    {map : OrderedMap κ ν}
    {key : κ}
    {others : List κ}
    (once : (key :: others).Nodup)
    (fresh : ∀ other ∈ key :: others, other ∉ map.keys)
    (value : ν) :
    ∀ other ∈ others, other ∉ (map.insert key value).keys := by
  obtain ⟨notAgain, _⟩ := List.nodup_cons.mp once
  obtain ⟨freshKey, freshOthers⟩ := List.forall_mem_cons.mp fresh
  intro other member
  rw [insert, keys_alter, if_neg freshKey, List.mem_append,
    List.mem_singleton, not_or]
  refine ⟨freshOthers other member, ?_⟩
  rintro rfl
  exact notAgain member

/-- Looking up a key after every value is changed. -/
theorem get?_mapValues
    [DecidableEq κ]
    (map : OrderedMap κ ν)
    (change : ν → μ)
    (key : κ) :
    (map.mapValues change).get? key = (map.get? key).map change := by
  simp [get?, mapValues, List.find?_map, Function.comp_def]

/-- The keys after every value is changed. -/
theorem keys_mapValues
    (map : OrderedMap κ ν)
    (change : ν → μ) :
    (map.mapValues change).keys = map.keys := by
  simp [keys, mapValues, Function.comp_def]

/-- The keys are those that have a value. -/
theorem mem_keys_iff_isSome_get?
    [DecidableEq κ]
    (map : OrderedMap κ ν)
    (key : κ) :
    key ∈ map.keys ↔ (map.get? key).isSome = true := by
  simp [keys, get?, List.find?_isSome]

/-- The values after every value is changed. -/
theorem values_mapValues
    (map : OrderedMap κ ν)
    (change : ν → μ) :
    (map.mapValues change).values = map.values.map change := by
  simp [values, mapValues, Function.comp_def]

end OrderedMap

end ShardAtlas
