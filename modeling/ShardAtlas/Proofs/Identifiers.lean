import ShardAtlas.Snapshot.Placement

namespace ShardAtlas

/-!
# What identifiers stand for

Identifiers are entered one after the other, and one that is entered already stays
as it is. So an identifier stands for the id with which it is entered first.
-/

namespace OrderedMap

/-- Enter some keys with their values, unless they are entered already. -/
def entered
    [DecidableEq κ]
    (known : OrderedMap κ ν)
    (entries : List (κ × ν)) :
    OrderedMap κ ν :=
  entries.foldl (fun known entry => known.insertNew entry.1 entry.2) known

/-- A key has its old value, or the one with which it is entered first. -/
theorem get?_entered
    [DecidableEq κ]
    (known : OrderedMap κ ν)
    (entries : List (κ × ν))
    (key : κ) :
    (known.entered entries).get? key =
      (known.get? key).or
        ((entries.find? fun entry => entry.1 = key).map Prod.snd) := by
  induction entries generalizing known with
  | nil =>
      simp [entered]
  | cons entry rest inductionHypothesis =>
      rcases entry with ⟨first, value⟩
      have unfolded :
          known.entered ((first, value) :: rest) =
            (known.insertNew first value).entered rest :=
        rfl
      rw [unfolded, inductionHypothesis, get?_insertNew]
      by_cases same : first = key
      · subst same
        cases known.get? first <;> simp
      · have different : key ≠ first :=
          fun equal => same equal.symm
        simp [same, different]

end OrderedMap

/-- The name of a node, and its address if there is one, with the id of the node. -/
def Node.callings
    (node : Node) :
    List (Text × String) :=
  (node.name, node.id) ::
    match node.address with
    | some address =>
        if address = "" then
          []
        else
          [(address, node.id)]
    | none =>
        []

/-- The ids of nodes come first, then what the nodes are called. -/
theorem identifiers_eq_entered
    (nodes : List Node) :
    identifiers nodes =
      OrderedMap.empty.entered
        (nodes.map (fun node => ((node.id : Text), node.id)) ++
          nodes.flatMap Node.callings) := by
  simp only [OrderedMap.entered, List.foldl_append, List.foldl_map,
    List.foldl_flatMap]
  unfold identifiers
  dsimp only
  congr 1
  funext known node
  unfold Node.callings
  cases node.address with
  | none =>
      rfl
  | some address =>
      by_cases blank : address = "" <;> simp [blank]

/-- Whatever is entered for a node stands for the id of that node. -/
theorem Node.snd_of_mem_callings
    {node : Node}
    {entry : Text × String}
    (member : entry ∈ node.callings) :
    entry.2 = node.id := by
  unfold callings at member
  rcases List.mem_cons.mp member with isName | isAddress
  · subst isName
    rfl
  · split at isAddress
    · split at isAddress
      · simp at isAddress
      · simp only [List.mem_singleton] at isAddress
        subst isAddress
        rfl
    · simp at isAddress

/-- An identifier stands for the id of a node. -/
theorem mem_ids_of_identifiers
    {nodes : List Node}
    {identifier : Text}
    {id : String}
    (known : (identifiers nodes).get? identifier = some id) :
    id ∈ nodes.map Node.id := by
  rw [identifiers_eq_entered, OrderedMap.get?_entered] at known
  simp only [OrderedMap.get?_empty, Option.none_or,
    Option.map_eq_some_iff] at known
  obtain ⟨entry, found, idShape⟩ := known
  subst id
  have member := List.mem_of_find?_eq_some found
  rcases List.mem_append.mp member with isId | isCalling
  · obtain ⟨node, nodeMember, entryShape⟩ := List.mem_map.mp isId
    subst entry
    exact List.mem_map_of_mem nodeMember
  · obtain ⟨node, nodeMember, entryMember⟩ :=
      List.mem_flatMap.mp isCalling
    rw [Node.snd_of_mem_callings entryMember]
    exact List.mem_map_of_mem nodeMember

/-- A reference stands for the id of a node. -/
theorem mem_ids_of_resolveId?
    {nodes : List Node}
    {reference : Option Text}
    {id : String}
    (resolved : resolveId? (identifiers nodes) reference = some id) :
    id ∈ nodes.map Node.id := by
  unfold resolveId? at resolved
  split at resolved
  · simp at resolved
  · split at resolved
    · simp at resolved
    · exact mem_ids_of_identifiers resolved

end ShardAtlas
