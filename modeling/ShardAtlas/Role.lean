import ShardAtlas.Text
import ShardAtlas.Text.Blank
import ShardAtlas.Text.UpperCase

namespace ShardAtlas

/-!
# Node roles

The roles a node can have, sets of them in a canonical form, and the reading of
role names. Names of data tiers count as the data role and unknown names as none.
-/

/-- The roles a node can have. -/
inductive NodeRole
  | master
  | data
  | ingest
  | coordinating
  | ml
  | remoteClusterClient
  deriving Repr, DecidableEq

namespace NodeRole

/-- All roles. -/
def all : List NodeRole :=
  [.master, .data, .ingest, .coordinating, .ml, .remoteClusterClient]

/-- All roles in the order of their names. -/
def alphabetical : List NodeRole :=
  [.coordinating, .data, .ingest, .master, .ml, .remoteClusterClient]

/-- Every role is in the list in the order of names. -/
theorem mem_alphabetical
    (role : NodeRole) :
    role ∈ alphabetical := by
  cases role <;> decide

/-- The name of a role. -/
def name :
    NodeRole →
    String
  | .master => "master"
  | .data => "data"
  | .ingest => "ingest"
  | .coordinating => "coordinating"
  | .ml => "ml"
  | .remoteClusterClient => "remote_cluster_client"

/-- The role with exactly this name. -/
def ofName?
    (text : String) :
    Option NodeRole :=
  all.find? fun role => role.name = text

/-- The start of the names of data tiers. -/
def tierStart : String :=
  "data_"

/-- A role name without blanks around it and in lower case. -/
def normalized
    (text : String) :
    String :=
  Text.lowerCase (Text.withoutBlanks text)

/--
The role that a name stands for; a data tier stands for the data role.

What follows the first half of a surrogate pair tells nothing about a data tier,
and there is no such half in the name of a role.
-/
def read?
    (text : Text) :
    Option NodeRole :=
  if tierStart.toList.isPrefixOf (normalized text.lead).toList then
    some .data
  else
    text.whole?.bind fun name => ofName? (normalized name)

end NodeRole

/--
A set of roles.

The members are listed in the order of their names, so sets with the same
members are equal.
-/
structure RoleSet where
  members : List NodeRole
  canonical :
    members =
      NodeRole.alphabetical.filter fun role => decide (role ∈ members)
  deriving Repr, DecidableEq

namespace RoleSet

/-- The set of the roles in a list. -/
def ofList
    (roles : List NodeRole) :
    RoleSet :=
  { members :=
      NodeRole.alphabetical.filter fun role => decide (role ∈ roles)
    canonical := by
      apply List.filter_congr
      intro role member
      simp [List.mem_filter, member] }

/-- The set without roles. -/
def empty : RoleSet :=
  ofList []

instance : Inhabited RoleSet :=
  ⟨empty⟩

/-- Whether a role is in a set. -/
def contains
    (roles : RoleSet)
    (role : NodeRole) :
    Bool :=
  decide (role ∈ roles.members)

/-- The roles that some names stand for. -/
def read
    (names : List Text) :
    RoleSet :=
  ofList (names.filterMap NodeRole.read?)

/-- The names of the members, in their order. -/
def names
    (roles : RoleSet) :
    List String :=
  roles.members.map NodeRole.name

/-- The members of the set of a list are the members of the list. -/
theorem contains_ofList
    (roles : List NodeRole)
    (role : NodeRole) :
    (ofList roles).contains role = decide (role ∈ roles) := by
  simp [contains, ofList, List.mem_filter, NodeRole.mem_alphabetical]

/-- Sets with the same members are equal. -/
theorem ext_contains
    {first second : RoleSet}
    (same : ∀ role, first.contains role = second.contains role) :
    first = second := by
  have lists : first.members = second.members := by
    rw [first.canonical, second.canonical]
    apply List.filter_congr
    intro role _
    exact same role
  cases first
  cases second
  simp only at lists
  subst lists
  rfl

end RoleSet

end ShardAtlas
