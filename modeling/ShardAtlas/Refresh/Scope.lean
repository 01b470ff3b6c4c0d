namespace ShardAtlas.Refresh

/-!
# Scopes of a refresh

A refresh is announced to caches before it starts. The scope says which clusters
it is about. The caches are told one after the other, and one that fails keeps
the rest from being told.
-/

/-- The clusters that a refresh is about. -/
inductive Scope
  | everything
  | named (clusters : List String)
  | within (text : String)
  deriving Repr, DecidableEq

/-- Whether some characters occur in a row in others. -/
def occursIn
    (part : List Char) :
    List Char →
    Bool
  | [] =>
      part.isEmpty
  | char :: rest =>
      part.isPrefixOf (char :: rest) || occursIn part rest

/-- Whether a scope is about a cluster. -/
def Scope.covers
    (scope : Scope)
    (cluster : String) :
    Bool :=
  match scope with
  | .everything => true
  | .named clusters => clusters.contains cluster
  | .within text => occursIn cluster.toList text.toList

/-- What a refresh is asked for: every cluster, a single one, or those of a list. -/
inductive Request
  | everything
  | cluster (name : String)
  | clusters (names : List String)
  deriving Repr, DecidableEq

/-- The scope that a refresh is announced with. -/
def Request.scope :
    Request →
    Scope
  | .everything => .everything
  | .cluster name => .named [name]
  | .clusters names => .named names

/-- How a cache is told about a refresh, which may fail. -/
abbrev Announce
    (σ : Type u)
    (ε : Type v) :=
  Scope →
  σ →
  σ × Except ε Unit

/-- Tell caches in turn, up to the first that fails. -/
def announceAll
    (scope : Scope) :
    List (Announce σ ε) →
    σ →
    σ × Except ε Unit
  | [], state =>
      (state, .ok ())
  | announce :: rest, state =>
      match announce scope state with
      | (told, .ok ()) =>
          announceAll scope rest told
      | (told, .error cause) =>
          (told, .error cause)

end ShardAtlas.Refresh
