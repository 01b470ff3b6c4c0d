import ShardAtlas.OrderedMap
import ShardAtlas.Payload.Scalar

namespace ShardAtlas.Payload

/-!
# Checking arrays and objects

Arrays become lists, objects become maps or records. A record is checked field
by field; members that no field asks for are ignored.
-/

/-- An array whose items all pass a check. -/
def listOf
    (check : Check α) :
    Check (List α)
  | .array items =>
      Checked.items
        (fun position item => (check item).within (.item position))
        0 items
  | _ =>
      .fault .notList

/-- An object whose values all pass a check. -/
def mapOf
    (check : Check α) :
    Check (OrderedMap String α)
  | .object members =>
      (Checked.items
        (fun _ entry =>
          ((check entry.2).map (entry.1, ·)).within (.member entry.1))
        0 members).map OrderedMap.ofList
  | _ =>
      .fault .notDictionary

/-- The members of an object. -/
abbrev Members :=
  List (String × Json)

/-- A check of the members of an object. -/
abbrev MemberCheck
    (α : Type u) :=
  Members →
  Checked α

/--
The name of a field.

A field may have a second name, under which it is looked for after the first. An
issue shows the name that was found, and the first if there is none.
-/
structure FieldName where
  preferred : String
  other : Option String := none
  deriving Repr, DecidableEq

/-- The value of a field with the name under which it is found. -/
def FieldName.find?
    (field : FieldName)
    (members : Members) :
    Option (String × Json) :=
  let valueOf? (name : String) : Option (String × Json) :=
    (members.lookup name).map (name, ·)
  (valueOf? field.preferred).or (field.other.bind valueOf?)

/-- A field that must be there. -/
def required
    (field : FieldName)
    (check : Check α) :
    MemberCheck α :=
  fun members =>
    match field.find? members with
    | some (name, value) =>
        (check value).within (.member name)
    | none =>
        (Checked.fault .missing).within (.member field.preferred)

/-- A field that has a value of its own when it is left out. -/
def optional
    (field : FieldName)
    (fallback : α)
    (check : Check α) :
    MemberCheck α :=
  fun members =>
    match field.find? members with
    | some (name, value) =>
        (check value).within (.member name)
    | none =>
        .passed fallback

/-- An object whose members pass a check, under the name of its kind. -/
def record
    (kind : String)
    (check : MemberCheck α) :
    Check α
  | .object members => check members
  | _ => .fault (.notObject kind)

end ShardAtlas.Payload
