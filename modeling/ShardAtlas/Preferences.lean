import ShardAtlas.Files

namespace ShardAtlas

/-!
# Preferences

What an operator chose is kept as text under a key: in memory, in a database, or
in a place that cannot be used. A database holds no null.
-/

/-- What is wrong with a place for preferences. -/
inductive PreferenceDefect
  | disk
  | notDatabase
  | unopenable
  | nullValue
  | file (fault : FileFault)
  deriving Repr, DecidableEq

/-- What is said about a defect. -/
def PreferenceDefect.description :
    PreferenceDefect →
    String
  | .disk => "disk I/O error"
  | .notDatabase => "file is not a database"
  | .unopenable => "unable to open database file"
  | .nullValue => "NOT NULL constraint failed: preferences.value"
  | .file fault => fault.message

/-- A use of preferences that failed; no key is at hand while they are opened. -/
structure PreferenceFault where
  key : Option String
  defect : PreferenceDefect
  deriving Repr, DecidableEq

/-- The text about a use that failed. -/
def PreferenceFault.message
    (fault : PreferenceFault) :
    String :=
  match fault.key with
  | none =>
      "Preference store unavailable: " ++ fault.defect.description
  | some key =>
      "Preference store unavailable for " ++ Text.quoted key ++ ": " ++
        fault.defect.description

/-- A place for preferences with what is in it. -/
inductive Preferences
  | memory (values : OrderedMap String (Option String))
  | database (values : OrderedMap String String)
  | broken (defect : PreferenceDefect)
  deriving Repr, DecidableEq

namespace Preferences

/-- Whether preferences can be used at all. -/
def opened :
    Preferences →
    Except PreferenceFault Unit
  | .broken defect =>
      .error { key := none, defect := defect }
  | _ =>
      .ok ()

/-- The text under a key. -/
def get
    (preferences : Preferences)
    (key : String) :
    Except PreferenceFault (Option String) :=
  match preferences with
  | .memory values =>
      .ok (values.get? key).join
  | .database values =>
      .ok (values.get? key)
  | .broken defect =>
      .error { key := some key, defect := defect }

/-- Put a text under a key. -/
def set
    (preferences : Preferences)
    (key : String)
    (value : Option String) :
    Except PreferenceFault Preferences :=
  match preferences, value with
  | .memory values, _ =>
      .ok (.memory (values.insert key value))
  | .database values, some text =>
      .ok (.database (values.insert key text))
  | .database _, none =>
      .error { key := some key, defect := .nullValue }
  | .broken defect, _ =>
      .error { key := some key, defect := defect }

end Preferences

end ShardAtlas
