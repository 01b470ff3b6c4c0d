import ShardAtlas.Path
import ShardAtlas.Payload.Container

namespace ShardAtlas

/-!
# Settings

Each setting has a default, may be set by a variable of the environment and may
be overridden by the caller. Names are compared without regard to case. A value
that is overridden is never looked at, and all other faults are reported at once.
-/

open Payload (Check Checked Members optional)

/--
The settings of the program.

Without a path, preferences are kept in the home directory.
-/
structure Settings where
  defaultInterval : Int := 15000
  settleWindow : Int := 500
  intervalKey : String := "clusterview-refresh-interval"
  seriesCapacity : Int := 20
  preferences : Option Path := none
  logLevel : String := "WARNING"
  deriving Repr, DecidableEq

namespace Settings

/-- The names of the settings, in the order of their checks. -/
def names : List String :=
  [ "default_refresh_interval_ms", "settle_window_ms",
    "refresh_interval_key", "series_capacity", "preferences_path",
    "log_level" ]

/-- The start of the names of variables in the environment. -/
def variableStart : String :=
  "CLUSTERVIEW_"

/-- Whether two names differ at most in case, the first being in lower case. -/
def isCalled
    (name given : String) :
    Bool :=
  Text.lowerCase given == name

/-- The overriding value of a setting; the first one counts. -/
def override?
    (overrides : Members)
    (name : String) :
    Option Json :=
  (overrides.find? fun given => isCalled name given.1).map Prod.snd

/-- The value of a setting in the environment; the last variable counts. -/
def surrounding?
    (environment : List (String × String))
    (name : String) :
    Option Json :=
  (environment.reverse.find? fun given =>
      isCalled (Text.lowerCase variableStart ++ name) given.1).map
    fun given => .text given.2

/-- The values that are set, by the names of the settings. -/
def given
    (overrides : Members)
    (environment : List (String × String)) :
    Members :=
  names.filterMap fun name =>
    ((override? overrides name).or (surrounding? environment name)).map
      (name, ·)

/-- The settings where nothing is set. -/
def unset : Settings :=
  {}

/-- A path by its text. -/
def pathOfText :
    Check Path
  | .text content => (Payload.whole content).map .parse
  | _ => .fault .notPath

/-- Check the values of the settings. -/
def fields
    (members : Members) :
    Checked Settings :=
  (fun defaultInterval settleWindow intervalKey seriesCapacity preferences
      logLevel =>
    { defaultInterval := defaultInterval
      settleWindow := settleWindow
      intervalKey := intervalKey
      seriesCapacity := seriesCapacity
      preferences := preferences
      logLevel := logLevel }) <$>
    optional ⟨"default_refresh_interval_ms", none⟩ unset.defaultInterval
      Payload.count members <*>
    optional ⟨"settle_window_ms", none⟩ unset.settleWindow Payload.count
      members <*>
    optional ⟨"refresh_interval_key", none⟩ unset.intervalKey
      Payload.wholeText members <*>
    optional ⟨"series_capacity", none⟩ unset.seriesCapacity
      (Payload.integerFrom 1) members <*>
    optional ⟨"preferences_path", none⟩ unset.preferences
      (fun value => (pathOfText value).map some) members <*>
    optional ⟨"log_level", none⟩ unset.logLevel Payload.wholeText members

/-- Refuse overriding values that belong to no setting. -/
def refuseUnknown
    (overrides : Members) :
    Checked (List Unit) :=
  Checked.items
    (fun _ name =>
      (Checked.fault .unknownName).within (.member name))
    0
    ((overrides.map Prod.fst).filter fun given =>
      !names.any fun name => isCalled name given)

/-- The settings under some overriding values and an environment. -/
def load
    (overrides : Members)
    (environment : List (String × String)) :
    Checked Settings :=
  (fun settings _ => settings) <$>
    fields (given overrides environment) <*>
    refuseUnknown overrides

end Settings

end ShardAtlas
