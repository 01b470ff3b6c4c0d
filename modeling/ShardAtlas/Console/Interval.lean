import ShardAtlas.Console.Screen
import ShardAtlas.Preferences.Database
import ShardAtlas.Refresh.Remembered
import ShardAtlas.Settings

namespace ShardAtlas.Console

/-!
# Showing and choosing the refresh interval

The interval is kept in the database for preferences, where the next command
finds it. An interval that is not on offer is shown once and then forgotten.
-/

/-- The table of the intervals on offer. -/
def choiceTable : Table :=
  { title := "Refresh Intervals"
    columns := ["Label", "Milliseconds"]
    rows :=
      Refresh.choices.map fun choice =>
        [choice.label, Text.integer choice.interval] }

/-- What a clock is set up with by the settings. -/
def clockSettings
    (settings : Settings) :
    Refresh.ClockSettings :=
  { defaultInterval := settings.defaultInterval
    settleWindow := settings.settleWindow
    preferenceKey := settings.intervalKey }

/-- The database in the home directory. -/
def homeDatabase : Path :=
  .parse "~/.clusterview/preferences.db"

/-- The path of a database with its home directory, or a crash. -/
def needHome
    (homes : Path.Homes)
    (path : Path) :
    Deed Path :=
  match path.atHome? homes with
  | some found => pure found
  | none => throw (.byCrash .homeless)

/-- Put the values of a database into its file. -/
def storeDatabase
    (path : Path)
    (values : OrderedMap String String) :
    Deed Unit :=
  modify fun screen =>
    { screen with files := screen.files.storeDatabase path values }

/-- The values of a database, which is made if it is not there. -/
def openDatabase
    (path : Path) :
    Deed (OrderedMap String String) := do
  let (files, opened) := (← get).files.openDatabase path
  modify fun screen => { screen with files := files }
  match opened with
  | .error defect =>
      let fault : PreferenceFault :=
        { key := none
          defect := defect }
      refuse (styled "red" (escaped fault.message))
  | .ok values =>
      pure values

/-- A clock with the interval that an operator names, and the values that remember it. -/
def chosenInterval
    (values : OrderedMap String String)
    (clock : Refresh.Clock)
    (text : String) :
    Except Refresh.IntervalFault
      (Refresh.Clock × Option Preferences × List Message) := do
  let interval ← Refresh.readChoice text
  clock.choose .ofPreferences (some (.database values))
    (.integer interval) 0

/-- What is said, or a crash where a number in it is too long. -/
def needSaid
    (said : Except Text.LongInteger α) :
    Deed α :=
  needComputed (said.mapError .longInteger)

/-- Set the interval of a clock and remember it. -/
def chooseInterval
    (path : Path)
    (values : OrderedMap String String)
    (clock : Refresh.Clock)
    (text : String) :
    Deed Refresh.Clock := do
  match chosenInterval values clock text with
  | .error fault =>
      refuse (styled "red" (escaped (← needSaid fault.message)))
  | .ok (changed, preferences, warnings) =>
      match preferences with
      | some (.database stored) => storeDatabase path stored
      | _ => pure ()
      warn warnings
      let _ ← needSaid (Refresh.settingNote changed.interval)
      pure changed

/-- Show the refresh interval, after setting it if one is chosen. -/
def showInterval
    (homes : Path.Homes)
    (settings : Settings)
    (choice : Option String)
    (database : Option Path) :
    Deed Unit := do
  let path ←
    needHome homes ((database.or settings.preferences).getD homeDatabase)
  let values ← openDatabase path
  let (clock, warnings) :=
    Refresh.Clock.recalled (clockSettings settings)
      (some (.database values)) 0
  warn warnings
  let clock ←
    match choice with
    | some text => chooseInterval path values clock text
    | none => pure clock
  let label ← needSaid (Refresh.label clock.interval)
  printLine
    ("Refresh interval: " ++ label ++ " (" ++ clock.phase.name ++ ")")

end ShardAtlas.Console
