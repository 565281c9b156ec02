/-
Settings of an engine. A draft gives each setting a value of no fixed
type; settings are what a draft that passes the checks comes to. An update
is checked as a whole, so it takes effect as a whole or not at all. A
refusal shows what it is for, so it gives way to an integer that is too
long to be shown.
-/
import CronSchedule.Settings.Value
import CronSchedule.Log.Level

namespace CronSchedule

/-- How many runs are looked for if no count is given. -/
def usualRunCount : Nat := 5

/-- How many runs an engine looks for at most. -/
def greatestRunCount : Nat := 20

/-- The minutes of a leap year, scanned if no other limit is given. -/
def leapYearMinutes : Nat := 366 * 24 * 60

/-- The four settings, in the order in which they are read. -/
inductive Setting where
  | defaultRunCount
  | maxRunCount
  | scanLimit
  | logLevel
deriving DecidableEq, Repr

namespace Setting

def all : List Setting := [.defaultRunCount, .maxRunCount, .scanLimit, .logLevel]

/-- The identifier of a setting. -/
def key : Setting → Text
  | .defaultRunCount => "default_run_count".toList
  | .maxRunCount => "max_run_count".toList
  | .scanLimit => "scan_limit_minutes".toList
  | .logLevel => "log_level".toList

/-- The setting with this identifier. -/
def ofKey? (key : Text) : Option Setting := all.find? (·.key == key)

end Setting

/-- What takes settings by their identifiers. -/
inductive Call where
  | buildEngine
  | loadSettings
  | makeSettings
  | updateSettings
deriving DecidableEq, Repr

namespace Call

/-- The call as messages name it. -/
def name : Call → Text
  | .buildEngine => "CronEngine.__init__".toList
  | .loadSettings => "CronsightSettings.load".toList
  | .makeSettings => "CronsightSettings.__init__".toList
  | .updateSettings => "CronsightSettings.update".toList

/-- The identifier under which a call has what it is made on. Nothing else can be given under it. -/
def ownKey : Call → Text
  | .loadSettings => "cls".toList
  | _ => "self".toList

end Call

/-- An identifier under which a call takes no value. -/
structure RefusedKey where
  call : Call
  key : Text
deriving DecidableEq, Repr

def RefusedKey.message (r : RefusedKey) : Text :=
  let found := if r.key = r.call.ownKey then "multiple values for argument" else "an unexpected keyword argument"
  r.call.name ++ "() got ".toList ++ found.toList ++ " '".toList ++ r.key ++ "'".toList

/-- Why settings are refused. -/
inductive SettingsError where
  | notPositive (setting : Setting) (value : Value)
  | defaultAboveMax (default max : Nat)
  | unknownLevel (value : Value)
  | badVariable (setting : Setting) (text : Text)
  | unknownSetting (refused : RefusedKey)
  | tooLong (numeral : Numeral.TooLong)
deriving Repr

namespace SettingsError

def message : SettingsError → Text
  | .notPositive setting value =>
    value.shown ++ " is not a valid value for ".toList ++ Text.quoted setting.key ++
      ": must be a positive integer".toList
  | .defaultAboveMax default max =>
    Text.quoted Setting.defaultRunCount.key ++ " (".toList ++ Numeral.ofNat default ++ ") must not exceed ".toList ++
      Text.quoted Setting.maxRunCount.key ++ " (".toList ++ Numeral.ofNat max ++ ")".toList
  | .unknownLevel value =>
    value.shown ++ " is not a valid value for ".toList ++ Text.quoted Setting.logLevel.key
  | .badVariable setting text =>
    Text.quoted text ++ " is not a valid value for ".toList ++ Text.quoted setting.key
  | .unknownSetting refused => refused.message
  | .tooLong numeral => numeral.message

/-- The integers in the message of a refusal. -/
def integers : SettingsError → List Int
  | .notPositive _ value => value.integers
  | .defaultAboveMax default max => [default, max]
  | .unknownLevel value => value.integers
  | _ => []

/-- Every integer in the message can be shown. -/
def showable (e : SettingsError) : Bool := e.integers.all Numeral.showable

/-- The error that a refusal is raised as. -/
def raised (e : SettingsError) : SettingsError := if e.showable then e else .tooLong .toShow

theorem raised_of_showable {e : SettingsError} (h : e.showable = true) : e.raised = e := if_pos h

end SettingsError

/-- Settings that have been checked. -/
structure Settings where
  defaultRunCount : Nat
  maxRunCount : Nat
  scanLimit : Nat
  logLevel : Text
deriving DecidableEq, Repr

/-- A value for each setting, not checked. -/
structure Draft where
  defaultRunCount : Value
  maxRunCount : Value
  scanLimit : Value
  logLevel : Value
deriving Repr

namespace Draft

/-- The draft with one value replaced. -/
def set (d : Draft) : Setting → Value → Draft
  | .defaultRunCount, v => { d with defaultRunCount := v }
  | .maxRunCount, v => { d with maxRunCount := v }
  | .scanLimit, v => { d with scanLimit := v }
  | .logLevel, v => { d with logLevel := v }

/-- The value of one setting. -/
def get (d : Draft) : Setting → Value
  | .defaultRunCount => d.defaultRunCount
  | .maxRunCount => d.maxRunCount
  | .scanLimit => d.scanLimit
  | .logLevel => d.logLevel

/-- The draft with these values replaced. -/
def override (d : Draft) (values : List (Setting × Value)) : Draft := values.foldl (fun d (s, v) => d.set s v) d

/-- The usual value of each setting. -/
def usual : Draft := ⟨.int usualRunCount, .int greatestRunCount, .int leapYearMinutes, .text "WARNING".toList⟩

/-- A positive integer; a truth value is none. -/
def positive (setting : Setting) : Value → Except SettingsError Nat
  | .int i => if 1 ≤ i then .ok i.toNat else .error (SettingsError.notPositive setting (.int i)).raised
  | v => .error (SettingsError.notPositive setting v).raised

/-- The name of a level. -/
def levelName : Value → Except SettingsError Text
  | .text t => if (Log.levelNumber? t).isSome then .ok t else .error (SettingsError.unknownLevel (.text t)).raised
  | v => .error (SettingsError.unknownLevel v).raised

/-- The settings a draft comes to: three positive integers, the first not above the second, and a level name. -/
def check (d : Draft) : Except SettingsError Settings := do
  let defaultRunCount ← positive .defaultRunCount d.defaultRunCount
  let maxRunCount ← positive .maxRunCount d.maxRunCount
  let scanLimit ← positive .scanLimit d.scanLimit
  if maxRunCount < defaultRunCount then .error (SettingsError.defaultAboveMax defaultRunCount maxRunCount).raised
  else do
    let level ← levelName d.logLevel
    .ok ⟨defaultRunCount, maxRunCount, scanLimit, level⟩

end Draft

/-- Values for settings by their identifiers. -/
abbrev Overrides := List (Text × Value)

/-- The overrides of settings; other identifiers are left out. -/
def Overrides.known (overrides : Overrides) : List (Setting × Value) :=
  overrides.filterMap fun (key, v) => (Setting.ofKey? key).map (·, v)

/-- The first identifier that is that of no setting. -/
def Overrides.unknown? (overrides : Overrides) : Option Text :=
  (overrides.find? fun entry => (Setting.ofKey? entry.1).isNone).map (·.1)

/-- A call takes the overrides if nothing is given under its own identifier. -/
def Call.take (c : Call) (overrides : Overrides) : Except SettingsError Unit :=
  if c.ownKey ∈ overrides.map (·.1) then .error (.unknownSetting ⟨c, c.ownKey⟩) else .ok ()

theorem Call.take_of_mem {c : Call} {overrides : Overrides} (h : c.ownKey ∈ overrides.map (·.1)) :
    c.take overrides = .error (.unknownSetting ⟨c, c.ownKey⟩) := if_pos h

theorem Call.take_of_not_mem {c : Call} {overrides : Overrides} (h : c.ownKey ∉ overrides.map (·.1)) :
    c.take overrides = .ok () := if_neg h

namespace Settings

/-- The settings as a draft. -/
def toDraft (s : Settings) : Draft :=
  ⟨.int s.defaultRunCount, .int s.maxRunCount, .int s.scanLimit, .text s.logLevel⟩

/-- The settings with these values replaced. Identifiers of no setting are ignored, but for that of the call itself. -/
def update (s : Settings) (overrides : Overrides) : Except SettingsError Settings := do
  Call.updateSettings.take overrides
  (s.toDraft.override (Overrides.known overrides)).check

/-- The number of the level below which no record is kept. -/
def threshold? (s : Settings) : Option Nat := Log.levelNumber? s.logLevel

end Settings
end CronSchedule
