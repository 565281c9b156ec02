/-
Settings from the environment, and how settings are loaded: an override
comes first, then an environment variable, then the usual value. The
variables are read before anything is overridden, so a variable that
cannot be read is an error even where its setting is overridden.
-/
import CronSchedule.Settings.Basic

namespace CronSchedule

/-- The environment variables that are set, by name. -/
abbrev Environment := List (Text × Text)

namespace Environment

/-- Sets a variable. -/
def set (env : Environment) (name value : Text) : Environment := (name, value) :: env.filter (·.1 != name)

/-- Removes a variable. -/
def unset (env : Environment) (name : Text) : Environment := env.filter (·.1 != name)

end Environment

namespace Setting

/-- The environment variable of a setting. -/
def variableName (s : Setting) : Text := "CRONSIGHT_".toList ++ Text.upper s.key

/-- The value of a setting from the text of its variable: an integer, or a level name in upper case. -/
def ofVariable (s : Setting) (text : Text) : Except SettingsError Value :=
  match s with
  | .logLevel => .ok (.text (Text.upper text))
  | _ =>
    match Numeral.signed? text with
    | some i => .ok (.int i)
    | none => .error (.badVariable s text)

end Setting

/-- The values of these settings whose variables are set, in order. -/
def Environment.valuesOf (env : Environment) : List Setting → Except SettingsError (List (Setting × Value))
  | [] => .ok []
  | s :: rest =>
    match env.lookup s.variableName with
    | none => env.valuesOf rest
    | some text => do
      let v ← s.ofVariable text
      return (s, v) :: (← env.valuesOf rest)

/-- The values of all settings whose variables are set. -/
def Environment.values (env : Environment) : Except SettingsError (List (Setting × Value)) := env.valuesOf Setting.all

/-- Loads settings from overrides, the environment and the usual values. -/
def Settings.load (env : Environment) (overrides : Overrides) : Except SettingsError Settings := do
  Call.loadSettings.take overrides
  let values ← env.values
  match Overrides.unknown? overrides with
  | some key => .error (.unknownSetting ⟨.makeSettings, key⟩)
  | none => ((Draft.usual.override values).override (Overrides.known overrides)).check

end CronSchedule
