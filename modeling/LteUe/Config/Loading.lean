import LteUe.Sim.Settings
import LteUe.Storage.Files

/-!
# Loading configurations and settings from files
-/

namespace LteUe

/-- Why a configuration was not loaded. -/
inductive ConfigLoadError where
  | unreadable (path : String) (cause : FileError)
  | invalid (path : String) (cause : StackConfig.TextError)
deriving DecidableEq, Repr

namespace ConfigLoadError

/-- The text of an error, without its cause. -/
def message : ConfigLoadError → String
  | unreadable path _ => s!"Cannot open configuration file: {path}"
  | invalid path _ => s!"Invalid configuration file: {path}"

end ConfigLoadError

def StackConfig.load (files : Files) (path : String) : Except ConfigLoadError StackConfig :=
  match files.readText path with
  | .error e => .error (.unreadable path e)
  | .ok text => match StackConfig.ofText text with
    | .ok c => .ok c
    | .error e => .error (.invalid path e)

inductive SettingsLoadError where
  | unreadable (path : String) (cause : FileError)
  | malformed (path : String)
deriving DecidableEq, Repr

namespace SettingsLoadError

def message : SettingsLoadError → String
  | unreadable path _ => s!"Failed to read simulator settings: {path}"
  | malformed path => s!"Failed to parse simulator settings: {path}"

end SettingsLoadError

def SimSettings.load (files : Files) (path : String) : Except SettingsLoadError SimSettings :=
  match files.readText path with
  | .error e => .error (.unreadable path e)
  | .ok text => match SimSettings.ofText? text with
    | some s => .ok s
    | none => .error (.malformed path)

end LteUe
