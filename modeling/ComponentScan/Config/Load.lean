import ComponentScan.Config.Override
import ComponentScan.Config.Text
import ComponentScan.Files.Basic

/-!
# Loading configurations

A configuration is read from a file and checked; then the variables of the environment take the
place of its settings, and it is checked again.
-/

namespace ComponentScan.Config

/-- Refuses a configuration with a setting that is out of range. -/
def checked (c : Config) : Except ScanError Config :=
  match c.validate with
  | .ok () => .ok c
  | .error e => .error (.config e)

/-- The configuration in a file. -/
def ofFile (files : Files) (path : String) : Except ScanError Config :=
  match files.readText path with
  | .error .notFound => .error (.config (.fileNotFound path))
  | .error e => .error (.io e)
  | .ok text =>
    match parse text with
    | .error e => .error (.config e)
    | .ok c => c.checked

/-- Lets the variables of an environment take the place of settings. -/
def withEnvironment (c : Config) (env : Environment) : Reported ScanError Config :=
  ⟨(c.override env).checked, c.overrideJournal env⟩

/-- The configuration in a file, with the variables of an environment. -/
def load (files : Files) (env : Environment) (path : String) : Reported ScanError Config := do
  (← Reported.ofExcept (ofFile files path)).withEnvironment env

/-- The configuration in a file, or the default one if there is no such file, with the variables
of an environment. -/
def loadOrDefault (files : Files) (env : Environment) (path : String) :
    Reported ScanError Config :=
  match ofFile files path with
  | .error (.config (.fileNotFound _)) => withEnvironment {} env
  | r => Reported.ofExcept r >>= fun c => c.withEnvironment env

end ComponentScan.Config
