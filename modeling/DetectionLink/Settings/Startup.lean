import DetectionLink.Environment.DotFile
import DetectionLink.Settings.File
import DetectionLink.Settings.Overrides
import DetectionLink.Text.Quoted

/-!
# Settings at start-up

At start-up the environment takes in a file of variables, then a settings file is loaded, then
variables override it.

* `Settings.defaultPath?`, `Settings.path?`: where the settings file is;
* `Settings.fromEnvironment`: the settings, with the environment and the log records they leave.
-/

namespace DetectionLink

/-- What start-up leaves. -/
structure Startup where
  outcome : Except SettingsError Settings
  env : Environment
  records : List Record

namespace Settings

def directoryName : Bytes := Utf8.ofString "detection-client"

def fileName : Bytes := Utf8.ofString "client.toml"

/-- Where the settings file is unless a variable says otherwise; nowhere without a directory. -/
def defaultPath? (D : UserDirectories) (env : Environment) : Option Bytes :=
  (D.config? env).map fun directory => Path.join (Path.join directory directoryName) fileName

def path? (D : UserDirectories) (env : Environment) : Option Bytes :=
  match env.value? Variable.config with
  | some path => some path
  | none => defaultPath? D env

/-- A place as a path. -/
def placeText (place : Place) : List Char :=
  Utf8.lossy (place.flatMap fun name => Path.slash :: name)

/-- The environment once a file of variables is taken in, and the log records of that. -/
def loadVariables (f : Files) (working : Place) (env : Environment) :
    Except DotFile.Unsettable (Environment × List Record) :=
  match DotFile.find? f working.reverse with
  | none => .ok (env, [])
  | some (place, content) =>
    if f.canOpen then
      (DotFile.load env content).map fun loaded => (loaded.2,
        if loaded.1 then [.info s!"Loaded .env from: {quoted (placeText place)}"] else [])
    else .ok (env, [])

/-- The settings of the file that an environment names. -/
def loadNamed (W : Wording) (D : UserDirectories) (f : Files) (working : Place)
    (env : Environment) : Except SettingsError Settings × List Record :=
  match path? D env with
  | some path => load W f working path
  | none => (.ok .default, [.warn "No config directory on this platform, using defaults"])

/-- The settings of an environment. -/
def resolve (W : Wording) (D : UserDirectories) (f : Files) (working : Place)
    (env : Environment) : Except SettingsError Settings × List Record :=
  let loaded := loadNamed W D f working env
  match loaded.1 with
  | .error e => (.error e, loaded.2)
  | .ok s =>
    let overridden := s.override env
    ((overridden.1.mapError SettingsFault.toError).map fun _ => overridden.2, loaded.2)

/-- Start-up as a whole. It does not come back when a file of variables stops the process. -/
def fromEnvironment (W : Wording) (D : UserDirectories) (f : Files) (working : Place)
    (env : Environment) : Except DotFile.Unsettable Startup :=
  (loadVariables f working env).map fun taken =>
    let resolved := resolve W D f working taken.1
    ⟨resolved.1, taken.1, taken.2 ++ resolved.2⟩

end Settings
end DetectionLink
