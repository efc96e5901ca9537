import DetectionLink.Environment.Basic
import DetectionLink.Settings.Validation
import DetectionLink.Text.Blank

/-!
# Settings from the environment

Three variables override what a settings file says. They are taken one after the other, and what
was set before a variable that cannot be read stays set.

* `Settings.override`: the settings after the variables, validated.
-/

namespace DetectionLink

namespace Variable

def config : String := "DETECTION_CONFIG"
def socketPath : String := "DETECTION_SOCKET_PATH"
def realtime : String := "DETECTION_REALTIME"
def confidenceThreshold : String := "DETECTION_CONFIDENCE_THRESHOLD"

end Variable

/-- A switch in one of the usual words, in any case. -/
def switch? (raw : List Char) : Option Bool :=
  match String.ofList ((trim raw).map Char.toLower) with
  | "1" | "true" | "yes" | "on" => some true
  | "0" | "false" | "no" | "off" => some false
  | _ => none

/-- Why a text is no number. -/
def numberFault (text : List Char) : String :=
  if text = [] then "cannot parse float from empty string" else "invalid float literal"

namespace Settings

/-- The socket path may be any bytes, an empty value included. -/
def overrideSocketPath (env : Environment) (s : Settings) : Settings :=
  match env.value? Variable.socketPath with
  | some path => { s with link := { s.link with socketPath := path } }
  | none => s

/-- A value that is no text counts as not set. -/
def overrideRealtime (env : Environment) (s : Settings) : Except SettingsFault Settings :=
  match env.text? Variable.realtime with
  | none => .ok s
  | some raw =>
    match switch? raw with
    | some realtime => .ok { s with session := { s.session with realtime } }
    | none => .error (.notBoolean Variable.realtime (String.ofList raw))

/-- A value that is no text counts as not set. -/
def overrideThreshold (env : Environment) (s : Settings) : Except SettingsFault Settings :=
  match env.text? Variable.confidenceThreshold with
  | none => .ok s
  | some raw =>
    match Decimal.ofText? (trim raw) with
    | some threshold => .ok { s with detector := ⟨threshold⟩ }
    | none => .error (.notNumber Variable.confidenceThreshold (numberFault (trim raw)))

/-- The settings after the variables, and the first fault of a variable or of the outcome. -/
def override (env : Environment) (s : Settings) : Except SettingsFault Unit × Settings :=
  let s := s.overrideSocketPath env
  match s.overrideRealtime env with
  | .error fault => (.error fault, s)
  | .ok s =>
    match s.overrideThreshold env with
    | .error fault => (.error fault, s)
    | .ok s => (s.validate, s)

end Settings
end DetectionLink
