import DetectionLink.Environment.Basic
import DetectionLink.Error
import DetectionLink.Record
import DetectionLink.Text.Blank

/-!
# The process log

Records go to the console, coloured by level, and to a file, in columns. The log is set up once in a
process; a threshold from the environment holds for both outputs.

* `thresholdOf`: the threshold that a level name sets;
* `Journal.setUp`: setting up the log, creating its directory if needed;
* `Journal.note`: where a record goes.
-/

namespace DetectionLink

/-! ## Thresholds -/

/-- The threshold unless a name says otherwise. -/
def defaultThreshold : Option Level := some .debug

/-- A level name in any case; an unknown name leaves the default. -/
def thresholdOf (raw : Option (List Char)) : Option Level :=
  match raw.map fun raw => String.ofList ((trim raw).map Char.toLower) with
  | some "off" => none
  | some "error" => some .error
  | some "warn" => some .warn
  | some "info" => some .info
  | some "debug" => some .debug
  | some "trace" => some .trace
  | _ => defaultThreshold

/-- A threshold as the log names it in a sentence. -/
def thresholdText : Option Level → String
  | none => "Off"
  | some .error => "Error"
  | some .warn => "Warn"
  | some .info => "Info"
  | some .debug => "Debug"
  | some .trace => "Trace"

namespace Variable

def logDirectory : String := "DETECTION_LOG_DIR"
def logLevel : String := "DETECTION_LOG_LEVEL"

end Variable

/-! ## Lines -/

/-- The terminal's number for the colour of a level. -/
def Level.colour : Level → Nat
  | .error => 31
  | .warn => 33
  | .info => 32
  | .debug => 34
  | .trace => 35

namespace Record

/-- A console line without the time in front of it. -/
def consoleText (r : Record) : String :=
  s!"\x1b[{r.level.colour}m{r.level.name}\x1b[0m {r.message}"

/-- A line of the log file: time, level, module, position and message between tabs. -/
def fileText (stamp : String) (r : Record) : String :=
  s!"{stamp}\t{r.level.name}\tdetection_link\t-\t{r.message}\n"

end Record

/-! ## The journal -/

/-- Where records go. -/
inductive Sink
  /-- No log is set up. -/
  | nowhere
  /-- The process has a log of another kind, which stays silent. -/
  | foreign
  | installed (threshold : Option Level) (file : Place)
deriving DecidableEq

structure Journal where
  /-- Whether setting up was tried, with success or not. -/
  called : Bool
  sink : Sink
  files : Files
  /-- Records on the console, latest first. -/
  console : List Record

namespace Journal

def ofFiles (files : Files) : Journal := ⟨false, .nowhere, files, []⟩

def fileName : Bytes := Utf8.ofString "detection-streamer.log"

/-- The log directory of an environment; an empty value counts as not set. -/
def directory (D : UserDirectories) (env : Environment) : Bytes :=
  match (env.value? Variable.logDirectory).filter (· ≠ []) with
  | some path => path
  | none =>
    Path.join (Path.join (D.dataDirectory env) (Utf8.ofString "detection-client"))
      (Utf8.ofString "logs")

/-- The threshold in force. -/
def threshold (j : Journal) : Option Level :=
  match j.sink with
  | .installed threshold _ => threshold
  | .nowhere | .foreign => none

def note (stamp : String) (j : Journal) (r : Record) : Journal :=
  match j.sink with
  | .installed threshold file =>
    if admits threshold r then
      { j with
        console := r :: j.console
        files := j.files.append file (Utf8.ofString (r.fileText stamp)) }
    else j
  | .nowhere | .foreign => j

/-! ## Setting up -/

def setupFault (message : String) : FatalError := .setup message .internal

/-- The log file of a directory, which is made if needed. -/
def openFile (f : Files) (working : Place) (directory : Bytes) :
    Except FatalError (Place × Files) :=
  match f.makeDirectories working directory with
  | .error e =>
    .error (setupFault s!"Failed to create log directory {Utf8.display directory}: {e.text}")
  | .ok f =>
    let path := Path.join directory fileName
    match f.openAppend working path with
    | .error e => .error (setupFault s!"Failed to open log file {Utf8.display path}: {e.text}")
    | .ok place => .ok (place, f.append place [])

def alreadyInstalled : FatalError :=
  setupFault ("Failed to install logger: " ++
    "attempted to set a logger after the logging system was already initialized")

/-- Sets up the log in a directory, with the threshold of the environment. Only the first call
counts; a later one is a warning in the log. -/
def setUp (stamp : String) (working : Place) (env : Environment) (directory : Bytes)
    (j : Journal) : Except FatalError Unit × Journal :=
  if j.called then (.ok (), j.note stamp (.warn "Logger already initialized"))
  else
    let j := { j with called := true }
    match openFile j.files working directory with
    | .error e => (.error e, j)
    | .ok (place, files) =>
      let j := { j with files }
      if j.sink = .nowhere then
        let threshold := thresholdOf (env.text? Variable.logLevel)
        let path := Path.join directory fileName
        (.ok (), { j with sink := .installed threshold place }.note stamp
          (.info s!"Logging at {thresholdText threshold} to {Utf8.display path}"))
      else (.error alreadyInstalled, j)

end Journal
end DetectionLink
