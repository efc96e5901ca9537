import DetectionLink.Files
import DetectionLink.Record
import DetectionLink.Settings.Validation
import DetectionLink.Toml.Document

/-!
# Settings from a file

A settings file names some of the settings; the others have their default values. Keys it should
not have are left alone. A table may also be written as an array of its values in their order,
cut short at any place.

* `NamedSettings`: what a file names;
* `NamedSettings.ofText?`: reading it;
* `Settings.load`: the settings of a file, validated, with the log records of loading it.
-/

namespace DetectionLink

structure NamedLink where
  socketPath : Option Bytes
  connectTimeoutSecs : Option Binary64
  retryIntervalSecs : Option Binary64
  sendTimeoutSecs : Option Binary64
  pollTimeoutMs : Option Nat
  sendBufferBytes : Option Nat
  maxMessageBytes : Option Nat
deriving DecidableEq

structure NamedSession where
  realtime : Option Bool
  defaultFps : Option Binary64
  defaultFrameInterval : Option Nat
deriving DecidableEq

structure NamedDetector where
  confidenceThreshold : Option Binary64
deriving DecidableEq

/-- The settings that a file names. -/
structure NamedSettings where
  link : NamedLink
  session : NamedSession
  detector : NamedDetector
deriving DecidableEq

namespace NamedLink

def none : NamedLink := ⟨.none, .none, .none, .none, .none, .none, .none⟩

def withDefaults (d : LinkSettings) (n : NamedLink) : LinkSettings where
  socketPath := n.socketPath.getD d.socketPath
  connectTimeoutSecs := n.connectTimeoutSecs.getD d.connectTimeoutSecs
  retryIntervalSecs := n.retryIntervalSecs.getD d.retryIntervalSecs
  sendTimeoutSecs := n.sendTimeoutSecs.getD d.sendTimeoutSecs
  pollTimeoutMs := n.pollTimeoutMs.getD d.pollTimeoutMs
  sendBufferBytes := n.sendBufferBytes.getD d.sendBufferBytes
  maxMessageBytes := n.maxMessageBytes.getD d.maxMessageBytes

end NamedLink

namespace NamedSession

def none : NamedSession := ⟨.none, .none, .none⟩

def withDefaults (d : SessionSettings) (n : NamedSession) : SessionSettings where
  realtime := n.realtime.getD d.realtime
  defaultFps := n.defaultFps.getD d.defaultFps
  defaultFrameInterval := n.defaultFrameInterval.getD d.defaultFrameInterval

end NamedSession

namespace NamedDetector

def none : NamedDetector := ⟨.none⟩

def withDefaults (d : DetectorSettings) (n : NamedDetector) : DetectorSettings where
  confidenceThreshold := n.confidenceThreshold.getD d.confidenceThreshold

end NamedDetector

/-! ## Reading values -/

namespace Toml.Value

mutual

/-- Whether a value that nobody uses can be read at all: whole numbers within 128 bits, others
within the doubles. -/
def isReadable : Value → Bool
  | .integer n => n.any fun n =>
    -0x80000000000000000000000000000000 ≤ n && n < 0x100000000000000000000000000000000
  | .real x => x.isSome
  | .array items => areReadable items
  | .table _ entries => membersAreReadable entries
  | .tables all => tablesAreReadable all
  | .text _ | .boolean _ | .date => true

def areReadable : List Value → Bool
  | [] => true
  | item :: rest => isReadable item && areReadable rest

def membersAreReadable : List (String × Value) → Bool
  | [] => true
  | (_, value) :: rest => isReadable value && membersAreReadable rest

def tablesAreReadable : List (List (String × Value)) → Bool
  | [] => true
  | entries :: rest => membersAreReadable entries && tablesAreReadable rest

end

/-- The values of a structure's fields in their order, if they are there: from a table, or from an
array that holds the first of them. A point in time holds no field. -/
def fields? (names : List String) : Value → Option (List (Option Value))
  | .table _ entries =>
    if membersAreReadable (entries.filter fun entry => !names.contains entry.1) then
      some (names.map fun name => entries.lookup name)
    else none
  | .array items => some ((List.range names.length).map fun i => items[i]?)
  | .tables latestFirst =>
    some ((List.range names.length).map fun i =>
      (latestFirst.reverse[i]?).map (.table .header))
  | .date => some (names.map fun _ => none)
  | _ => none

def path? : Value → Option Bytes
  | .text content => some (Utf8.ofString content)
  | _ => none

/-- Whole numbers of 64 bits count as doubles too. -/
def double? : Value → Option Binary64
  | .real x => x
  | .integer (some n) =>
    if -0x8000000000000000 ≤ n ∧ n < 0x10000000000000000 then some (.ofInt n) else none
  | _ => none

/-- A whole number from zero up to, but not including, `limit`. -/
def count? (limit : Nat) : Value → Option Nat
  | .integer (some n) => if 0 ≤ n ∧ n < limit then some n.toNat else none
  | _ => none

def boolean? : Value → Option Bool
  | .boolean b => some b
  | _ => none

end Toml.Value

open Toml (Value)

/-- A field that may be missing; a value of the wrong kind is refused. -/
def optionalField {α : Type} (read : Value → Option α) : Option Value → Option (Option α)
  | none => some none
  | some value => (read value).map some

namespace NamedLink

def ofValue? (value : Value) : Option NamedLink := do
  match ← value.fields? ["socket_path", "connect_timeout_secs", "retry_interval_secs",
      "send_timeout_secs", "poll_timeout_ms", "send_buffer_bytes", "max_message_bytes"] with
  | [socketPath, connect, retry, send, poll, buffer, limit] => pure {
      socketPath := ← optionalField Value.path? socketPath
      connectTimeoutSecs := ← optionalField Value.double? connect
      retryIntervalSecs := ← optionalField Value.double? retry
      sendTimeoutSecs := ← optionalField Value.double? send
      pollTimeoutMs := ← optionalField (Value.count? UInt64.size) poll
      sendBufferBytes := ← optionalField (Value.count? UInt64.size) buffer
      maxMessageBytes := ← optionalField (Value.count? UInt64.size) limit }
  | _ => .none

end NamedLink

namespace NamedSession

def ofValue? (value : Value) : Option NamedSession := do
  match ← value.fields? ["realtime", "default_fps", "default_frame_interval"] with
  | [realtime, fps, interval] => pure {
      realtime := ← optionalField Value.boolean? realtime
      defaultFps := ← optionalField Value.double? fps
      defaultFrameInterval := ← optionalField (Value.count? UInt32.size) interval }
  | _ => .none

end NamedSession

namespace NamedDetector

def ofValue? (value : Value) : Option NamedDetector := do
  match ← value.fields? ["confidence_threshold"] with
  | [threshold] => pure ⟨← optionalField Value.double? threshold⟩
  | _ => .none

end NamedDetector

namespace NamedSettings

def ofValue? (value : Value) : Option NamedSettings := do
  match ← value.fields? ["ipc", "session", "detector"] with
  | [link, session, detector] => pure {
      link := (← optionalField NamedLink.ofValue? link).getD .none
      session := (← optionalField NamedSession.ofValue? session).getD .none
      detector := (← optionalField NamedDetector.ofValue? detector).getD .none }
  | _ => .none

/-- What a settings file names, none when the text is no settings file. -/
def ofText? (text : List Char) : Option NamedSettings :=
  (Toml.document? text).bind fun entries => ofValue? (.table .header entries)

/-- The settings of a file: what it does not name has its default value. -/
def settings (n : NamedSettings) : Settings where
  link := n.link.withDefaults .default
  session := n.session.withDefaults .default
  detector := n.detector.withDefaults .default

end NamedSettings

/-! ## Loading -/

namespace Settings

/-- The settings that a text gives, validated. -/
def ofText (W : Wording) (path : Bytes) (text : List Char) : Except SettingsError Settings :=
  match NamedSettings.ofText? text with
  | none => .error (.parse path (W.toml text) .internal)
  | some named =>
    (named.settings.validate.mapError SettingsFault.toError).map fun _ => named.settings

/-- The log records of loading a text. -/
def loadRecords (path : Bytes) : Except SettingsError Settings → List Record
  | .ok _ => [.info s!"Config loaded from {Utf8.display path}"]
  | .error (.parse _ reason _) => [.warn s!"Failed to parse config TOML: {reason}"]
  | .error _ => []

/-- The settings of the file at a path. A file that is not there gives the default settings. -/
def load (W : Wording) (f : Files) (working : Place) (path : Bytes) :
    Except SettingsError Settings × List Record :=
  if f.pathExists working path then
    match f.readText working path with
    | .error e => (.error (.read path e.text .internal), [])
    | .ok text =>
      let loaded := ofText W path text
      (loaded, loadRecords path loaded)
  else
    (.ok .default,
      [.info s!"Config file not found at {Utf8.display path}, using defaults"])

end Settings
end DetectionLink
