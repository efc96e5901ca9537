import DetectionLink.Error
import DetectionLink.Json.Value

/-!
# Commands of the supervisor

A command is one JSON object on a line, told apart by its member `cmd`:

* `start` with a video path and optional numbers starts a session;
* `stop` ends one;
* any other object is kept as it came, so that a newer supervisor breaks no older client.

Only a line that is no JSON object at all is an error.
-/

namespace DetectionLink

/-- What a session is started with. -/
structure StartCommand where
  videoPath : String
  /-- For information: a session ends on a stop or with its media. -/
  durationSec : Binary64
  /-- The nominal frame rate; zero leaves the choice to the source or the settings. -/
  fps : Binary64
  loop : Bool
  /-- Analyse every so many frames; absent when the supervisor named no stride. -/
  frameInterval : Option Nat
deriving DecidableEq

inductive Command
  | start (command : StartCommand)
  | stop
  | unknown (raw : Json.Value)

namespace StartCommand

/-- The largest stride a command can ask for. -/
def maxInterval : Nat := UInt32.size - 1

/-- The stride to use, at least one. -/
def intervalOr (default : Nat) (s : StartCommand) : Nat := max (s.frameInterval.getD default) 1

/-- A quantity above zero; absent, infinite or negative counts as zero, and so does a zero with a
sign. -/
def nonNegative (x : Option Binary64) : Binary64 :=
  match x with
  | some x => if x.isFinite && Binary64.zero.lt x then x else .zero
  | none => .zero

/-- A number of frames: whole, at least one, and within 32 bits. -/
def interval? (x : Binary64) : Option Nat :=
  x.floor?.map fun n => (max 1 (min n (maxInterval : Int))).toNat

/-! ## Reading the members -/

/-- An optional member: absent or `null` is no value, and `read` refuses a value of the wrong
kind. -/
def optional? {α : Type} (read : Json.Value → Option α) : Option Json.Value → Option (Option α)
  | none | some .null => some none
  | some value => (read value).map some

def number? : Json.Value → Option Binary64
  | .number n => some n.toBinary64
  | _ => none

def bool? : Json.Value → Option Bool
  | .bool b => some b
  | _ => none

/-- The start command of an object; none when a member is missing or of the wrong kind. Members
it does not know are left alone. -/
def ofValue? (value : Json.Value) : Option StartCommand := do
  let videoPath ← (← value.member? "video_path").string?
  let durationSec ← optional? number? (value.member? "duration_sec")
  let fps ← optional? number? (value.member? "fps")
  let loop ← optional? bool? (value.member? "loop")
  let frameInterval ← optional? number? (value.member? "frame_interval")
  pure {
    videoPath
    durationSec := nonNegative durationSec
    fps := nonNegative fps
    loop := loop.getD false
    frameInterval := frameInterval.bind interval? }

end StartCommand

namespace Command

/-- The error of a value that is no object. -/
def notObject (value : Json.Value) : PayloadError :=
  ⟨.decode, s!"Command must be a JSON object, got: {value.text}", .internal⟩

/-- The command of a JSON value. Only a value that is no object is refused. -/
def ofValue (value : Json.Value) : Except PayloadError Command :=
  if value.isObject then
    match (value.member? "cmd").bind Json.Value.string? with
    | some "start" =>
      match StartCommand.ofValue? value with
      | some command => .ok (.start command)
      | none => .ok (.unknown value)
    | some "stop" => .ok .stop
    | _ => .ok (.unknown value)
  else .error (notObject value)

/-- The error of a line that is no JSON. -/
def invalidLine (line : Bytes) : LinkError := ⟨.jsonDecode, .refusal line, .internal⟩

/-- The command on a line. -/
def ofLine (line : Bytes) : Except LinkError Command :=
  match Json.Value.ofBytes? line with
  | none => .error (invalidLine line)
  | some value => (ofValue value).mapError .ofPayload

/-- The name of a command in log lines. -/
def name : Command → String
  | start _ => "start"
  | stop => "stop"
  | unknown _ => "unknown"

end Command
end DetectionLink
