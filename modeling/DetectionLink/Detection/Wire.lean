import DetectionLink.Detection.Builder
import DetectionLink.Json.Value

/-!
# Messages on the wire

A message is one compact JSON object with its members in a fixed order. Reading takes members in
any order, skips those it does not know, whatever their values hold, and also takes an array of
the member values in the fixed order.

* `DetectionMessage.encode`: the line of a message, without its terminator;
* `DetectionMessage.ofTree?`, `ofBytes?`: the message of a line;
* `encodeDetections`: the line of one analysed frame.
-/

namespace DetectionLink

open Json (Tree Number stringText)

/-! ## Writing -/

def BoundingBox.json (b : BoundingBox) : String :=
  s!"\x7b\"x\":{b.x.toNat},\"y\":{b.y.toNat}," ++
    s!"\"width\":{b.width.toNat},\"height\":{b.height.toNat}\x7d"

def Detection.json (d : Detection) : String :=
  "\x7b\"id\":" ++ stringText d.id ++ ",\"class\":" ++ stringText d.label
    ++ ",\"confidence\":" ++ (Number.real d.confidence).text ++ ",\"bbox\":" ++ d.box.json ++ "\x7d"

namespace DetectionMessage

/-- The name of the message kind on the wire. -/
def kindName : String := "target_detection"

def json (m : DetectionMessage) : String :=
  "\x7b\"type\":" ++ stringText kindName ++ ",\"timestamp_ms\":" ++ toString m.timestampMs.toNat
    ++ ",\"detections\":[" ++ ",".intercalate (m.detections.map Detection.json) ++ "]\x7d"

/-- The line of a message, without its terminator. -/
def encode (m : DetectionMessage) : Bytes := Utf8.ofString m.json

end DetectionMessage

/-! ## Reading -/

namespace Json.Tree

/-- The values of a structure's fields in their order: an object that has each of them once, or
an array of exactly as many values. Every key has to be a text. -/
def fields? (names : List String) : Tree → Option (List Tree)
  | .object members => do
    let members ← members.mapM fun (member : Option String × Tree) =>
      member.1.map fun key => (key, member.2)
    names.mapM fun name =>
      match members.filter fun member => member.1 = name with
      | [member] => some member.2
      | _ => none
  | .array items => if items.length = names.length then some items else none
  | _ => none

def text? : Tree → Option String
  | .string text => text
  | _ => none

def number? : Tree → Option Number
  | .number text => Number.ofText? text
  | _ => none

def items? : Tree → Option (List Tree)
  | .array items => some items
  | _ => none

end Json.Tree

namespace BoundingBox

def side? (tree : Tree) : Option UInt32 := do
  let n ← (← tree.number?).count? UInt32.size
  pure n.toUInt32

def ofTree? (tree : Tree) : Option BoundingBox := do
  match ← tree.fields? ["x", "y", "width", "height"] with
  | [x, y, width, height] => pure ⟨← side? x, ← side? y, ← side? width, ← side? height⟩
  | _ => none

end BoundingBox

namespace Detection

def ofTree? (tree : Tree) : Option Detection := do
  match ← tree.fields? ["id", "class", "confidence", "bbox"] with
  | [id, label, confidence, box] =>
    pure ⟨← id.text?, ← label.text?, (← confidence.number?).toBinary64, ← BoundingBox.ofTree? box⟩
  | _ => none

end Detection

namespace DetectionMessage

/-- The kind of a message: its name, or an object with the name as its one key and no content. -/
def isKind : Tree → Bool
  | .string text => text = some kindName
  | .object [(key, .null)] => key = some kindName
  | _ => false

def ofTree? (tree : Tree) : Option DetectionMessage := do
  match ← tree.fields? ["type", "timestamp_ms", "detections"] with
  | [kind, timestamp, detections] =>
    if isKind kind then
      let timestamp ← (← timestamp.number?).count? UInt64.size
      let detections ← (← detections.items?).mapM Detection.ofTree?
      pure ⟨timestamp.toUInt64, detections⟩
    else none
  | _ => none

/-- The message of a line, without its terminator. -/
def ofBytes? (line : Bytes) : Option DetectionMessage := (Tree.ofBytes? line).bind ofTree?

end DetectionMessage

/-- The line of one analysed frame, without its terminator. -/
def encodeDetections (timestampMs : UInt64) (detections : List RawDetection) :
    Except LinkError Bytes :=
  match DetectionMessage.ofDetections timestampMs detections with
  | .ok message => .ok message.encode
  | .error fault => .error (.ofPayload fault.toPayloadError)

end DetectionLink
