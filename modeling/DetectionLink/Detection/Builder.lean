import DetectionLink.Detection.Basic
import DetectionLink.Error
import DetectionLink.Number.Decimal

/-!
# Building messages

A detector reports in any order and precision. The message it becomes is canonical: the most
confident detection first, ids counting from one, confidences within zero and one at three
places.

* `MessageBuilder`: a timestamp, if one was set, and the detections supplied so far;
* `MessageBuilder.build`: the message, or the first fault of what was supplied.
-/

namespace DetectionLink

/-- Why detections make no message. Indices count the detections as they were supplied. -/
inductive BuildFault
  | missingTimestamp
  | nonFiniteConfidence (index : Nat) (confidence : Binary64)
  | emptyClass (index : Nat)
deriving DecidableEq

namespace BuildFault

def message : BuildFault → String
  | missingTimestamp => "Timestamp is required"
  | nonFiniteConfidence index confidence =>
    s!"Detection {index} has non-finite confidence: {plain.text confidence}"
  | emptyClass index => s!"Detection {index} has an empty class"

def toPayloadError (fault : BuildFault) : PayloadError := ⟨.validation, fault.message, .internal⟩

end BuildFault

structure MessageBuilder where
  timestampMs : Option UInt64
  supplied : List RawDetection

namespace MessageBuilder

def empty : MessageBuilder := ⟨none, []⟩

/-- The last timestamp set counts. -/
def withTimestamp (timestampMs : UInt64) (b : MessageBuilder) : MessageBuilder :=
  { b with timestampMs := some timestampMs }

def withDetections (detections : List RawDetection) (b : MessageBuilder) : MessageBuilder :=
  { b with supplied := b.supplied ++ detections }

def withDetection (detection : RawDetection) (b : MessageBuilder) : MessageBuilder :=
  b.withDetections [detection]

/-- The fault of one detection; a confidence that is no number comes before an empty class. -/
def faultOf? (index : Nat) (d : RawDetection) : Option BuildFault :=
  if !d.confidence.isFinite then some (.nonFiniteConfidence index d.confidence)
  else if d.label = "" then some (.emptyClass index)
  else none

/-- The fault of the first detection that has one, counting from `index`. -/
def firstFault? (index : Nat) : List RawDetection → Option BuildFault
  | [] => none
  | d :: rest =>
    match faultOf? index d with
    | some fault => some fault
    | none => firstFault? (index + 1) rest

/-- Most confident first; detections of one confidence keep their order. -/
def ranked (detections : List RawDetection) : List RawDetection :=
  detections.mergeSort fun a b => b.confidence.le a.confidence

/-- A detection at a place of the message, counted from one. -/
def placed (place : Nat) (d : RawDetection) : Detection where
  id := toString place
  label := d.label
  confidence := roundConfidence (d.confidence.clamp .zero .one)
  box := d.box

/-- Detections at consecutive places. -/
def placedFrom (place : Nat) : List RawDetection → List Detection
  | [] => []
  | d :: rest => placed place d :: placedFrom (place + 1) rest

def build (b : MessageBuilder) : Except BuildFault DetectionMessage :=
  match b.timestampMs with
  | none => .error .missingTimestamp
  | some timestampMs =>
    match firstFault? 0 b.supplied with
    | some fault => .error fault
    | none => .ok ⟨timestampMs, placedFrom 1 (ranked b.supplied)⟩

end MessageBuilder

namespace DetectionMessage

/-- The message of one analysed frame. -/
def ofDetections (timestampMs : UInt64) (detections : List RawDetection) :
    Except BuildFault DetectionMessage :=
  (MessageBuilder.empty.withTimestamp timestampMs |>.withDetections detections).build

end DetectionMessage
end DetectionLink
