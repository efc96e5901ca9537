import DetectionLink.Number.Decimal
import DetectionLink.Session.Media
import DetectionLink.Simulation.Keystream

/-!
# Simulated detections

A detector that needs no model: most frames show nobody or one person, some show two. What a frame
shows depends on the seed and the frame's number alone, whatever was detected before, and the
threshold only filters: it takes no part in the drawing.

* `drawFrame`: what a frame shows, from any source of words;
* `SimulatedDetector.detect`: the detections above the threshold;
* `SimulatedDetector.detector`: the same with its log record, for a session.
-/

namespace DetectionLink

/-- The label of all simulated detections. -/
def simulatedLabel : String := "person"

namespace Simulation

def lowestConfidence : Binary64 := (⟨false, 6, -1⟩ : Decimal).toBinary64

/-- All confidences lie below this. -/
def confidenceBound : Binary64 := (⟨false, 99, -2⟩ : Decimal).toBinary64

variable {ρ : Type} (W : WordSource ρ)

/-- How many people a frame shows: of a hundred frames, thirty show none and fifty show one. -/
def drawCount (r : ρ) : Nat × ρ :=
  let drawn := W.drawBetween 0 99 r
  (if drawn.1 < 30 then 0 else if drawn.1 < 80 then 1 else 2, drawn.2)

/-- One person: the corner, the size and last the confidence. -/
def drawPerson (r : ρ) : RawDetection × ρ :=
  let x := W.drawBetween 50 500 r
  let y := W.drawBetween 50 300 x.2
  let width := W.drawBetween 50 200 y.2
  let height := W.drawBetween 100 300 width.2
  let confidence := W.drawReal lowestConfidence confidenceBound height.2
  (⟨simulatedLabel, confidence.1,
    .ofCorner x.1.toUInt32 y.1.toUInt32 width.1.toUInt32 height.1.toUInt32⟩, confidence.2)

def drawPeople : Nat → ρ → List RawDetection
  | 0, _ => []
  | n + 1, r =>
    let drawn := drawPerson W r
    drawn.1 :: drawPeople n drawn.2

/-- Everybody a frame shows. -/
def drawFrame (r : ρ) : List RawDetection :=
  let count := drawCount W r
  drawPeople W count.1 count.2

end Simulation

structure SimulatedDetector where
  seed : UInt64
  threshold : Binary64
  /-- How many refusals in a row its draws bear. -/
  patience : Nat

namespace SimulatedDetector

/-- Spreads frame numbers over all seeds. -/
def spread : UInt64 := 0x9E3779B97F4A7C15

/-- The keystream of one frame. -/
def frameStream (d : SimulatedDetector) (frame : Nat) : Keystream :=
  .ofSeed (d.seed ^^^ (frame.toUInt64 * spread))

/-- Everybody on a frame, whatever the threshold. -/
def everybody (d : SimulatedDetector) (frame : Nat) : List RawDetection :=
  Simulation.drawFrame (Keystream.words d.patience) (d.frameStream frame)

/-- Whom the detector reports. -/
def detect (d : SimulatedDetector) (frame : Nat) : List RawDetection :=
  (d.everybody frame).filter fun person => d.threshold.le person.confidence

def record (d : SimulatedDetector) (frame : Nat) : Record :=
  .debug (s!"Frame {frame}: {(d.everybody frame).length} simulated detection(s), " ++
    s!"{(d.detect frame).length} above threshold")

/-- The detector as a session uses it. -/
def detector {σ : Type} (H : Host σ) (d : SimulatedDetector) : Detector H Nat where
  detect frame w := (d.detect frame, H.note (d.record frame) w)
  detect_le _ _ := H.note_le ..

end SimulatedDetector
end DetectionLink
