import DetectionLink.Number.Binary64

/-!
# Detections

* `RawDetection`: what a detector reports for one object;
* `Detection`: the same in its place in a message, with an id;
* `DetectionMessage`: one analysed frame, with or without detections.
-/

namespace DetectionLink

/-- An upright box in source pixels. -/
structure BoundingBox where
  x : UInt32
  y : UInt32
  width : UInt32
  height : UInt32
deriving DecidableEq

namespace BoundingBox

/-- A box is at least one pixel wide and high. -/
def ofCorner (x y width height : UInt32) : BoundingBox := ⟨x, y, max width 1, max height 1⟩

end BoundingBox

structure RawDetection where
  label : String
  confidence : Binary64
  box : BoundingBox
deriving DecidableEq

structure Detection where
  id : String
  label : String
  confidence : Binary64
  box : BoundingBox
deriving DecidableEq

structure DetectionMessage where
  timestampMs : UInt64
  detections : List Detection
deriving DecidableEq

namespace DetectionMessage

def empty (timestampMs : UInt64) : DetectionMessage := ⟨timestampMs, []⟩

end DetectionMessage

/-- Three decimal places, a half going away from zero. -/
def roundConfidence (confidence : Binary64) : Binary64 :=
  (confidence.mul (.ofNat 1000)).round.div (.ofNat 1000)

end DetectionLink
