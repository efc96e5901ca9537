import DetectionLink.Session.Media
import DetectionLink.Session.Pacing
import DetectionLink.Text.Blank

/-!
# Synthetic clips

Media without a decoder: a clip is a number of frames, and a frame is its number. Any path that is
not blank opens one, as long as the start command asks for.

* `syntheticFrameCount`: the length of a clip;
* `SyntheticClip`: stepping through one, and back to its start;
* `SyntheticClip.media`: clips as the media of a session.
-/

namespace DetectionLink

/-- The length of a clip when the start command names no duration. -/
def defaultClipFrames : Nat := 300

/-- The frames of so many seconds at the rate asked for, or at the standard rate. -/
def syntheticFrameCount (durationSec fps : Binary64) : Nat :=
  if durationSec.isFinite && Binary64.zero.lt durationSec then
    (durationSec.mul (if usableFps fps then fps else standardFps)).round.toCount
  else defaultClipFrames

structure SyntheticClip where
  frames : Nat
  /-- The number of the frame delivered next. -/
  upcoming : Nat
deriving DecidableEq

namespace SyntheticClip

def ofFrames (frames : Nat) : SyntheticClip := ⟨frames, 0⟩

def length (c : SyntheticClip) : Nat := c.frames

def isEmpty (c : SyntheticClip) : Bool := c.frames = 0

def next (c : SyntheticClip) : Option Nat × SyntheticClip :=
  if c.upcoming < c.frames then (some c.upcoming, { c with upcoming := c.upcoming + 1 })
  else (none, c)

def rewind (c : SyntheticClip) : SyntheticClip := { c with upcoming := 0 }

def blankPath : MediaError := .opening "video_path is empty" .internal

/-- The clip a start command asks for. -/
def ofStart (start : StartCommand) : Except MediaError SyntheticClip :=
  if (trim start.videoPath.toList).isEmpty then .error blankPath
  else .ok (.ofFrames (syntheticFrameCount start.durationSec start.fps))

variable {σ : Type} (H : Host σ)

def openedRecord (path : String) (c : SyntheticClip) : Record :=
  .info s!"Opened synthetic clip for '{path}': {c.frames} frames"

/-- Opens a clip and says so. -/
def opening (start : StartCommand) (w : σ) : Except MediaError SyntheticClip × σ :=
  match ofStart start with
  | .ok clip => (.ok clip, H.note (openedRecord start.videoPath clip) w)
  | .error e => (.error e, w)

theorem opening_le (start : StartCommand) (w : σ) :
    H.budget (opening H start w).2 ≤ H.budget w := by
  unfold opening
  cases ofStart start with
  | ok clip => exact H.note_le ..
  | error e => exact Nat.le_refl _

/-- Clips report neither a position nor a rate. -/
def media : Media H SyntheticClip Nat where
  opening := opening H
  next c w := (c.next.1, c.next.2, w)
  rewind c w := (.ok (), c.rewind, w)
  position _ := none
  rate _ := none
  opening_le := opening_le H
  next_le _ _ := Nat.le_refl _
  rewind_le _ _ := Nat.le_refl _

end SyntheticClip
end DetectionLink
