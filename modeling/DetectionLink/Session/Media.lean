import DetectionLink.Command
import DetectionLink.Detection.Basic
import DetectionLink.Host

/-!
# What a session needs from media and detectors

Decoding video and running a model are not the link's business. A session sees sources of frames
and a detector; both act on the host's state, and neither restores its budget.

* `Media`: opening a source and stepping through it;
* `Detector`: what a frame shows.
-/

namespace DetectionLink

variable {σ : Type}

/-- Sources of type `S` that deliver frames of type `F`. -/
structure Media (H : Host σ) (S F : Type) where
  /-- Opens the source a start command names. -/
  opening : StartCommand → σ → Except MediaError S × σ
  /-- The next frame, none at the end. -/
  next : S → σ → Option F × S × σ
  /-- Back to the first frame. -/
  rewind : S → σ → Except MediaError Unit × S × σ
  /-- The playback position in milliseconds of the frame last delivered, if it is tracked. -/
  position : S → Option Binary64
  /-- The source's own frame rate, if it is known. -/
  rate : S → Option Binary64
  opening_le : ∀ start w, H.budget (opening start w).2 ≤ H.budget w
  next_le : ∀ s w, H.budget (next s w).2.2 ≤ H.budget w
  rewind_le : ∀ s w, H.budget (rewind s w).2.2 ≤ H.budget w

/-- Neither order nor precision of what a detector reports matters. -/
structure Detector (H : Host σ) (F : Type) where
  detect : F → σ → List RawDetection × σ
  detect_le : ∀ frame w, H.budget (detect frame w).2 ≤ H.budget w

end DetectionLink
