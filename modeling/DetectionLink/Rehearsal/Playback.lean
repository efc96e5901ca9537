import DetectionLink.Rehearsal.Host
import DetectionLink.Simulation.Clip
import DetectionLink.Simulation.Detections

/-!
# Scripted media and detectors

Media and detectors for a rehearsal. Every call is added to the stage's trace and lets the
supervisor do what the script has for it.

* `MediaPlan`: what an opening leads to; the last of a list of plans stays in force;
* `DetectorPlan`: what frames show;
* `Playback.media`, `Playback.detector`: both as a session uses them.
-/

namespace DetectionLink.Rehearsal

/-- What position a frame is reported at. -/
inductive PositionPlan
  | absent
  /-- The same step from frame to frame. -/
  | evenly (step : Binary64)
  | listed (positions : List (Option Binary64))
deriving DecidableEq

namespace PositionPlan

def at? (frame : Nat) : PositionPlan → Option Binary64
  | absent => none
  | evenly step => some ((Binary64.ofNat frame).mul step)
  | listed positions => (positions[frame]?).join

end PositionPlan

structure Reel where
  frames : Nat
  rate : Option Binary64
  position : PositionPlan
  /-- How many rewinds succeed, without limit if none is given. -/
  rewinds : Option Nat
deriving DecidableEq

inductive MediaPlan
  | failing
  | synthetic
  | reel (r : Reel)
deriving DecidableEq

structure DetectorPlan where
  /-- The detections of single frames. -/
  listed : List (Nat × List RawDetection)
  /-- The detections of all other frames. -/
  default : List RawDetection

/-- A source that a plan led to. -/
inductive Source
  | synthetic (clip : SyntheticClip)
  /-- A reel, its next frame, the frame delivered last and the rewinds made. -/
  | reel (r : Reel) (upcoming : Nat) (last : Option Nat) (rewound : Nat)

namespace Source

def next : Source → Option Nat × Source
  | synthetic clip => (clip.next.1, .synthetic clip.next.2)
  | reel r upcoming last rewound =>
    if upcoming < r.frames then (some upcoming, .reel r (upcoming + 1) (some upcoming) rewound)
    else (none, .reel r upcoming last rewound)

def cannotSeek : MediaError := .rewinding "cannot seek" .internal

def rewind : Source → Except MediaError Unit × Source
  | synthetic clip => (.ok (), .synthetic clip.rewind)
  | reel r upcoming last rewound =>
    if r.rewinds.all (rewound < ·) then (.ok (), .reel r 0 none (rewound + 1))
    else (.error cannotSeek, .reel r upcoming last rewound)

def position : Source → Option Binary64
  | synthetic _ => none
  | reel r _ last _ => last.bind fun frame => r.position.at? frame

def rate : Source → Option Binary64
  | synthetic _ => none
  | reel r .. => r.rate

end Source

namespace Playback

def cannotOpen : MediaError := .opening "cannot open" .internal

/-- The plan of an opening, by its number: the last plan serves all further openings. -/
def planAt (plans : List MediaPlan) (n : Nat) : MediaPlan :=
  match plans[n]? with
  | some plan => plan
  | none => plans.getLast?.getD .failing

/-- Follows a plan. -/
def follow (start : StartCommand) (r : Rehearsal) :
    MediaPlan → Except MediaError Source × Rehearsal
  | .failing => (.error cannotOpen, r)
  | .reel reel => (.ok (.reel reel 0 none 0), r)
  | .synthetic =>
    ((SyntheticClip.opening host start r).1.map .synthetic,
      (SyntheticClip.opening host start r).2)

theorem follow_le (start : StartCommand) (r : Rehearsal) (plan : MediaPlan) :
    (follow start r plan).2.patience ≤ r.patience := by
  cases plan with
  | failing => exact Nat.le_refl _
  | reel reel => exact Nat.le_refl _
  | synthetic => exact SyntheticClip.opening_le host start r

/-- The stage once an opening has been called. -/
def openingCalled (path : String) (s : Stage) : Stage :=
  { s.trace (.opening path) with opened := s.opened + 1 }.cue (.opening s.opened)

def opening (plans : List MediaPlan) (start : StartCommand) (r : Rehearsal) :
    Except MediaError Source × Rehearsal :=
  follow start (r.onStage (openingCalled start.videoPath)) (planAt plans r.stage.opened)

/-- The stage once a frame has been asked for. -/
def pullCalled (frame : Option Nat) (s : Stage) : Stage :=
  { s.trace (.pull frame) with pulled := s.pulled + 1 }.cue (.pull s.pulled)

/-- The stage once a rewind has been asked for. -/
def rewindCalled (s : Stage) : Stage :=
  { s.trace .rewind with rewound := s.rewound + 1 }.cue (.rewind s.rewound)

def media (plans : List MediaPlan) : Media host Source Nat where
  opening := opening plans
  next s r := (s.next.1, s.next.2, r.onStage (pullCalled s.next.1))
  rewind s r := (s.rewind.1, s.rewind.2, r.onStage rewindCalled)
  position := Source.position
  rate := Source.rate
  opening_le start _ := follow_le start _ _
  next_le _ _ := Nat.le_refl _
  rewind_le _ _ := Nat.le_refl _

/-- A detector that adds its calls to the trace. -/
def traced (D : Detector host Nat) : Detector host Nat where
  detect frame r := D.detect frame (r.onStage (·.trace (.detect frame)))
  detect_le frame _ := D.detect_le frame _

/-- The detector of a plan. -/
def detector (plan : DetectorPlan) : Detector host Nat :=
  traced {
    detect := fun frame r => ((plan.listed.lookup frame).getD plan.default, r)
    detect_le := fun _ _ => Nat.le_refl _ }

/-- A simulated detector. -/
def simulated (d : SimulatedDetector) : Detector host Nat := traced (d.detector host)

end Playback
end DetectionLink.Rehearsal
