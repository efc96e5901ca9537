import DetectionLink.Host
import DetectionLink.Settings.Basic

/-!
# Rates, strides, timestamps and pacing

* `effectiveFps`: which frame rate a session runs at;
* `shouldAnalyze`: which frames of a pass are analysed;
* `frameTimestampMs`: the media time of a frame;
* `pacingDelay`, `Pace`: keeping a session to real time. The schedule is fixed at the session's
  start, so a slow frame is made up by later ones and no drift adds up.
-/

namespace DetectionLink

/-- A frame rate at or below this says nothing. -/
def fpsEpsilon : Binary64 := (⟨false, 1, -3⟩ : Decimal).toBinary64

def usableFps (fps : Binary64) : Bool := fps.isFinite && fpsEpsilon.lt fps

/-- The source's own rate, else the requested one, else the fallback, else the standard one. -/
def effectiveFps (source : Option Binary64) (requested fallback : Binary64) : Binary64 :=
  match source.filter usableFps with
  | some fps => fps
  | none =>
    if usableFps requested then requested
    else if usableFps fallback then fallback
    else standardFps

/-- Every `interval`-th frame of a pass, the first included. -/
def shouldAnalyze (index interval : Nat) : Bool := index % max interval 1 = 0

/-- The source's position when it rounds to a positive number of milliseconds, else the time of
the frame's place in its pass. -/
def frameTimestampMs (position : Option Binary64) (index : Nat) (fps : Binary64) : UInt64 :=
  let derived := ((Binary64.ofNat index).div fps |>.mul (.ofNat 1000)).round.toCount.toUInt64
  match position.filter Binary64.isFinite with
  | some position =>
    if Binary64.zero.lt position.round then position.round.toCount.toUInt64 else derived
  | none => derived

/-- What is left of the time that `framesDone` frames take, none when nothing is. -/
def pacingDelay (framesDone : Nat) (fps : Binary64) (elapsed : Duration) : Option Duration :=
  match Duration.ofSeconds ((Binary64.ofNat framesDone).div fps) with
  | .ok target =>
    if elapsed.nanos < target.nanos then some ⟨target.nanos - elapsed.nanos⟩ else none
  | .error _ => none

/-- The schedule of a session. -/
structure Pace where
  started : Instant
  fps : Binary64
  enabled : Bool
  framesDone : Nat

namespace Pace

variable {σ : Type} (H : Host σ)

def start (fps : Binary64) (enabled : Bool) (w : σ) : Pace := ⟨H.now w, fps, enabled, 0⟩

/-- How long to sleep once another frame is done. -/
def delay? (p : Pace) (now : Instant) : Option Duration :=
  if p.enabled then pacingDelay (p.framesDone + 1) p.fps (now.since p.started) else none

/-- Sleeps for a while, if there is anything to sleep for. -/
def sleepFor : Option Duration → σ → σ
  | some delay, w => H.sleep delay w
  | none, w => w

theorem sleepFor_le (delay : Option Duration) (w : σ) :
    H.budget (sleepFor H delay w) ≤ H.budget w := by
  cases delay with
  | none => exact Nat.le_refl _
  | some delay => exact H.sleep_le delay w

/-- One more frame is done: sleeps until its slot ends. -/
def frameDone (p : Pace) (w : σ) : Pace × σ :=
  ({ p with framesDone := p.framesDone + 1 }, sleepFor H (p.delay? (H.now w)) w)

theorem frameDone_le (p : Pace) (w : σ) : H.budget (p.frameDone H w).2 ≤ H.budget w :=
  sleepFor_le H (p.delay? (H.now w)) w

end Pace
end DetectionLink
