import DetectionLink.Proofs.ClipRates
import DetectionLink.Proofs.Draws
import DetectionLink.Proofs.Laps
import DetectionLink.Proofs.LoopProgress
import DetectionLink.Proofs.Noise
import DetectionLink.Proofs.Rejection

/-!
# Sessions on clips, with simulated detections

A clip, a simulated detector and a link whose writes are all complete: everything that such a
session writes is then known before it begins. Whoever is drawn on a frame makes a message, so a
session sends one for every frame it analyses, and each pass through the clip sends the same ones.

* `Plausible.valid`, `encodeDetections_detect`: whoever is drawn makes a message;
* `clipLine`, `clipLines`: the lines of the first frames of a clip;
* `told_of_laps`: what is counted and written in so many laps;
* `clip_session`: whole sessions.
-/

namespace DetectionLink

open MessageBuilder (placedFrom ranked suppliedBy)

variable {σ : Type} {H : Host σ}

/-! ## Messages -/

theorem Plausible.valid {person : RawDetection} (h : Plausible person) : person.Valid := by
  have inside := h.confidence
  rw [Simulation.lowestConfidence_eq, Simulation.confidenceBound_eq] at inside
  refine ⟨inside.isFinite, ?_⟩
  rw [h.label_eq]
  decide

/-- The message of a frame of a clip. -/
def clipMessage (d : SimulatedDetector) (fps : Binary64) (frame : Nat) : DetectionMessage :=
  ⟨frameTimestampMs none frame fps, placedFrom 1 (ranked (d.detect frame))⟩

/-- No frame is skipped: the builder takes whomever the detector reports. -/
theorem encodeDetections_detect (d : SimulatedDetector) (fps : Binary64) (frame : Nat) :
    encodeDetections (frameTimestampMs none frame fps) (d.detect frame) =
      .ok (clipMessage d fps frame).encode := by
  have valid : ∀ person ∈ d.detect frame, person.Valid :=
    fun person mem => ((d.plausible_detect frame).2 person mem).valid
  have supplied := suppliedBy_frameCalls (frameTimestampMs none frame fps) (d.detect frame)
  have built := MessageBuilder.build_of_valid
    (lastTimestamp?_frameCalls (frameTimestampMs none frame fps) (d.detect frame))
    (by rwa [supplied])
  rw [encodeDetections_eq, built, supplied]
  rfl

/-- Its line on the wire. -/
def clipLine (d : SimulatedDetector) (fps : Binary64) (frame : Nat) : Bytes :=
  (clipMessage d fps frame).encode ++ [lineTerminator]

namespace Session

variable {plan : Plan}

theorem lineOf_detect (d : SimulatedDetector) (frame : Nat) :
    lineOf plan d.detect (⟨frame, none⟩, frame) = some (clipLine d plan.fps frame) := by
  rw [lineOf, message, encodeDetections_detect, clipLine]
  rfl

/-! ## Lines of a clip -/

/-- The lines of the first frames of a clip: of one frame in `interval`, the first of them
included. -/
def clipLines (interval : Nat) (line : Nat → Bytes) (count : Nat) : List Bytes :=
  (List.range ((count + interval - 1) / interval)).map fun turn => line (interval * turn)

/-- Fewer frames have the first of the lines. -/
theorem clipLines_isPrefix (interval : Nat) (line : Nat → Bytes) {count count' : Nat}
    (fewer : count ≤ count') :
    clipLines interval line count <+: clipLines interval line count' := by
  refine List.IsPrefix.map _ ?_
  rw [List.prefix_iff_eq_take, List.take_range, List.length_range,
    min_eq_left (Nat.div_le_div_right (by omega))]

section Lines

variable {find : Nat → List RawDetection} {line : Nat → Bytes}
  (lines : ∀ frame, lineOf plan find (⟨frame, none⟩, frame) = some (line frame))
  (positive : 0 < plan.interval)
include lines positive

theorem lines_dueIn (count : Nat) :
    (Passes.dueIn plan.interval (clipShots count)).filterMap (lineOf plan find) =
      clipLines plan.interval line count := by
  rw [Passes.dueIn_clipShots positive, List.filterMap_map, clipLines, ← List.filterMap_eq_map]
  exact List.filterMap_congr fun turn _ => lines (plan.interval * turn)

theorem lines_ofLaps (frames laps rest : Nat) :
    ((Passes.ofLaps frames laps rest).due plan.interval).filterMap (lineOf plan find) =
      (List.replicate laps (clipLines plan.interval line frames)).flatten ++
        clipLines plan.interval line rest := by
  rw [Passes.due_ofLaps, List.filterMap_append, List.filterMap_flatten, List.map_replicate,
    lines_dueIn lines positive, lines_dueIn lines positive]

/-- What a session counts and writes in so many laps, and the first frames of one more. -/
theorem told_of_laps {verdicts : List (Option SessionEnd)} {report : SessionReport}
    {trace : List (Event Nat)} {frames laps rest : Nat}
    (shown : Shown plan find verdicts report trace)
    (passed : passes trace = .ofLaps frames laps rest) :
    let turns := fun count => (count + plan.interval - 1) / plan.interval
    let messages := laps * turns frames + turns rest
    let lines := clipLines plan.interval line
    report.toSessionCounts = ⟨laps * frames + rest, messages, messages, laps⟩ ∧
      wires trace = ((List.replicate laps (lines frames)).flatten ++ lines rest).map
        (·, .complete) := by
  intro turns messages written
  have looped : loops trace = laps := by
    rw [← length_finished, passed]
    exact List.length_replicate
  have due : ((Passes.ofLaps frames laps rest).due plan.interval).length = messages := by
    rw [Passes.length_due positive]
    simp [Passes.lengths, Passes.all, Passes.ofLaps, length_clipShots, messages, turns]
  have told := lines_ofLaps lines positive frames laps rest
  have sent : ((List.replicate laps (written frames)).flatten ++ written rest).length =
      messages := by
    simp [written, clipLines, messages, turns]
  refine ⟨?_, ?_⟩
  · rw [shown.counts_eq, passed, looped, Passes.frames_ofLaps, due, told, sent]
  · rw [shown.wires_eq, passed, told]

end Lines

/-! ## Whole sessions -/

/-- A clip, a simulated detector, and writes that are all complete. A session that no poll ends does
not loop, or its clip has no frame. It reads each frame once, sends a message for every frame that
it analyses, one in `interval` of them and the first included, with the timestamps of their places,
and ends at the end of the media. A session that loops through frames is ended by a poll, after so
many whole passes and the first frames of one more; each of the passes sends the same messages, and
the last one the first of these. -/
theorem clip_session (H : Host σ) (d : SimulatedDetector) (settings : SessionSettings)
    {start : StartCommand} (named : trim start.videoPath.toList ≠ []) {k : Client}
    (sound : k.channel.Sound) (connected : k.isConnected = true) {w : σ}
    (complete : ∀ wire ∈ wires (run (SyntheticClip.media H).traced (d.detector H).traced settings
      start k (.start w)).2.2.trace, wire.2 = .complete) :
    let M := SyntheticClip.media H
    let D := d.detector H
    let done := run M.traced D.traced settings start k (.start w)
    let plan := planOf settings start none
    let frames := syntheticFrameCount start.durationSec start.fps
    let turns := fun count => (count + plan.interval - 1) / plan.interval
    let lines := clipLines plan.interval (clipLine d plan.fps)
    untraced done = run M D settings start k w ∧
    ((∀ event ∈ pollsOf M D settings start k w, event.verdict = none) →
      (start.loop = false ∨ frames = 0) ∧
      done.1 = ⟨⟨frames, turns frames, turns frames, 0⟩, .endOfMedia⟩ ∧
      wires done.2.2.trace = (lines frames).map (·, .complete)) ∧
    (start.loop = true → 0 < frames → ∃ laps rest, rest ≤ frames ∧
      verdictsOf M D settings start k w =
        List.replicate (laps * (frames + 1) + rest) none ++ [some done.1.ending] ∧
      done.1.ending ≠ .endOfMedia ∧
      passes done.2.2.trace = .ofLaps frames laps rest ∧
      done.1.toSessionCounts = ⟨laps * frames + rest, laps * turns frames + turns rest,
        laps * turns frames + turns rest, laps⟩ ∧
      wires done.2.2.trace =
        ((List.replicate laps (lines frames)).flatten ++ lines rest).map (·, .complete) ∧
      lines rest <+: lines frames) := by
  intro M D done plan frames turns lines
  have opened : (M.opening start w).1 = .ok (.ofFrames frames) :=
    (opening_eq H start w).trans (ofStart_eq_ok_iff.mpr ⟨named, rfl⟩)
  have smooth : Smooth M D settings start k w d.detect := ⟨sound, fun _ _ => rfl, complete⟩
  have shown : Shown plan d.detect (verdictsOf M D settings start k w) done.1 done.2.2.trace :=
    shown_run smooth opened
  have positive : 0 < plan.interval := planOf_interval_pos settings start none
  obtain ⟨laps, rest, ends, passed⟩ := laps_run smooth opened
  obtain ⟨counts, wrote⟩ := told_of_laps (lineOf_detect d) positive shown passed
  refine ⟨run_traced M D settings start k (.start w), fun unended => ?_,
    fun looped nonempty => ?_⟩
  · obtain ⟨onlyOnce, ending, rfl, rfl⟩ := ends.of_unended connected unended
    refine ⟨onlyOnce, report_ext ?_ ending, ?_⟩
    · simpa only [Nat.zero_mul, Nat.zero_add] using counts
    · simpa only [List.replicate_zero, List.flatten_nil, List.nil_append] using wrote
  · rw [looped] at ends
    obtain ⟨within, ended, verdicts⟩ := ends.of_looped connected nonempty
    exact ⟨laps, rest, within, verdicts, ended, passed, counts, wrote,
      clipLines_isPrefix plan.interval _ within⟩

/-- Every second frame of a clip of the usual length, on a link that is silent; and a clip of one
frame, stopped after one whole pass. -/
theorem clip_session_of_script :
    let d : SimulatedDetector := ⟨7, .zero, 64⟩
    let M : Media Script.host SyntheticClip Nat := SyntheticClip.media Script.host
    let D := d.detector Script.host
    let silent : Script := ⟨List.replicate 301 .expired, []⟩
    let fps := fun start => (planOf .default start none).fps
    let done := run M.traced D.traced .default everySecond connectedClient (.start silent)
    let looped := run M.traced D.traced .default everyFrameLooped crowdedClient (.start ⟨[], []⟩)
    ((trim everySecond.videoPath.toList ≠ [] ∧ connectedClient.channel.Sound ∧
        connectedClient.isConnected = true ∧ ∀ wire ∈ wires done.2.2.trace, wire.2 = .complete) ∧
      (∀ event ∈ pollsOf M D .default everySecond connectedClient silent, event.verdict = none) ∧
      done.1 = ⟨⟨300, 150, 150, 0⟩, .endOfMedia⟩ ∧
      wires done.2.2.trace = (clipLines 2 (clipLine d (fps everySecond)) 300).map (·, .complete)) ∧
    looped.1 = ⟨⟨1, 1, 1, 1⟩, .stopped⟩ ∧
    wires looped.2.2.trace = [(clipLine d (fps everyFrameLooped) 0, .complete)] := by
  intro d M D silent fps done looped
  constructor
  · have sound : connectedClient.channel.Sound := ⟨rfl, rfl, nofun⟩
    have smooth : Smooth M D .default everySecond connectedClient silent d.detect :=
      smooth_of_script d.detect .default everySecond sound _
    have opens : SyntheticClip.ofStart everySecond = .ok (.ofFrames defaultClipFrames) := rfl
    have noise : OnlyNoise connectedClient done.2.2.trace :=
      onlyNoise_of_script d.detect .default rfl opens (by decide) sound rfl (Framing.framed_nil 64)
        nofun
    have unended := verdict_of_noise sound noise
    have named : trim everySecond.videoPath.toList ≠ [] := by decide
    obtain ⟨-, once, -⟩ := clip_session Script.host d .default named sound rfl smooth.complete
    obtain ⟨-, report, wrote⟩ := once unended
    exact ⟨⟨named, sound, rfl, smooth.complete⟩, unended, report, wrote⟩
  · have sound : crowdedClient.channel.Sound := ⟨rfl, rfl, nofun⟩
    have smooth : Smooth M D .default everyFrameLooped crowdedClient ⟨[], []⟩ d.detect :=
      smooth_of_script d.detect .default everyFrameLooped sound []
    have named : trim everyFrameLooped.videoPath.toList ≠ [] := by decide
    have one : syntheticFrameCount everyFrameLooped.durationSec everyFrameLooped.fps = 1 := by
      decide +kernel
    obtain ⟨-, -, again⟩ := clip_session Script.host d .default named sound rfl smooth.complete
    obtain ⟨laps, rest, within, verdicts, -, -, counts, wrote, -⟩ := again rfl (one ▸ Nat.one_pos)
    obtain ⟨polls, stopped⟩ := ended_crowdedClient verdicts
    rw [one] at within polls counts wrote
    obtain ⟨rfl, rfl⟩ : laps = 1 ∧ rest = 0 := by omega
    exact ⟨report_ext counts stopped, wrote⟩

end Session
end DetectionLink
