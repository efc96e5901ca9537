import DetectionLink.Proofs.Slots
import DetectionLink.Proofs.Sources
import DetectionLink.Proofs.Supply

/-!
# Invalid detections stay with their frame

A detection with a confidence that is no number, or with an empty class, makes no message. A
session skips the message of that frame and goes on as if it had been sent.

* `isSome_message_iff`: what makes a message;
* `lines_of_invalid`: the lines that go missing;
* `pacerCalls`, `pacerCalls_eq`: the pacing of a session;
* `invalid_output_isolated`: two sessions whose detectors differ by invalid detections.
-/

namespace DetectionLink

variable {σ S F : Type} {H : Host σ}

/-! ## What makes a message -/

theorem isSome_message_iff (fps : Binary64) (shot : Shot F × Nat) (found : List RawDetection) :
    (message fps shot found).isSome ↔ ∀ d ∈ found, d.Valid := by
  rw [← MessageBuilder.firstFault?_eq_none_iff 0, message, Option.isSome_map, encodeDetections,
    DetectionMessage.ofDetections, MessageBuilder.build]
  simp only [MessageBuilder.withTimestamp, MessageBuilder.withDetections, MessageBuilder.empty,
    List.nil_append]
  cases MessageBuilder.firstFault? 0 found with
  | none => exact ⟨fun _ => rfl, fun _ => rfl⟩
  | some fault =>
    constructor
    · intro sent
      cases sent
    · intro noFault
      cases noFault

/-! ## Lines that go missing -/

/-- Where one list of lines lacks those of some frames, it is the other one without them. -/
theorem filterMap_of_missing {α β : Type} {line line' : α → Option β} {missing : α → Bool}
    (left : ∀ a, missing a = true → (line a).isSome ∧ line' a = none)
    (same : ∀ a, missing a = false → line' a = line a) (all : List α) :
    all.filterMap line' = (all.filter fun a => !missing a).filterMap line ∧
      (all.filterMap line).length = (all.filterMap line').length + (all.filter missing).length := by
  induction all with
  | nil => exact ⟨rfl, rfl⟩
  | cons a rest ih =>
    obtain ⟨lines, lengths⟩ := ih
    cases gone : missing a with
    | true =>
      obtain ⟨some, none⟩ := left a gone
      obtain ⟨text, written⟩ := Option.isSome_iff_exists.mp some
      rw [List.filterMap_cons_none none, List.filterMap_cons_some written]
      simp only [List.filter_cons, gone, Bool.not_true, Bool.false_eq_true, if_false, if_true,
        List.length_cons]
      exact ⟨lines, by omega⟩
    | false =>
      simp only [List.filterMap_cons, List.filter_cons, gone, same a gone, Bool.not_false,
        Bool.false_eq_true, if_false, if_true]
      cases line a with
      | none => exact ⟨lines, lengths⟩
      | some text =>
        simp only [List.length_cons]
        exact ⟨congrArg (text :: ·) lines, by omega⟩

namespace Session

variable {M : Media H S F} {D : Detector H F} {settings : SessionSettings} {start : StartCommand}
  {k : Client} {w : σ} {find : F → List RawDetection}

/-! ## Pacing -/

/-- What the pacer is told when a frame is done: how many are done, at which rate, and whether to
keep to it. -/
def pacerCall (slot : Slot) : Nat × Binary64 × Bool :=
  (slot.pace.framesDone + 1, slot.pace.fps, slot.pace.enabled)

variable (M D settings start k w) in
/-- What the pacer of a session is told. -/
def pacerCalls : List (Nat × Binary64 × Bool) :=
  match (M.opening start w).1 with
  | .ok source =>
    let plan := planOf settings start (M.rate source)
    (slots M D plan (started H settings plan source k (M.opening start w).2)).map pacerCall
  | .error _ => []

/-- It is told of every frame once, counted through. -/
theorem pacerCalls_eq (smooth : Smooth M D settings start k w find) {source : S}
    (opened : (M.opening start w).1 = .ok source) :
    pacerCalls M.traced D.traced settings start k (.start w) =
      (List.range (run M.traced D.traced settings start k (.start w)).1.framesRead).map fun i =>
        (i + 1, (planOf settings start (M.rate source)).fps, settings.realtime) := by
  obtain ⟨lost, frames, few, atLoss⟩ := framesRead_run (D := D) settings start smooth.sound opened
  have none : lost = 0 := by
    have unbroken := not_brokenOff_of_complete smooth.complete
    have kept : lost ≠ 1 := fun one => unbroken (atLoss.mp one).2
    omega
  have opened : (M.traced.opening start (.start w)).1 = .ok source := opened
  let plan := planOf settings start (M.rate source)
  let begun := started (H.traced F) settings plan source k (M.traced.opening start (.start w)).2
  have paces := pace_slots M.traced D.traced plan begun
  have calls : (slots M.traced D.traced plan begun).map pacerCall =
      ((slots M.traced D.traced plan begun).map (·.pace)).map fun pace =>
        (pace.framesDone + 1, pace.fps, pace.enabled) := by
    rw [List.map_map]
    rfl
  rw [pacerCalls, opened, frames, none]
  refine calls.trans ?_
  rw [paces, List.map_map]
  refine List.map_congr_left fun i _ => ?_
  show (0 + i + 1, _, _) = _
  rw [Nat.zero_add]
  rfl

/-- On media that cannot be opened there is no pacer. -/
theorem pacerCalls_unopened {e : MediaError} (failed : (M.opening start w).1 = .error e) :
    pacerCalls M.traced D.traced settings start k (.start w) = [] := by
  have failed : (M.traced.opening start (.start w)).1 = .error e := failed
  rw [pacerCalls, failed]

/-! ## Two sessions -/

theorem isSome_lineOf_iff (plan : Plan) (find : F → List RawDetection) (shot : Shot F × Nat) :
    (lineOf plan find shot).isSome ↔ ∀ d ∈ find shot.1.frame, d.Valid :=
  isSome_message_iff _ _ _

/-- Where detections are valid or are the same, the lines that go missing are those of the frames
with invalid ones. -/
theorem lines_of_invalid {find₁ find₂ : F → List RawDetection} {invalid : F → Bool}
    (same : ∀ frame, invalid frame = false → find₂ frame = find₁ frame)
    (before : ∀ frame, invalid frame = true → ∀ d ∈ find₁ frame, d.Valid)
    (behind : ∀ frame, invalid frame = true → ∃ d ∈ find₂ frame, ¬ d.Valid) (plan : Plan)
    (due : List (Shot F × Nat)) :
    due.filterMap (lineOf plan find₂) =
        (due.filter fun shot => !invalid shot.1.frame).filterMap (lineOf plan find₁) ∧
      (due.filterMap (lineOf plan find₁)).length = (due.filterMap (lineOf plan find₂)).length +
        (due.filter fun shot => invalid shot.1.frame).length := by
  refine filterMap_of_missing (fun shot gone => ⟨?_, ?_⟩) (fun shot none => ?_) due
  · exact (isSome_lineOf_iff plan find₁ shot).mpr (before _ gone)
  · refine Option.not_isSome_iff_eq_none.mp fun some => ?_
    obtain ⟨d, found, fault⟩ := behind _ gone
    exact fault ((isSome_lineOf_iff plan find₂ shot).mp some d found)
  · rw [lineOf, lineOf, same _ none]

variable {k₁ k₂ : Client} {w₁ w₂ : σ} {D₁ D₂ : Detector H F} {find₁ find₂ : F → List RawDetection}
  {invalid : F → Bool} {events : List CommandEvent} {schedule : List (Event F)}

/-- Two sessions on media that open alike, whose polls bring the same and whose sources answer the
same as far as both sessions get, and whose writes are all complete. Their detectors find the same
but on some frames, on which the first finds valid detections and the second also invalid ones.
Both sessions read the same frames, give the same ones to their detectors, go through the same
loops, are paced alike and end for the same reason. The second writes the lines of the first but
for those of the frames with invalid detections, and has sent so many messages less. -/
theorem invalid_output_isolated (smooth₁ : Smooth M D₁ settings start k₁ w₁ find₁)
    (smooth₂ : Smooth M D₂ settings start k₂ w₂ find₂)
    (connected : k₁.isConnected = k₂.isConnected) (alike : OpensAlike M start w₁ w₂)
    (polled₁ : pollsOf M D₁ settings start k₁ w₁ <+: events)
    (polled₂ : pollsOf M D₂ settings start k₂ w₂ <+: events)
    (answered₁ : replies (run M.traced D₁.traced settings start k₁ (.start w₁)).2.2.trace <+:
      schedule)
    (answered₂ : replies (run M.traced D₂.traced settings start k₂ (.start w₂)).2.2.trace <+:
      schedule)
    (same : ∀ frame, invalid frame = false → find₂ frame = find₁ frame)
    (before : ∀ frame, invalid frame = true → ∀ d ∈ find₁ frame, d.Valid)
    (behind : ∀ frame, invalid frame = true → ∃ d ∈ find₂ frame, ¬ d.Valid) :
    let done₁ := run M.traced D₁.traced settings start k₁ (.start w₁)
    let done₂ := run M.traced D₂.traced settings start k₂ (.start w₂)
    let trace₁ := done₁.2.2.trace
    let trace₂ := done₂.2.2.trace
    untraced done₁ = run M D₁ settings start k₁ w₁ ∧
    untraced done₂ = run M D₂ settings start k₂ w₂ ∧
    passes trace₂ = passes trace₁ ∧
    (handed trace₂).map (·.1) = (handed trace₁).map (·.1) ∧
    loops trace₂ = loops trace₁ ∧
    pacerCalls M.traced D₂.traced settings start k₂ (.start w₂) =
      pacerCalls M.traced D₁.traced settings start k₁ (.start w₁) ∧
    done₂.1 = { done₁.1 with messagesSent := done₂.1.messagesSent } ∧
    (∀ source, (M.opening start w₁).1 = .ok source →
      let plan := planOf settings start (M.rate source)
      let due := (passes trace₁).due plan.interval
      let valid := due.filter fun shot => !invalid shot.1.frame
      (handed trace₁).map (·.1) = due.map (·.1.frame) ∧
      (wires trace₁).map (·.1) = due.filterMap (lineOf plan find₁) ∧
      (wires trace₂).map (·.1) = valid.filterMap (lineOf plan find₁) ∧
      (∀ shot, invalid shot.1.frame = true → (lineOf plan find₁ shot).isSome) ∧
      done₁.1.messagesSent =
        done₂.1.messagesSent + (due.filter fun shot => invalid shot.1.frame).length) ∧
    (∀ e, (M.opening start w₁).1 = .error e → wires trace₂ = wires trace₁ ∧ done₂.1 = done₁.1) := by
  intro done₁ done₂ trace₁ trace₂
  have said₁ := verdictsOf_isPrefix polled₁
  have said₂ := verdictsOf_isPrefix polled₂
  rw [← connected] at said₂
  obtain ⟨replied, ending⟩ :=
    same_course smooth₁ smooth₂ connected alike said₁ said₂ answered₁ answered₂
  have passed : passes trace₂ = passes trace₁ := passes_of_replies replied.symm
  have looped : loops trace₂ = loops trace₁ := loops_of_replies replied.symm
  have untraced₁ := run_traced M D₁ settings start k₁ (.start w₁)
  have untraced₂ := run_traced M D₂ settings start k₂ (.start w₂)
  rcases alike.sources with ⟨source, source₂, opened, opened₂, rate⟩ | ⟨e, e₂, failed, failed₂⟩
  · have shown₁ := shown_run smooth₁ opened
    have shown₂ := shown_run smooth₂ opened₂
    have calls₁ := pacerCalls_eq smooth₁ opened
    have calls₂ := pacerCalls_eq smooth₂ opened₂
    rw [← rate] at shown₂ calls₂
    have counts : done₂.1.toSessionCounts =
        { done₁.1.toSessionCounts with messagesSent := done₂.1.messagesSent } := by
      rw [shown₂.messagesSent_eq, shown₂.counts_eq, shown₁.counts_eq, passed, looped]
    have frames : done₂.1.framesRead = done₁.1.framesRead := by
      rw [shown₂.framesRead_eq, shown₁.framesRead_eq, passed]
    refine ⟨untraced₁, untraced₂, passed, ?_, looped, ?_, report_ext counts ending.symm, ?_, ?_⟩
    · rw [shown₂.frames_eq, shown₁.frames_eq, passed]
    · rw [calls₂, calls₁, frames]
    · intro source' opened' plan due valid
      obtain rfl := Except.ok.inj (opened.symm.trans opened')
      obtain ⟨lines, lengths⟩ := lines_of_invalid same before behind plan due
      refine ⟨shown₁.frames_eq, shown₁.lines_eq, ?_, fun shot gone => ?_, ?_⟩
      · rw [shown₂.lines_eq, passed]
        exact lines
      · exact (isSome_lineOf_iff plan find₁ shot).mpr (before _ gone)
      · rw [shown₁.messagesSent_eq, shown₂.messagesSent_eq, passed]
        exact lengths
    · intro e failed
      cases opened.symm.trans failed
  · obtain ⟨told₁, handed₁, -⟩ := shown_unavailable smooth₁ failed
    obtain ⟨told₂, handed₂, -⟩ := shown_unavailable smooth₂ failed₂
    rw [← connected, ← told₁] at told₂
    obtain ⟨report, wrote⟩ := Prod.mk.inj told₂
    refine ⟨untraced₁, untraced₂, passed, ?_, looped, ?_, ?_, ?_, fun _ _ => ⟨wrote, report⟩⟩
    · rw [handed₁, handed₂]
    · rw [pacerCalls_unopened failed, pacerCalls_unopened failed₂]
    · rw [report]
    · intro source opened
      cases opened.symm.trans failed

/-- One person on every frame. -/
def onePerson (_ : Nat) : List RawDetection := [⟨"person", .one, ⟨0, 0, 1, 1⟩⟩]

/-- Nameless on the first frame. -/
def firstNameless (frame : Nat) : List RawDetection :=
  if frame = 0 then [⟨"", .one, ⟨0, 0, 1, 1⟩⟩] else onePerson frame

/-- A clip that is stopped behind two frames, of which the first is analysed. -/
theorem invalid_output_isolated_of_clip :
    let M : Media Script.host SyntheticClip Nat := SyntheticClip.media Script.host
    let D₁ := lookupDetector onePerson
    let D₂ := lookupDetector firstNameless
    let done₁ := run M.traced D₁.traced .default everySecond crowdedClient (.start ⟨[], []⟩)
    let done₂ := run M.traced D₂.traced .default everySecond crowdedClient (.start ⟨[], []⟩)
    replies done₂.2.2.trace = replies done₁.2.2.trace ∧
    done₂.1 = { done₁.1 with messagesSent := done₂.1.messagesSent } ∧
    (handed done₂.2.2.trace).map (·.1) = [0] ∧
    (wires done₂.2.2.trace).map (·.1) = [] ∧
    done₁.1.messagesSent = done₂.1.messagesSent + 1 := by
  intro M D₁ D₂ done₁ done₂
  have sound : crowdedClient.channel.Sound := ⟨rfl, rfl, nofun⟩
  have smooth₁ : Smooth M D₁ .default everySecond crowdedClient ⟨[], []⟩ onePerson :=
    smooth_of_script onePerson .default everySecond sound []
  have smooth₂ : Smooth M D₂ .default everySecond crowdedClient ⟨[], []⟩ firstNameless :=
    smooth_of_script firstNameless .default everySecond sound []
  have two₁ := replies_crowdedClient smooth₁
  have two₂ := replies_crowdedClient smooth₂
  have answered₁ : replies done₁.2.2.trace <+: _ := ⟨[], (List.append_nil _).trans two₁⟩
  have answered₂ : replies done₂.2.2.trace <+: _ := ⟨[], (List.append_nil _).trans two₂⟩
  have polled₁ := polls_crowdedClient M D₁ .default everySecond ⟨[], []⟩
  have polled₂ := polls_crowdedClient M D₂ .default everySecond ⟨[], []⟩
  have same (frame : Nat) (none : decide (frame = 0) = false) :
      firstNameless frame = onePerson frame := if_neg (of_decide_eq_false none)
  have before (frame : Nat) (_ : decide (frame = 0) = true) : ∀ d ∈ onePerson frame, d.Valid :=
    List.forall_mem_cons.mpr ⟨⟨by decide +kernel, by decide⟩, nofun⟩
  have behind (frame : Nat) (first : decide (frame = 0) = true) :
      ∃ d ∈ firstNameless frame, ¬ d.Valid := by
    obtain rfl := of_decide_eq_true first
    exact ⟨_, List.mem_singleton_self _, fun valid => valid.2 rfl⟩
  obtain ⟨-, -, -, sameHanded, -, -, report, accounts, -⟩ := invalid_output_isolated smooth₁
    smooth₂ rfl rfl polled₁ polled₂ answered₁ answered₂ same before behind
  obtain ⟨frames, -, wrote, -, messages⟩ := accounts _ (opening_everySecond Script.host ⟨[], []⟩)
  have passed : passes done₁.2.2.trace = _ := passes_crowdedClient smooth₁
  have due : (passes done₁.2.2.trace).due (planOf .default everySecond none).interval =
      [(⟨0, none⟩, 0)] := by
    rw [passed]
    rfl
  have rate : M.rate (.ofFrames defaultClipFrames) = none := rfl
  rw [rate, due] at frames wrote messages
  exact ⟨two₂.trans two₁.symm, report, sameHanded.trans frames, wrote, messages⟩

end Session
end DetectionLink
