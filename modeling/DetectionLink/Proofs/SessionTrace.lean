import DetectionLink.Proofs.Passes
import DetectionLink.Proofs.Untraced
import DetectionLink.Simulation.Clip

/-!
# A session is exact

Whatever the media, the detector, the polls and the writes do: the frames given to the detector
are those due, each of them whose detections make a message is written as one line, in order, and
nothing follows the poll or the write that ends the session.

* `Faithful`: what holds between two iterations;
* `faithful_next`, `closing_finished`: an iteration that goes on, and the last one;
* `trace_exact`: whole sessions.
-/

namespace DetectionLink.Session

variable {σ S F : Type} {H : Host σ} {M : Media H S F} {D : Detector H F} {plan : Plan}
  {handle : Nat}

/-- Between two iterations the trace is exact, the index is the number of frames of the pass under
way, and every write was complete. -/
structure Faithful (plan : Plan) (handle : Nat) (r : Running (Traced σ F) S) : Prop where
  attached : Attached handle r.client
  index_eq : r.index = (passes r.world.trace).current.length
  exact_trace : Exact plan r.world.trace
  complete : ∀ wire ∈ wires r.world.trace, wire.2 = .complete

/-- What holds when a session ends. -/
structure Closing (plan : Plan) (trace : List (Event F)) : Prop where
  exact_trace : Exact plan trace
  silent : SilentAfterFailure trace

/-! ## One iteration -/

theorem shouldAnalyze_iff {index interval : Nat} (positive : 0 < interval) :
    shouldAnalyze index interval = true ↔ interval ∣ index := by
  rw [shouldAnalyze, Nat.max_eq_left positive, decide_eq_true_eq, Nat.dvd_iff_mod_eq_zero]

section Steps

variable {r r' : Running (Traced σ F) S}

/-- Deeds without a write keep every write complete. -/
theorem complete_of_idle {done : List (Event F)} (h : Faithful plan handle r)
    (happened : Happened done r.world r'.world) (nothingWritten : wires done = []) :
    ∀ wire ∈ wires r'.world.trace, wire.2 = .complete := by
  rw [wires_happened happened, nothingWritten, List.append_nil]
  exact h.complete

/-- A poll that lets the session go on, and the record of what it brought, leave it faithful. -/
theorem faithful_heeded (h : Faithful plan handle r)
    (continues : (polled (H.traced F) r).1.continues = true)
    (left : Left (polled (H.traced F) r).2 r' r.counts r.index
      (polled (H.traced F) r).2.client []) :
    Faithful plan handle r' := by
  have quiet : Happened [] r.world r'.world := (happened_polled r).trans left.happened
  refine ⟨?_, ?_, h.exact_trace.idle quiet rfl rfl rfl, complete_of_idle h quiet rfl⟩
  · exact left.client_eq ▸ attached_polled h.attached continues
  · rw [left.index_eq, h.index_eq, passes_happened quiet]
    rfl

theorem faithful_pulled (positive : 0 < plan.interval) (h : Faithful plan handle r)
    (pulled : Pulled M plan handle r (.goOn r')) : Faithful plan handle r' := by
  cases pulled with
  | rewound _ _ left =>
    obtain ⟨-, index, client, happened⟩ := left
    refine ⟨client ▸ h.attached, ?_, h.exact_trace.idle happened ?_ rfl rfl,
      complete_of_idle h happened rfl⟩
    · rw [index, passes_happened happened]
      rfl
    · exact Passes.due_rewound plan.interval _
  | skipped due left =>
    obtain ⟨-, index, client, happened⟩ := left
    refine ⟨client ▸ h.attached, ?_, h.exact_trace.idle happened ?_ rfl rfl,
      complete_of_idle h happened rfl⟩
    · rw [index, h.index_eq, passes_happened happened]
      exact (Passes.length_current_pulled _).symm
    · -- the frame joins the pass at a place that the interval does not divide
      have notDue := mt (shouldAnalyze_iff positive).mpr (Bool.eq_false_iff.mp due)
      rw [h.index_eq] at notDue
      refine (Passes.due_pulled plan.interval _ _ _).trans ?_
      rw [if_neg notDue, List.append_nil]
  | unencodable due encoded left =>
    obtain ⟨-, index, client, happened⟩ := left
    have isDue := (shouldAnalyze_iff positive).mp due
    rw [h.index_eq] at isDue encoded
    refine ⟨client ▸ h.attached, ?_, h.exact_trace.analysed [] happened isDue
      (fun _ => rfl) rfl ?_, complete_of_idle h happened rfl⟩
    · rw [index, h.index_eq, passes_happened happened]
      exact (Passes.length_current_pulled _).symm
    · rw [message, encoded]
      rfl
  | @sent _ _ _ line due encoded left =>
    obtain ⟨-, index, client, happened⟩ := left
    have isDue := (shouldAnalyze_iff positive).mp due
    rw [h.index_eq] at isDue encoded
    refine ⟨?_, ?_, h.exact_trace.analysed
      [.wrote handle (line ++ [lineTerminator]) .complete] happened isDue (fun _ => rfl) rfl ?_, ?_⟩
    · rw [client]
      exact ⟨h.attached.sound, h.attached.stream⟩
    · rw [index, h.index_eq, passes_happened happened]
      exact (Passes.length_current_pulled _).symm
    · rw [message, encoded]
      rfl
    · rw [wires_happened happened]
      intro wire mem
      rcases List.mem_append.mp mem with earlier | last
      · exact h.complete wire earlier
      · rw [List.mem_singleton.mp last]

theorem closing_pulled {ending : SessionEnd} (positive : 0 < plan.interval)
    (h : Faithful plan handle r) (pulled : Pulled M plan handle r (.finished ending r')) :
    Closing plan r'.world.trace := by
  cases pulled with
  | exhausted _ left =>
    exact ⟨h.exact_trace.idle left.happened rfl rfl rfl,
      silent_of_complete (complete_of_idle h left.happened rfl)⟩
  | stuck _ _ left =>
    exact ⟨h.exact_trace.idle left.happened rfl rfl rfl,
      silent_of_complete (complete_of_idle h left.happened rfl)⟩
  | @failed _ frame found line outcome due encoded _ left =>
    obtain ⟨-, -, -, happened⟩ := left
    have isDue := (shouldAnalyze_iff positive).mp due
    rw [h.index_eq] at isDue encoded
    refine ⟨h.exact_trace.analysed
      [.wrote handle (line ++ [lineTerminator]) outcome] happened isDue (fun _ => rfl) rfl ?_, ?_⟩
    · rw [message, encoded]
      rfl
    · -- the write that failed is the last deed, and all before it were complete
      have ends : deeds r'.world.trace =
          deeds r.world.trace ++ [.pulled (some frame) (M.position r'.source),
            .detected frame found] ++ [.wrote handle (line ++ [lineTerminator]) outcome] := by
        rw [happened.deeds_eq, List.append_assoc]
        rfl
      refine silent_of_last ends ?_
      have written : wires (deeds r.world.trace ++ [.pulled (some frame) (M.position r'.source),
          .detected frame found]) = wires r.world.trace := by
        rw [wires_deeds r.world.trace, wires, List.filterMap_append]
        exact List.append_nil _
      rw [written]
      exact h.complete

theorem faithful_next (positive : 0 < plan.interval) (h : Faithful plan handle r)
    (went : iterate M.traced D.traced plan r = .goOn r') : Faithful plan handle r' := by
  have iterated := iterated_iterate M D plan h.attached
  rw [went] at iterated
  cases iterated with
  | went poll left pulled => exact faithful_pulled positive (faithful_heeded h poll left) pulled

theorem closing_finished {ending : SessionEnd} (positive : 0 < plan.interval)
    (h : Faithful plan handle r)
    (last : iterate M.traced D.traced plan r = .finished ending r') :
    Closing plan r'.world.trace := by
  have iterated := iterated_iterate M D plan h.attached
  rw [last] at iterated
  have polled := happened_polled (H := H) r
  cases iterated with
  | stopped _ left =>
    have quiet := polled.trans left.happened
    exact ⟨h.exact_trace.idle quiet rfl rfl rfl,
      silent_of_complete (complete_of_idle h quiet rfl)⟩
  | lost _ =>
    exact ⟨h.exact_trace.idle polled rfl rfl rfl,
      silent_of_complete (complete_of_idle h polled rfl)⟩
  | went poll left pulled => exact closing_pulled positive (faithful_heeded h poll left) pulled

end Steps

/-! ## Whole sessions -/

/-- Quiet events behind the end keep it an end. -/
theorem Closing.quiet {t t' : Traced σ F} (h : Closing plan t.trace) (quiet : Happened [] t t') :
    Closing plan t'.trace := by
  refine ⟨h.exact_trace.idle quiet rfl rfl rfl, ?_⟩
  rw [SilentAfterFailure, quiet.deeds_eq, List.append_nil]
  exact h.silent

theorem planOf_interval_pos (settings : SessionSettings) (start : StartCommand)
    (rate : Option Binary64) : 0 < (planOf settings start rate).interval :=
  Nat.lt_of_lt_of_le Nat.one_pos (Nat.le_max_right ..)

/-- The trace begins with the opening of the media and a log record. -/
theorem faithful_started {settings : SessionSettings} {start : StartCommand} {k : Client}
    {source : S} {w : σ} (attached : Attached handle k) :
    Faithful plan handle (started (H.traced F) settings plan source k
      (M.traced.opening start (.start w)).2) where
  attached := attached
  index_eq := rfl
  exact_trace := ⟨rfl, rfl⟩
  complete := nofun

/-- A write of a session is one line and its terminator. -/
theorem line_of_mem_messages {trace : List (Event F)} {bytes : Bytes}
    (mem : bytes ∈ messages plan trace) :
    ∃ line, bytes = line ++ [lineTerminator] ∧ lineTerminator ∉ line := by
  obtain ⟨line?, mem, rfl⟩ := List.mem_filterMap.mp mem
  rw [← List.map_uncurry_zip_eq_zipWith] at mem
  obtain ⟨⟨shot, found⟩, _, made⟩ := List.mem_map.mp mem
  rw [Function.uncurry_apply_pair, message] at made
  cases encoded : encodeDetections (frameTimestampMs shot.1.position shot.2 plan.fps) found with
  | error e =>
    rw [encoded] at made
    exact absurd made nofun
  | ok line =>
    rw [encoded] at made
    exact ⟨line, (Option.some.inj made).symm, terminator_not_mem_of_encodeDetections encoded⟩

variable (M D plan) in
/-- After a poll that ends the session there are only quiet events. -/
theorem happened_of_last_poll {r : Running (Traced σ F) S} (attached : Attached handle r.client)
    (poll : (polled (H.traced F) r).1 = .command .stop ∨
      (polled (H.traced F) r).1 = .disconnected) :
    Happened [] (polled (H.traced F) r).2.world (runFrom M.traced D.traced plan r).2.world := by
  have iterated := iterated_iterate M D plan attached
  generalize step : iterate M.traced D.traced plan r = result at iterated
  cases iterated with
  | stopped _ left =>
    rw [runFrom_finished step]
    exact left.happened
  | lost _ =>
    rw [runFrom_finished step]
    exact .refl _
  | went continues _ _ =>
    rcases poll with poll | poll <;> rw [poll] at continues <;> exact absurd continues nofun

/-- A session on media that open, and its trace. The frames given to the detector are those whose
place in their pass the interval divides; the writes are the lines of these frames whose
detections make a message, in order, one line each; all of them are complete, or all but the last;
a write that is not complete is the last deed; and a poll that brings a stop or finds the
connection lost is followed by no deed. -/
theorem trace_exact (settings : SessionSettings) (start : StartCommand) {k : Client} {source : S}
    {w : σ} (sound : k.channel.Sound) (connected : k.isConnected = true)
    (opened : (M.opening start w).1 = .ok source) :
    let plan := planOf settings start (M.rate source)
    let begun := started (H.traced F) settings plan source k (M.traced.opening start (.start w)).2
    let trace := (run M.traced D.traced settings start k (.start w)).2.2.trace
    untraced (run M.traced D.traced settings start k (.start w)) = run M D settings start k w ∧
    (handed trace).map (·.1) = ((passes trace).due plan.interval).map (·.1.frame) ∧
    (wires trace).map (·.1) = messages plan trace ∧
    (completeLines trace = messages plan trace ∨
      ∃ lost, messages plan trace = completeLines trace ++ [lost]) ∧
    (∀ wire ∈ wires trace, ∃ line, wire.1 = line ++ [lineTerminator] ∧ lineTerminator ∉ line) ∧
    SilentAfterFailure trace ∧
    ∀ r, Reaches M.traced D.traced plan begun r →
      (polled (H.traced F) r).1 = .command .stop ∨ (polled (H.traced F) r).1 = .disconnected →
      ∃ after, trace = (polled (H.traced F) r).2.world.trace ++ after ∧ deeds after = [] := by
  intro plan begun trace
  obtain ⟨handle, attached⟩ := exists_attached sound connected
  have positive := planOf_interval_pos settings start (M.rate source)
  have first : Faithful plan handle begun := faithful_started attached
  have faithful {r : Running (Traced σ F) S} (reached : Reaches M.traced D.traced plan begun r) :
      Faithful plan handle r :=
    reached.invariant first fun _ _ h went => faithful_next positive h went
  -- behind the loop there is only the record of how the session ended
  have ends : Happened [] (runFrom M.traced D.traced plan begun).2.world
      (run M.traced D.traced settings start k (.start w)).2.2 := by
    have opened : (M.traced.opening start (.start w)).1 = .ok source := opened
    rw [run_opened opened]
    exact happened_note H _ _
  obtain ⟨last, reached, finished⟩ := exists_last M.traced D.traced plan begun
  obtain ⟨exact_trace, silent⟩ := (closing_finished positive (faithful reached) finished).quiet ends
  refine ⟨run_traced M D settings start k (.start w), exact_trace.handed_eq, exact_trace.wires_eq,
    exact_trace.wires_eq ▸ completeLines_of_silent silent, ?_, silent, ?_⟩
  · intro wire mem
    have written : wire.1 ∈ (wires trace).map (·.1) := List.mem_map_of_mem mem
    rw [exact_trace.wires_eq] at written
    exact line_of_mem_messages written
  · intro r reached poll
    have quiet := happened_of_last_poll M D plan (faithful reached).attached poll
    rw [← runFrom_of_reaches reached] at quiet
    exact quiet.trans ends

/-- Every second frame of a clip of the usual length, once. -/
def everySecond : StartCommand where
  videoPath := "clip"
  durationSec := .zero
  fps := .zero
  loop := false
  frameInterval := some 2

/-- A client that is connected and has received nothing. -/
def connectedClient : Client where
  channel := ⟨⟨[], ⟨0⟩, ⟨0⟩, ⟨0⟩, 0, 64⟩, .connected, some 0, .ofLimit 64⟩
  inbox := .ofPollTimeout ⟨0⟩
  sent := 0

/-- Nobody is ever found. -/
def blindDetector : Detector Script.host Nat := ⟨fun _ s => ([], s), fun _ _ => Nat.le_refl _⟩

/-- A clip on a link whose third write fails. -/
theorem trace_exact_of_clip :
    let M : Media Script.host SyntheticClip Nat := SyntheticClip.media Script.host
    let script : Script := ⟨List.replicate 9 .expired, [.complete, .complete, .failed 3 "reset"]⟩
    let plan := planOf .default everySecond none
    let trace := (run M.traced blindDetector.traced .default everySecond connectedClient
      (.start script)).2.2.trace
    (connectedClient.channel.Sound ∧ connectedClient.isConnected = true ∧
      (M.opening everySecond script).1 = .ok (.ofFrames defaultClipFrames)) ∧
    (handed trace).map (·.1) = ((passes trace).due plan.interval).map (·.1.frame) ∧
    (wires trace).map (·.1) = messages plan trace := by
  intro M script plan trace
  have sound : connectedClient.channel.Sound := ⟨rfl, rfl, nofun⟩
  have opened : (M.opening everySecond script).1 = .ok (.ofFrames defaultClipFrames) := rfl
  obtain ⟨_, given, written, _⟩ := trace_exact (M := M) (D := blindDetector) .default everySecond
    sound rfl opened
  exact ⟨⟨sound, rfl, opened⟩, given, written⟩

end DetectionLink.Session
