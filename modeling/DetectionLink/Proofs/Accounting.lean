import DetectionLink.Proofs.Delivery
import DetectionLink.Proofs.SessionTrace
import Mathlib.Algebra.GroupWithZero.Nat
import Mathlib.Data.List.Induction

/-!
# The counts of a session balance

A session counts frames, analysed frames, messages and loops at different points of an iteration,
and its client counts messages once more. All of it is compared with what the trace shows.

* `Passes.length_dueIn`: how many frames of a pass are analysed;
* `tally`: the counts by a trace, event by event; `tally_eq`: what they come to;
* `Balanced`: a session has counted what its trace shows; `balanced_iterated`: one iteration;
* `trace_invariant`: what frames keep holds of the trace of a whole session;
* `report_balances`: the report of a whole session.
-/

namespace DetectionLink

variable {σ S F : Type}

/-! ## Passes -/

namespace Passes

/-- How many frames each pass has. -/
def lengths (p : Passes F) : List Nat := p.all.map List.length

def frames (p : Passes F) : Nat := p.lengths.sum

theorem frames_pulled (p : Passes F) (frame : F) (position : Option Binary64) :
    (p.add (.pulled (some frame) position)).frames = p.frames + 1 := by
  simp [frames, lengths, all, add, Nat.add_assoc]

theorem frames_rewound (p : Passes F) : (p.add (.rewound true)).frames = p.frames := by
  simp [frames, lengths, all, add]

/-- One more frame is one more to analyse if the interval divides its place. -/
theorem turns_succ (interval count : Nat) (positive : 0 < interval) :
    (count + 1 + interval - 1) / interval =
      (count + interval - 1) / interval + if interval ∣ count then 1 else 0 := by
  have next : count + 1 + interval - 1 = count + interval - 1 + 1 := by omega
  have shifted : count + interval - 1 + 1 = count + interval := by omega
  have same : interval ∣ count + interval ↔ interval ∣ count :=
    Nat.dvd_add_left (Nat.dvd_refl interval)
  rw [next, Nat.succ_div, shifted]
  simp only [same]

/-- Of a pass one frame in `interval` is due, the first of them included. -/
theorem length_dueIn {interval : Nat} (positive : 0 < interval) (pass : List (Shot F)) :
    (dueIn interval pass).length = (pass.length + interval - 1) / interval := by
  induction pass using List.reverseRecOn with
  | nil => exact (Nat.div_eq_of_lt (by simp; omega)).symm
  | append_singleton pass shot ih =>
    rw [dueIn_concat, List.length_append, ih, List.length_append, List.length_singleton,
      turns_succ _ _ positive]
    split <;> rfl

theorem length_due {interval : Nat} (positive : 0 < interval) (p : Passes F) :
    (p.due interval).length =
      (p.lengths.map fun length => (length + interval - 1) / interval).sum := by
  rw [due, List.length_flatMap, lengths, List.map_map]
  exact congrArg List.sum (List.map_congr_left fun pass _ => length_dueIn positive pass)

end Passes

/-! ## What a trace has to count -/

namespace Event

def isLoop : Event F → Bool
  | .rewound succeeded => succeeded
  | _ => false

end Event

/-- The successful rewinds. -/
def loops (trace : List (Event F)) : Nat := trace.countP Event.isLoop

/-- One more event. -/
def count (counts : SessionCounts) : Event F → SessionCounts
  | .pulled (some _) _ => { counts with framesRead := counts.framesRead + 1 }
  | .detected _ _ => { counts with framesAnalyzed := counts.framesAnalyzed + 1 }
  | .wrote _ _ .complete => { counts with messagesSent := counts.messagesSent + 1 }
  | .rewound true => { counts with loopsCompleted := counts.loopsCompleted + 1 }
  | _ => counts

/-- The counts of a session, by its trace. -/
def tally (trace : List (Event F)) : SessionCounts := trace.foldl count Session.noCounts

theorem count_quiet (event : Event F) (quiet : event.isQuiet = true) (counts : SessionCounts) :
    count counts event = counts := by
  cases event <;> first | rfl | exact absurd quiet nofun

theorem count_incomplete {handle : Nat} {bytes : Bytes} {outcome : WriteOutcome}
    (incomplete : outcome ≠ .complete) (counts : SessionCounts) :
    count counts (.wrote handle bytes outcome : Event F) = counts := by
  cases outcome with
  | complete => exact absurd rfl incomplete
  | failed _ _ => rfl
  | expired _ => rfl

theorem tally_happened {done : List (Event F)} {t t' : Traced σ F} (h : Happened done t t') :
    tally t'.trace = done.foldl count (tally t.trace) := by
  obtain ⟨added, grown, rfl⟩ := h
  rw [grown, tally, List.foldl_append, foldl_deeds count_quiet added]
  rfl

theorem tally_concat (trace : List (Event F)) (event : Event F) :
    tally (trace ++ [event]) = count (tally trace) event := by
  rw [tally, List.foldl_append]
  rfl

theorem passes_concat (trace : List (Event F)) (event : Event F) :
    passes (trace ++ [event]) = (passes trace).add event := by
  rw [passes, List.foldl_append]
  rfl

theorem tally_eq (trace : List (Event F)) :
    tally trace = ⟨(passes trace).frames, (handed trace).length, (completeLines trace).length,
      loops trace⟩ := by
  induction trace using List.reverseRecOn with
  | nil => rfl
  | append_singleton trace event ih =>
    rw [tally_concat, ih, passes_concat]
    simp only [handed, completeLines, loops, List.filterMap_append, List.countP_append,
      List.length_append]
    cases event with
    | pulled frame position =>
      cases frame with
      | some frame =>
        rw [Passes.frames_pulled]
        rfl
      | none => rfl
    | rewound succeeded =>
      cases succeeded with
      | true =>
        rw [Passes.frames_rewound]
        rfl
      | false => rfl
    | wrote handle bytes outcome => cases outcome <;> rfl
    | _ => rfl

/-- The analysed frames whose detections make no message. -/
def unencodable (plan : Session.Plan) (trace : List (Event F)) : Nat :=
  (List.zipWith (message plan.fps) ((passes trace).due plan.interval)
    ((handed trace).map (·.2))).countP Option.isNone

theorem length_handed {plan : Session.Plan} {trace : List (Event F)} (h : Exact plan trace) :
    (handed trace).length = ((passes trace).due plan.interval).length := by
  have lengths := congrArg List.length h.handed_eq
  simpa using lengths

/-- Every analysed frame has its message or makes none. -/
theorem length_messages {plan : Session.Plan} {trace : List (Event F)} (h : Exact plan trace) :
    (handed trace).length = (messages plan trace).length + unencodable plan trace := by
  have aligned := length_handed h
  have all : (List.zipWith (message plan.fps) ((passes trace).due plan.interval)
      ((handed trace).map (·.2))).length = (handed trace).length := by
    simp [← aligned]
  rw [← all, List.length_eq_countP_add_countP Option.isSome, messages,
    List.length_filterMap_eq_countP]
  refine congrArg (_ + ·) (List.countP_congr fun line _ => ?_)
  cases line <;> simp

namespace Session

variable {H : Host σ} {M : Media H S F} {D : Detector H F} {plan : Plan} {handle sent : Nat}

/-! ## One iteration -/

/-- A session has counted what its trace shows, and its client the messages. -/
structure Balanced (sent : Nat) (r : Running (Traced σ F) S) : Prop where
  counts_eq : r.counts = tally r.world.trace
  sent_eq : r.client.sent = sent + r.counts.messagesSent

section Steps

variable {r r' : Running (Traced σ F) S} {counts : SessionCounts} {index : Nat} {client : Client}
  {done : List (Event F)}

/-- A step counts its deeds. -/
theorem Balanced.left (h : Balanced sent r) (left : Left r r' counts index client done)
    (counted : counts = done.foldl count r.counts)
    (reported : client.sent + r.counts.messagesSent = r.client.sent + counts.messagesSent) :
    Balanced sent r' where
  counts_eq := by rw [left.counts_eq, counted, tally_happened left.happened, h.counts_eq]
  sent_eq := by
    have before := h.sent_eq
    rw [left.client_eq, left.counts_eq]
    omega

theorem balanced_pulled {step : Step (Traced σ F) S} (h : Balanced sent r)
    (pulled : Pulled M plan handle r step) : Balanced sent step.running := by
  cases pulled with
  | exhausted _ left => exact h.left left rfl rfl
  | stuck _ _ left => exact h.left left rfl rfl
  | rewound _ _ left => exact h.left left rfl rfl
  | skipped _ left => exact h.left left rfl rfl
  | unencodable _ _ left => exact h.left left rfl rfl
  | sent _ _ left => exact h.left left rfl (by simp only; omega)
  | failed _ _ incomplete left => exact h.left left (count_incomplete incomplete _).symm rfl

theorem balanced_iterated {step : Step (Traced σ F) S} (h : Balanced sent r)
    (iterated : Iterated M plan handle r step) : Balanced sent step.running := by
  have polled : Left r (Session.polled (H.traced F) r).2 r.counts r.index
      (Session.polled (H.traced F) r).2.client [] := ⟨rfl, rfl, rfl, happened_polled r⟩
  have kept : Balanced sent (Session.polled (H.traced F) r).2 := h.left polled rfl rfl
  cases iterated with
  | stopped _ left => exact kept.left left rfl rfl
  | lost _ => exact kept
  | went _ left pulled => exact balanced_pulled (kept.left left rfl rfl) pulled

/-- Both invariants hold up to the last iteration. -/
theorem balanced_reached (positive : 0 < plan.interval)
    (reached : Reaches M.traced D.traced plan r r') (faithful : Faithful plan handle r)
    (balanced : Balanced sent r) : Faithful plan handle r' ∧ Balanced sent r' := by
  induction reached with
  | here => exact ⟨faithful, balanced⟩
  | next _ went ih =>
    have iterated := iterated_iterate M D plan ih.1.attached
    rw [went] at iterated
    exact ⟨faithful_next positive ih.1 went, balanced_iterated ih.2 iterated⟩

/-- A session whose trace is broken off ended for that reason. -/
theorem disconnected_of_brokenOff {ending : SessionEnd} (h : Faithful plan handle r)
    (last : iterate M.traced D.traced plan r = .finished ending r')
    (broken : BrokenOff r'.world.trace) : ending = .disconnected := by
  have iterated := iterated_iterate M D plan h.attached
  rw [last] at iterated
  cases iterated with
  | stopped _ left =>
    have quiet := (happened_polled (H := H) r).trans left.happened
    exact absurd broken (not_brokenOff_of_complete (complete_of_idle h quiet rfl))
  | lost _ => rfl
  | went poll left pulled =>
    have heeded := faithful_heeded h poll left
    cases pulled with
    | exhausted _ left =>
      exact absurd broken (not_brokenOff_of_complete (complete_of_idle heeded left.happened rfl))
    | stuck _ _ left =>
      exact absurd broken (not_brokenOff_of_complete (complete_of_idle heeded left.happened rfl))
    | failed _ _ _ _ => rfl

end Steps

/-! ## The whole loop -/

/-- What holds when the loop of a session is over. -/
structure Accounted (plan : Plan) (sent : Nat) (done : SessionEnd × Running (Traced σ F) S) :
    Prop where
  closing : Closing plan done.2.world.trace
  balanced : Balanced sent done.2
  disconnected : BrokenOff done.2.world.trace → done.1 = .disconnected

/-- A session that finds the connection gone ends before its first poll. -/
theorem iterate_of_not_connected {r : Running σ S} (gone : r.client.isConnected = false) :
    iterate M D plan r = .finished .disconnected r := by
  rw [iterate, if_neg (Bool.eq_false_iff.mp gone)]

section Traces

variable {P : List (Event F) → Prop}
  (quiet : ∀ {t t' : Traced σ F}, Happened [] t t' → P t.trace → P t'.trace)
  (kept : ∀ {handle : Nat} {r : Running (Traced σ F) S} {step : Step (Traced σ F) S},
    Faithful plan handle r → P r.world.trace → Pulled M plan handle r step →
      P step.running.world.trace)
include quiet kept

/-- What quiet events and frames keep is kept by an iteration. -/
theorem holds_iterate {r : Running (Traced σ F) S} (h : Faithful plan handle r)
    (holds : P r.world.trace) : P (iterate M.traced D.traced plan r).running.world.trace := by
  have iterated := iterated_iterate M D plan h.attached
  generalize iterate M.traced D.traced plan r = step at iterated
  have polled := happened_polled (H := H) r
  cases iterated with
  | stopped _ left => exact quiet (polled.trans left.happened) holds
  | lost _ => exact quiet polled holds
  | went poll left pulled =>
    exact kept (faithful_heeded h poll left) (quiet (polled.trans left.happened) holds) pulled

end Traces

/-- What quiet events and frames keep, from the opening of the media on, holds of the trace of a
whole session. -/
theorem trace_invariant {P : List (Event F) → Prop} (settings : SessionSettings)
    (start : StartCommand) {k : Client} {source : S} {w : σ} (sound : k.channel.Sound)
    (opened : (M.opening start w).1 = .ok source) (first : ∀ succeeded, P [.opened start succeeded])
    (quiet : ∀ {t t' : Traced σ F}, Happened [] t t' → P t.trace → P t'.trace)
    (kept : ∀ {handle : Nat} {r : Running (Traced σ F) S} {step : Step (Traced σ F) S},
      Faithful (planOf settings start (M.rate source)) handle r → P r.world.trace →
        Pulled M (planOf settings start (M.rate source)) handle r step →
          P step.running.world.trace) :
    P (run M.traced D.traced settings start k (.start w)).2.2.trace := by
  have opened : (M.traced.opening start (.start w)).1 = .ok source := opened
  rw [run_opened opened]
  refine quiet (happened_note H _ _) ?_
  let plan := planOf settings start (M.rate source)
  let begun := started (H.traced F) settings plan source k (M.traced.opening start (.start w)).2
  have first : P begun.world.trace := quiet (happened_note H _ _) (first _)
  change P (runFrom M.traced D.traced plan begun).2.world.trace
  cases connected : k.isConnected with
  | false =>
    rw [runFrom_finished (iterate_of_not_connected connected)]
    exact first
  | true =>
    obtain ⟨handle, attached⟩ := exists_attached sound connected
    have positive := planOf_interval_pos settings start (M.rate source)
    obtain ⟨last, reached, finished⟩ := exists_last M.traced D.traced plan begun
    have next (a b : Running (Traced σ F) S) (h : Faithful plan handle a ∧ P a.world.trace)
        (went : iterate M.traced D.traced plan a = .goOn b) :
        Faithful plan handle b ∧ P b.world.trace := by
      have holds := holds_iterate (D := D) quiet kept h.1 h.2
      rw [went] at holds
      exact ⟨faithful_next positive h.1 went, holds⟩
    obtain ⟨faithful, holds⟩ := reached.invariant ⟨faithful_started attached, first⟩ next
    have ended := holds_iterate (D := D) quiet kept faithful holds
    rwa [finished] at ended

theorem accounted_loop (settings : SessionSettings) (start : StartCommand) (source : S)
    {k : Client} {w : σ} (sound : k.channel.Sound) :
    let plan := planOf settings start (M.rate source)
    Accounted plan k.sent (runFrom M.traced D.traced plan
      (started (H.traced F) settings plan source k (M.traced.opening start (.start w)).2)) := by
  intro plan
  generalize begun_eq : started (H.traced F) settings plan source k
    (M.traced.opening start (.start w)).2 = begun
  have first : Balanced k.sent begun := begun_eq ▸ ⟨rfl, rfl⟩
  cases connected : k.isConnected with
  | false =>
    have gone : begun.client.isConnected = false := begun_eq ▸ connected
    rw [runFrom_finished (iterate_of_not_connected gone)]
    have silent : ∀ wire ∈ wires begun.world.trace, wire.2 = .complete := begun_eq ▸ nofun
    exact ⟨⟨begun_eq ▸ ⟨rfl, rfl⟩, silent_of_complete silent⟩, first, fun _ => rfl⟩
  | true =>
    obtain ⟨handle, attached⟩ := exists_attached sound connected
    have positive := planOf_interval_pos settings start (M.rate source)
    obtain ⟨last, reached, finished⟩ := exists_last M.traced D.traced plan begun
    obtain ⟨faithful, balanced⟩ :=
      balanced_reached positive reached (begun_eq ▸ faithful_started attached) first
    have iterated := iterated_iterate M D plan faithful.attached
    rw [finished] at iterated
    exact ⟨closing_finished positive faithful finished, balanced_iterated balanced iterated,
      disconnected_of_brokenOff faithful finished⟩

/-- A session whose media open: what holds when its loop is over holds of its report. -/
theorem accounted_run (settings : SessionSettings) (start : StartCommand) {source : S}
    {k : Client} {w : σ} (sound : k.channel.Sound) (opened : (M.opening start w).1 = .ok source) :
    let done := run M.traced D.traced settings start k (.start w)
    Closing (planOf settings start (M.rate source)) done.2.2.trace ∧
    done.1.toSessionCounts = tally done.2.2.trace ∧
    (BrokenOff done.2.2.trace → done.1.ending = .disconnected) ∧
    done.2.1.sent = k.sent + done.1.messagesSent := by
  intro done
  have accounted := accounted_loop (M := M) (D := D) settings start source (w := w) sound
  have whole : done = _ := run_opened (M := M.traced) (D := D.traced) opened
  have rate : planOf settings start (M.traced.rate source) =
      planOf settings start (M.rate source) := rfl
  rw [rate] at whole
  dsimp only at accounted
  generalize planOf settings start (M.rate source) = plan at accounted whole ⊢
  generalize runFrom M.traced D.traced plan (started (H.traced F) settings plan source k
    (M.traced.opening start (.start w)).2) = ended at accounted whole
  -- behind the loop there is only the record of how the session ended
  have ends : Happened [] ended.2.world done.2.2 := whole ▸ happened_note H _ _
  have ending : done.1.ending = ended.1 := congrArg (·.1.ending) whole
  have client : done.2.1.sent = ended.2.client.sent := congrArg (·.2.1.sent) whole
  refine ⟨accounted.closing.quiet ends, ?_, fun broken => ?_, ?_⟩
  · rw [tally_happened ends, List.foldl_nil, ← accounted.balanced.counts_eq]
    exact congrArg (·.1.toSessionCounts) whole
  · rw [BrokenOff, ends.deeds_eq, List.append_nil] at broken
    rw [ending, accounted.disconnected broken]
  · rw [client, accounted.balanced.sent_eq]
    exact congrArg (k.sent + ·.1.messagesSent) whole.symm

/-- Of the frames analysed at most one has no message on the wire whole: the one with which the
connection was lost. -/
theorem exists_lost {trace : List (Event F)} {ending : SessionEnd} (closing : Closing plan trace)
    (gone : BrokenOff trace → ending = .disconnected) :
    ∃ lost, (handed trace).length = (completeLines trace).length + unencodable plan trace + lost ∧
      (lost = 0 ∨ lost = 1) ∧ (lost = 1 ↔ ending = .disconnected ∧ BrokenOff trace) := by
  have all := length_messages closing.exact_trace
  have wrote := congrArg List.length closing.exact_trace.wires_eq
  rcases complete_or_brokenOff closing.silent with complete | ⟨broken, lost, last⟩
  · have lines := congrArg List.length (completeLines_of_complete complete)
    have unbroken := not_brokenOff_of_complete complete
    exact ⟨0, by omega, .inl rfl, by simp [unbroken]⟩
  · have lines := congrArg List.length last
    rw [List.length_append, List.length_singleton] at lines
    exact ⟨1, by omega, .inr rfl, by simp [gone broken, broken]⟩

/-! ## Media that cannot be opened -/

/-- The session that only reports that its media cannot be opened, as far as its messages go:
either one empty message was written, or none could be and the channel is closed. -/
inductive Told (k : Client) (trace : List (Event F)) : SessionReport → Client → Prop
  | sent {line : Bytes} (encoded : encodeDetections 0 [] = .ok line)
      (wrote : wires trace = [(line ++ [lineTerminator], .complete)]) :
      Told k trace ⟨{ noCounts with messagesSent := 1 }, .mediaUnavailable⟩
        { k with sent := k.sent + 1 }
  | lost {channel : Channel} (left : channel = k.channel ∨ channel = k.channel.closed)
      (wrote : completeLines trace = []) :
      Told k trace ⟨noCounts, .disconnected⟩ { k with channel }

theorem encodeDetections_nil (timestampMs : UInt64) :
    encodeDetections timestampMs [] = .ok (DetectionMessage.empty timestampMs).encode := by
  have built : DetectionMessage.ofDetections timestampMs [] = .ok (.empty timestampMs) := by
    simp [DetectionMessage.ofDetections, DetectionMessage.empty, MessageBuilder.build,
      MessageBuilder.withTimestamp, MessageBuilder.withDetections, MessageBuilder.empty,
      MessageBuilder.firstFault?, MessageBuilder.ranked, MessageBuilder.placedFrom]
  rw [encodeDetections, built]

theorem told_unavailable (start : StartCommand) (e : MediaError) (k : Client) (t : Traced σ F)
    (nothingWritten : wires t.trace = []) (noLine : completeLines t.trace = []) :
    let done := unavailable (H.traced F) start e k t
    Told k done.2.2.trace done.1 done.2.1 := by
  have noted := happened_note H t (unavailableRecord (H.traced F).wording start e)
  unfold unavailable
  generalize (H.traced F).note _ t = t' at noted
  have encoded := encodeDetections_nil 0
  cases stream : k.channel.stream with
  | none =>
    have refused :
        k.sendDetections (H.traced F) 0 [] t' = (.error Channel.notConnected, k, t') := by
      simp only [Client.sendDetections, encoded, Client.sendLine, Channel.sendLine, stream]
    rw [refused]
    refine .lost (.inl rfl) ?_
    rw [completeLines_happened (noted.quiet (happened_note H _ _)), noLine]
    rfl
  | some handle =>
    have emission := emission_sendDetections (H := H) stream 0 [] t'
    generalize k.sendDetections (H.traced F) 0 [] t' = result at emission ⊢
    cases emission with
    | unencodable fault => cases encoded.symm.trans fault
    | sent made wrote =>
      refine .sent made ?_
      rw [wires_happened (noted.trans wrote), nothingWritten]
      rfl
    | failed _ incomplete _ wrote =>
      refine .lost (.inr rfl) ?_
      rw [completeLines_happened ((noted.trans wrote).quiet (happened_note H _ _)), noLine]
      exact List.filterMap_cons_none (completeLine?_eq_none incomplete)

theorem run_failed {settings : SessionSettings} {start : StartCommand} {k : Client} {w : σ}
    {e : MediaError} (failed : (M.opening start w).1 = .error e) :
    run M D settings start k w = unavailable H start e k (M.opening start w).2 := by
  rw [run, failed]

theorem received_unavailable (start : StartCommand) (e : MediaError) (k : Client)
    (t : Traced σ F) :
    received (unavailable (H.traced F) start e k t).2.2.trace = received t.trace := by
  have sent := received_sendDetections (H := H) 0 [] k ((H.traced F).note
    (unavailableRecord (H.traced F).wording start e) t)
  rw [received_note] at sent
  unfold unavailable
  dsimp only
  split
  · exact sent
  · rw [received_note]
    exact sent

/-! ## Whole sessions -/

/-- The report of a session, and its trace. On media that open, the frames read are those of all
passes, one in `interval` of each pass was analysed, the loops are the successful rewinds, and an
analysed frame was sent, or made no message, or is the one whose message could not be sent, which
ended the session; the messages are the complete lines, and the client's own count grew by them.
On media that do not open nothing is counted but the one empty message, no byte is read and no
command is taken. -/
theorem report_balances (settings : SessionSettings) (start : StartCommand) {k : Client} {w : σ}
    (sound : k.channel.Sound) :
    let done := run M.traced D.traced settings start k (.start w)
    let report := done.1
    let trace := done.2.2.trace
    untraced done = run M D settings start k w ∧
    (∀ source, (M.opening start w).1 = .ok source →
      let plan := planOf settings start (M.rate source)
      report.framesRead = (passes trace).lengths.sum ∧
      report.loopsCompleted = loops trace ∧
      report.framesAnalyzed = ((passes trace).lengths.map fun length =>
        (length + plan.interval - 1) / plan.interval).sum ∧
      (∃ lost, report.framesAnalyzed = report.messagesSent + unencodable plan trace + lost ∧
        (lost = 0 ∨ lost = 1) ∧
        (lost = 1 ↔ report.ending = .disconnected ∧ BrokenOff trace)) ∧
      report.messagesSent = (completeLines trace).length ∧
      done.2.1.sent = k.sent + report.messagesSent) ∧
    (∀ e, (M.opening start w).1 = .error e →
      report.framesRead = 0 ∧ report.framesAnalyzed = 0 ∧ report.loopsCompleted = 0 ∧
      received trace = [] ∧ done.2.1.inbox = k.inbox ∧
      (report.ending = .mediaUnavailable ∧ report.messagesSent = 1 ∧
          done.2.1 = { k with sent := k.sent + 1 } ∧
          (∃ line, encodeDetections 0 [] = .ok line ∧
            wires trace = [(line ++ [lineTerminator], .complete)]) ∨
        report.ending = .disconnected ∧ report.messagesSent = 0 ∧ done.2.1.sent = k.sent ∧
          (done.2.1.channel = k.channel ∨ done.2.1.channel = k.channel.closed) ∧
          completeLines trace = [])) := by
  intro done report trace
  refine ⟨run_traced M D settings start k (.start w), fun source opened => ?_, fun e failed => ?_⟩
  · intro plan
    obtain ⟨closing, counts, gone, sent⟩ := accounted_run (D := D) settings start sound opened
    have shown : report.toSessionCounts = _ := counts.trans (tally_eq trace)
    have analyzed : report.framesAnalyzed = (handed trace).length :=
      congrArg SessionCounts.framesAnalyzed shown
    have messages : report.messagesSent = (completeLines trace).length :=
      congrArg SessionCounts.messagesSent shown
    have positive := planOf_interval_pos settings start (M.rate source)
    refine ⟨congrArg SessionCounts.framesRead shown, congrArg SessionCounts.loopsCompleted shown,
      ?_, ?_, messages, sent⟩
    · rw [analyzed, length_handed closing.exact_trace, Passes.length_due positive]
    · rw [analyzed, messages]
      exact exists_lost closing gone
  · have unopened : done =
        unavailable (H.traced F) start e k (M.traced.opening start (.start w)).2 :=
      run_failed (M := M.traced) failed
    have told : Told k trace report done.2.1 := by
      have told := told_unavailable (H := H) start e k (M.traced.opening start (.start w)).2 rfl rfl
      rwa [← unopened] at told
    have nothing : received trace = [] := by
      have kept := received_unavailable (H := H) start e k (M.traced.opening start (.start w)).2
      rwa [← unopened] at kept
    generalize done.2.1 = client at told
    generalize report = report at told
    cases told with
    | sent encoded wrote =>
      exact ⟨rfl, rfl, rfl, nothing, rfl, .inl ⟨rfl, rfl, rfl, _, encoded, wrote⟩⟩
    | lost left wrote =>
      exact ⟨rfl, rfl, rfl, nothing, rfl, .inr ⟨rfl, rfl, rfl, left, wrote⟩⟩

/-- The report of a clip on a link whose third write fails. -/
theorem report_balances_of_clip :
    let M : Media Script.host SyntheticClip Nat := SyntheticClip.media Script.host
    let script : Script := ⟨List.replicate 9 .expired, [.complete, .complete, .failed 3 "reset"]⟩
    let done := run M.traced blindDetector.traced .default everySecond connectedClient
      (.start script)
    connectedClient.channel.Sound ∧
    done.1.framesRead = (passes done.2.2.trace).lengths.sum ∧
    done.1.framesAnalyzed = ((passes done.2.2.trace).lengths.map (fun n => (n + 1) / 2)).sum ∧
    done.1.messagesSent = (completeLines done.2.2.trace).length ∧
    done.2.1.sent = done.1.messagesSent := by
  intro M script done
  have sound : connectedClient.channel.Sound := ⟨rfl, rfl, nofun⟩
  have opened : (M.opening everySecond script).1 = .ok (.ofFrames defaultClipFrames) := rfl
  obtain ⟨_, accounts, _⟩ := report_balances (M := M) (D := blindDetector) (w := script) .default
    everySecond sound
  obtain ⟨frames, _, analyzed, _, messages, sent⟩ := accounts _ opened
  exact ⟨sound, frames, analyzed, messages, sent.trans (Nat.zero_add _)⟩

end Session
end DetectionLink
