import DetectionLink.Proofs.Connection
import DetectionLink.Proofs.ControlFree
import DetectionLink.Proofs.Trace
import DetectionLink.Session.Pacing

/-!
# What the link does to a traced world

Waiting for commands and closing are quiet. Writing on an open channel either stops short of the
stream or is exactly one write of one line.

* `happened_waitUntil`: a wait;
* `Transmission`, `transmission_sendLine`: the three ways of writing a line;
* `Emission`, `emission_sendDetections`: the three ways of sending detections.
-/

namespace DetectionLink

variable {σ F : Type} {H : Host σ}

/-! ## Quiet operations -/

theorem happened_close (c : Channel) (t : Traced σ F) :
    Happened [] t (c.close (H.traced F) t).2 := by
  unfold Channel.close
  split
  · exact (happened_release H t _).trans (happened_note H _ _)
  · exact .refl t

theorem happened_receiveUntil (deadline : Option Instant) (c : Channel) (t : Traced σ F) :
    Happened [] t (c.receiveUntil (H.traced F) deadline t).2.2 := by
  induction c, t using Channel.receiveUntil.induct (H.traced F) deadline with
  | case1 c t entry lines next =>
    rw [Channel.receiveUntil_entry next]
    exact .refl t
  | case2 c t next stream =>
    rw [Channel.receiveUntil_noStream next stream]
    exact .refl t
  | case3 c t next handle stream got chunk brought spent absorbed ih =>
    rw [Channel.receiveUntil_chunk next stream brought]
    exact ((happened_read H t handle deadline).trans (happened_noteAll H _ _)).trans ih
  | case4 c t next handle stream got interrupted spent ih =>
    rw [Channel.receiveUntil_interrupted next stream interrupted]
    exact (happened_read H t handle deadline).trans ih
  | case5 c t next handle stream got expired =>
    rw [Channel.receiveUntil_expired next stream expired]
    exact happened_read H t handle deadline
  | case6 c t next handle stream got ended =>
    rw [Channel.receiveUntil_ended next stream ended]
    exact ((happened_read H t handle deadline).trans (happened_note H _ _)).trans
      (happened_close c _)
  | case7 c t next handle stream got reason failed =>
    rw [Channel.receiveUntil_failed next stream failed]
    exact ((happened_read H t handle deadline).trans (happened_note H _ _)).trans
      (happened_close c _)

theorem happened_waitUntil (deadline : Option Instant) (b : Inbox) (c : Channel)
    (t : Traced σ F) : Happened [] t (b.waitUntil (H.traced F) deadline c t).2.2.2 := by
  induction b, c, t using Inbox.waitUntil.induct (H.traced F) deadline with
  | case1 b c t got line brought command read =>
    rw [Inbox.waitUntil_command brought read]
    exact (happened_receiveUntil deadline c t).trans (happened_note H _ _)
  | case2 b c t got line brought e read spent ih =>
    rw [Inbox.waitUntil_skipped brought read]
    exact ((happened_receiveUntil deadline c t).trans (happened_note H _ _)).trans ih
  | case3 b c t got e brought spent ih =>
    rw [Inbox.waitUntil_rejected brought]
    exact ((happened_receiveUntil deadline c t).trans (happened_note H _ _)).trans ih
  | case4 b c t got brought =>
    rw [Inbox.waitUntil_noMessage brought]
    exact happened_receiveUntil deadline c t
  | case5 b c t got brought =>
    rw [Inbox.waitUntil_disconnected brought]
    exact (happened_receiveUntil deadline c t).trans (happened_note H _ _)

theorem happened_frameDone (pace : Pace) (t : Traced σ F) :
    Happened [] t (pace.frameDone (H.traced F) t).2 := by
  unfold Pace.frameDone
  cases pace.delay? ((H.traced F).now t) with
  | some delay => exact happened_sleep H t delay
  | none => exact .refl t

/-! ## Writing a line -/

/-- What writing a line on an open channel comes to: a payload with a terminator inside stops
short of the stream, any other is one write of the payload and its terminator, and a write that is
not complete closes the channel. -/
inductive Transmission (handle : Nat) (payload : Bytes) (c : Channel) (t : Traced σ F) :
    Except LinkError Unit × Channel × Traced σ F → Prop
  | refused (inside : lineTerminator ∈ payload) :
      Transmission handle payload c t (.error Channel.terminatorInside, c, t)
  | complete {t' : Traced σ F} (free : lineTerminator ∉ payload)
      (happened : Happened [.wrote handle (payload ++ [lineTerminator]) .complete] t t') :
      Transmission handle payload c t (.ok (), c, t')
  | broken {outcome : WriteOutcome} {e : LinkError} {t' : Traced σ F}
      (free : lineTerminator ∉ payload) (incomplete : outcome ≠ .complete)
      (transport : e.kind = .send ∨ e.kind = .timeout)
      (happened : Happened [.wrote handle (payload ++ [lineTerminator]) outcome] t t') :
      Transmission handle payload c t (.error e, c.closed, t')

theorem transmission_sendLine {handle : Nat} {c : Channel} (stream : c.stream = some handle)
    (payload : Bytes) (t : Traced σ F) :
    Transmission handle payload c t (c.sendLine (H.traced F) payload t) := by
  unfold Channel.sendLine
  simp only [stream, List.contains_eq_mem, decide_eq_true_eq]
  by_cases inside : lineTerminator ∈ payload
  · rw [if_pos inside]
    exact .refused inside
  · rw [if_neg inside]
    have wrote := happened_write H t handle (payload ++ [lineTerminator]) c.config.sendTimeout
    cases outcome : ((H.traced F).write handle (payload ++ [lineTerminator])
        c.config.sendTimeout t).1 with
    | complete =>
      rw [outcome] at wrote
      exact .complete inside (wrote.quiet (happened_note H _ _))
    | failed written reason =>
      rw [outcome] at wrote
      have incomplete : WriteOutcome.failed written reason ≠ .complete := nofun
      dsimp only
      rw [Channel.close_eq]
      exact .broken inside incomplete (.inl rfl)
        ((wrote.quiet (happened_note H _ _)).quiet (happened_close _ _))
    | expired written =>
      rw [outcome] at wrote
      have incomplete : WriteOutcome.expired written ≠ .complete := nofun
      dsimp only
      rw [Channel.close_eq]
      exact .broken inside incomplete (.inr rfl)
        ((wrote.quiet (happened_note H _ _)).quiet (happened_close _ _))

theorem isDisconnect_of_transport {e : LinkError} (transport : e.kind = .send ∨ e.kind = .timeout) :
    e.isDisconnect = true := by
  rcases transport with kind | kind <;> simp [LinkError.isDisconnect, kind]

/-! ## Sending detections -/

/-- What sending detections on an open channel comes to: detections that make no message stop
short of the channel, any others are one write of one line, and a write that is not complete
closes the channel. -/
inductive Emission (handle : Nat) (timestampMs : UInt64) (found : List RawDetection) (k : Client)
    (t : Traced σ F) : Except LinkError Unit × Client × Traced σ F → Prop
  | unencodable {e : LinkError} (encoded : encodeDetections timestampMs found = .error e) :
      Emission handle timestampMs found k t (.error e, k, t)
  | sent {line : Bytes} {t' : Traced σ F} (encoded : encodeDetections timestampMs found = .ok line)
      (happened : Happened [.wrote handle (line ++ [lineTerminator]) .complete] t t') :
      Emission handle timestampMs found k t (.ok (), { k with sent := k.sent + 1 }, t')
  | failed {line : Bytes} {outcome : WriteOutcome} {e : LinkError} {t' : Traced σ F}
      (encoded : encodeDetections timestampMs found = .ok line) (incomplete : outcome ≠ .complete)
      (transport : e.kind = .send ∨ e.kind = .timeout)
      (happened : Happened [.wrote handle (line ++ [lineTerminator]) outcome] t t') :
      Emission handle timestampMs found k t (.error e, { k with channel := k.channel.closed }, t')

theorem emission_sendDetections {handle : Nat} {k : Client}
    (stream : k.channel.stream = some handle) (timestampMs : UInt64) (found : List RawDetection)
    (t : Traced σ F) :
    Emission handle timestampMs found k t (k.sendDetections (H.traced F) timestampMs found t) := by
  unfold Client.sendDetections
  split
  · next e encoded => exact .unencodable encoded
  · next line encoded =>
    have transmission := transmission_sendLine (H := H) stream line t
    unfold Client.sendLine
    generalize k.channel.sendLine (H.traced F) line t = done at transmission ⊢
    cases transmission with
    | refused inside => exact absurd inside (terminator_not_mem_of_encodeDetections encoded)
    | complete free happened => exact .sent encoded (happened.quiet (happened_note H _ _))
    | broken free incomplete transport happened =>
      exact .failed encoded incomplete transport happened

end DetectionLink
