import DetectionLink.Link.Client

/-!
# State, stream and received bytes agree

A channel says that it is connected exactly when it holds a stream, is never left connecting, and
holds nothing received once it is closed. Every operation keeps this.

* `Channel.Sound`: the invariant;
* `sound_connect`, `sound_receiveUntil`, `sound_sendLine`, `sound_close`: the operations of a
  channel;
* `sound_waitUntil`: waiting of a client.
-/

namespace DetectionLink

namespace LineBuffer

/-- Nothing received is held. -/
def IsClear (b : LineBuffer) : Prop := b = b.clear

theorem IsClear.next?_eq_none {b : LineBuffer} (h : b.IsClear) : b.next? = none := by
  rw [h]
  rfl

end LineBuffer

namespace Channel

structure Sound (c : Channel) : Prop where
  limit_eq : c.lines.limit = max c.config.maxMessageBytes 1
  state_eq : c.state = if c.stream.isSome then .connected else .disconnected
  clear_of_closed : c.stream = none → c.lines.IsClear

theorem Sound.isConnected_iff {c : Channel} (h : c.Sound) :
    c.isConnected = true ↔ c.stream.isSome = true := by
  rw [isConnected, ConnectionState.isConnected, h.state_eq]
  cases c.stream <;> simp

theorem Sound.stream_of_isConnected {c : Channel} (h : c.Sound) (connected : c.isConnected = true) :
    ∃ handle, c.stream = some handle :=
  Option.isSome_iff_exists.mp (h.isConnected_iff.mp connected)

theorem Sound.stream_of_not_isConnected {c : Channel} (h : c.Sound)
    (notConnected : c.isConnected = false) : c.stream = none := by
  rw [← Option.not_isSome_iff_eq_none, ← h.isConnected_iff, notConnected]
  exact Bool.false_ne_true

theorem Sound.isConnected_eq_false {c : Channel} (h : c.Sound) (gone : c.stream = none) :
    c.isConnected = false := by
  rw [← Bool.not_eq_true, h.isConnected_iff, gone]
  exact Bool.false_ne_true

/-- A closed channel has no entry to hand out. -/
theorem Sound.isSome_of_next {c : Channel} {entry : LineEntry} {lines : LineBuffer} (h : c.Sound)
    (next : c.lines.next? = some (entry, lines)) : c.stream.isSome := by
  cases stream : c.stream with
  | some handle => rfl
  | none =>
    rw [(h.clear_of_closed stream).next?_eq_none] at next
    exact absurd next.symm (Option.some_ne_none _)

theorem sound_ofConfig (config : ChannelConfig) : (ofConfig config).Sound :=
  ⟨rfl, rfl, fun _ => rfl⟩

/-- New lines in the buffer of an open channel. -/
theorem sound_lines {c : Channel} {lines : LineBuffer} (h : c.Sound) (isOpen : c.stream.isSome)
    (limit : lines.limit = c.lines.limit) : Sound { c with lines } where
  limit_eq := limit.trans h.limit_eq
  state_eq := h.state_eq
  clear_of_closed closed := by simp_all

variable {σ : Type} {H : Host σ}

/-! ## Closing -/

/-- The channel without its stream. -/
def closed (c : Channel) : Channel :=
  { c with state := .disconnected, stream := none, lines := c.lines.clear }

theorem close_fst (c : Channel) (w : σ) : (c.close H w).1 = c.closed := by
  cases stream : c.stream <;> simp [close, stream, closed]

theorem close_eq (c : Channel) (w : σ) : c.close H w = (c.closed, (c.close H w).2) :=
  Prod.ext (close_fst c w) rfl

theorem sound_closed {c : Channel} (h : c.Sound) : c.closed.Sound :=
  ⟨h.limit_eq, rfl, fun _ => rfl⟩

theorem sound_close {c : Channel} (h : c.Sound) (w : σ) : (c.close H w).1.Sound :=
  close_fst (H := H) c w ▸ sound_closed h

/-! ## Connecting -/

section Attempts

variable (H) (c : Channel) (attempts : Nat) (w : σ)

/-- One attempt on the channel's socket. -/
def tried : AttemptOutcome × σ := H.attempt c.config.socketPath c.config.sendBufferBytes w

/-- The host asked for another attempt after a failed one. -/
def asked : Option Duration × σ :=
  H.pause c.config.retryInterval c.config.connectTimeout
    (H.note (attemptRecord c.config.retryInterval (tried H c w).1) (tried H c w).2)

variable {H c attempts w}

theorem attemptFrom_opened {handle : Nat} (opened : (tried H c w).1 = .opened handle) :
    c.attemptFrom H attempts w =
      (.ok (), { c with state := .connected, stream := some handle },
        H.note (.info s!"Connected to {c.pathText} (attempt {attempts + 1})") (tried H c w).2) := by
  unfold tried at opened ⊢
  rw [attemptFrom.eq_def]; simp only; split <;> simp_all

theorem attemptFrom_again {wait : Duration}
    (failed : ∀ handle, (tried H c w).1 = .opened handle → False)
    (again : (asked H c w).1 = some wait) :
    c.attemptFrom H attempts w =
      c.attemptFrom H (attempts + 1) (H.sleep wait
        (H.note (.trace s!"Connect attempt {attempts + 1} failed, sleeping {wait.text}")
          (asked H c w).2)) := by
  unfold asked tried at *
  rw [attemptFrom.eq_def]; simp only; split <;> simp_all

theorem attemptFrom_gaveUp (failed : ∀ handle, (tried H c w).1 = .opened handle → False)
    (given : (asked H c w).1 = none) :
    c.attemptFrom H attempts w =
      (.error (c.connectTimedOut (attempts + 1)), { c with state := .disconnected },
        H.note (.error
          s!"Failed to connect to {c.pathText} within {c.config.connectTimeout.text}")
          (asked H c w).2) := by
  unfold asked tried at *
  rw [attemptFrom.eq_def]; simp only; split <;> simp_all

end Attempts

/-- What attempts can lead to: a stream, or a channel as it was but disconnected. -/
theorem attemptFrom_cases (c : Channel) (attempts : Nat) (w : σ) :
    (∃ handle, (c.attemptFrom H attempts w).1 = .ok () ∧
      (c.attemptFrom H attempts w).2.1 = { c with state := .connected, stream := some handle }) ∨
    ∃ e, (c.attemptFrom H attempts w).1 = .error e ∧
      (c.attemptFrom H attempts w).2.1 = { c with state := .disconnected } := by
  induction attempts, w using attemptFrom.induct H c with
  | case1 attempts w tried handle opened =>
    rw [attemptFrom_opened opened]
    exact .inl ⟨handle, rfl, rfl⟩
  | case2 attempts w tried wait failed asked again spent ih =>
    rw [attemptFrom_again failed again]
    exact ih
  | case3 attempts w tried failed asked given =>
    rw [attemptFrom_gaveUp failed given]
    exact .inr ⟨_, rfl, rfl⟩

/-- A connect that is not needed changes nothing; any other starts with nothing received and ends
with a stream or without one. -/
theorem connect_cases (c : Channel) (w : σ) :
    (c.isConnected = true ∧ c.connect H w = (.ok (), c, w)) ∨
    (c.isConnected = false ∧
      ((∃ handle, (c.connect H w).1 = .ok () ∧ (c.connect H w).2.1 =
          { c with state := .connected, stream := some handle, lines := c.lines.clear }) ∨
        ∃ e, (c.connect H w).1 = .error e ∧ (c.connect H w).2.1 =
          { c with state := .disconnected, lines := c.lines.clear })) := by
  unfold connect
  split
  · next connected => exact .inl ⟨connected, rfl⟩
  · next notConnected =>
    exact .inr ⟨Bool.not_eq_true _ |>.mp notConnected, attemptFrom_cases _ _ _⟩

theorem sound_connect {c : Channel} (h : c.Sound) (w : σ) : (c.connect H w).2.1.Sound := by
  rcases connect_cases (H := H) c w with
    ⟨_, same⟩ | ⟨notConnected, ⟨handle, _, opened⟩ | ⟨e, _, failed⟩⟩
  · rw [same]
    exact h
  · rw [opened]
    exact ⟨h.limit_eq, rfl, nofun⟩
  · -- the failed connect leaves the stream as it was, and there was none
    have noStream := h.stream_of_not_isConnected notConnected
    rw [failed]
    exact ⟨h.limit_eq, by rw [noStream]; rfl, fun _ => rfl⟩

/-! ## Receiving -/

theorem sound_receiveUntil {deadline : Option Instant} {c : Channel} {w : σ} (h : c.Sound) :
    (c.receiveUntil H deadline w).2.1.Sound := by
  induction c, w using receiveUntil.induct H deadline with
  | case1 c w entry lines next =>
    rw [receiveUntil_entry next]
    exact sound_lines h (h.isSome_of_next next) (LineBuffer.limit_of_next? next)
  | case2 c w next stream =>
    rw [receiveUntil_noStream next stream]
    exact h
  | case3 c w next handle stream got received chunk spent absorbed ih =>
    rw [receiveUntil_chunk next stream chunk]
    exact ih (sound_lines h (stream ▸ rfl) rfl)
  | case4 c w next handle stream got interrupted spent ih =>
    rw [receiveUntil_interrupted next stream interrupted]
    exact ih h
  | case5 c w next handle stream got expired =>
    rw [receiveUntil_expired next stream expired]
    exact h
  | case6 c w next handle stream got ended =>
    rw [receiveUntil_ended next stream ended]
    exact sound_close h _
  | case7 c w next handle stream got reason failed =>
    rw [receiveUntil_failed next stream failed]
    exact sound_close h _

/-- A receive that leaves the channel open changes nothing but its lines. -/
theorem receiveUntil_keeps {deadline : Option Instant} {c : Channel} {w : σ}
    (isOpen : (c.receiveUntil H deadline w).1.isOpen) :
    ∃ lines, (c.receiveUntil H deadline w).2.1 = { c with lines } := by
  induction c, w using receiveUntil.induct H deadline with
  | case1 c w entry lines next =>
    rw [receiveUntil_entry next]
    exact ⟨lines, rfl⟩
  | case2 c w next stream =>
    rw [receiveUntil_noStream next stream]
    exact ⟨c.lines, rfl⟩
  | case3 c w next handle stream got received chunk spent absorbed ih =>
    rw [receiveUntil_chunk next stream chunk] at isOpen ⊢
    exact ih isOpen
  | case4 c w next handle stream got interrupted spent ih =>
    rw [receiveUntil_interrupted next stream interrupted] at isOpen ⊢
    exact ih isOpen
  | case5 c w next handle stream got expired =>
    rw [receiveUntil_expired next stream expired]
    exact ⟨c.lines, rfl⟩
  | case6 c w next handle stream got ended =>
    rw [receiveUntil_ended next stream ended] at isOpen
    exact absurd isOpen Bool.false_ne_true
  | case7 c w next handle stream got reason failed =>
    rw [receiveUntil_failed next stream failed] at isOpen
    exact absurd isOpen Bool.false_ne_true

/-! ## Sending -/

/-- What a send can lead to: it succeeds or is refused and the channel stays as it was, or the
channel is closed. -/
theorem sendLine_cases (payload : Bytes) (c : Channel) (w : σ) :
    ((c.sendLine H payload w).1 = .ok () ∧ (c.sendLine H payload w).2.1 = c) ∨
    (∃ e, (c.sendLine H payload w).1 = .error e ∧ e.isDisconnect = false ∧
      (c.sendLine H payload w).2 = (c, w)) ∨
    ∃ e, (c.sendLine H payload w).1 = .error e ∧ e.isDisconnect = true ∧
      (c.stream = none ∧ (c.sendLine H payload w).2 = (c, w) ∨
        (c.sendLine H payload w).2.1 = c.closed) := by
  unfold sendLine
  split
  · next stream => exact .inr (.inr ⟨_, rfl, rfl, .inl ⟨stream, rfl⟩⟩)
  · split
    · exact .inr (.inl ⟨_, rfl, rfl, rfl⟩)
    · dsimp only
      split
      · exact .inl ⟨rfl, rfl⟩
      · exact .inr (.inr ⟨_, rfl, rfl, .inr (close_fst c _)⟩)
      · exact .inr (.inr ⟨_, rfl, rfl, .inr (close_fst c _)⟩)

theorem sound_sendLine {c : Channel} (h : c.Sound) (payload : Bytes) (w : σ) :
    (c.sendLine H payload w).2.1.Sound := by
  rcases sendLine_cases (H := H) payload c w with
    ⟨_, same⟩ | ⟨_, _, _, same⟩ | ⟨_, _, _, ⟨_, same⟩ | gone⟩
  · rw [same]
    exact h
  · rw [same]
    exact h
  · rw [same]
    exact h
  · rw [gone]
    exact sound_closed h

end Channel

/-! ## Clients -/

variable {σ : Type} {H : Host σ}

theorem sound_waitUntil {deadline : Option Instant} {b : Inbox} {c : Channel} {w : σ}
    (h : c.Sound) : (b.waitUntil H deadline c w).2.2.1.Sound := by
  induction b, c, w using Inbox.waitUntil.induct H deadline with
  | case1 b c w got line h' command read =>
    rw [Inbox.waitUntil_command h' read]
    exact Channel.sound_receiveUntil h
  | case2 b c w got line h' e read spent ih =>
    rw [Inbox.waitUntil_skipped h' read]
    exact ih (Channel.sound_receiveUntil h)
  | case3 b c w got e h' spent ih =>
    rw [Inbox.waitUntil_rejected h']
    exact ih (Channel.sound_receiveUntil h)
  | case4 b c w got h' =>
    rw [Inbox.waitUntil_noMessage h']
    exact Channel.sound_receiveUntil h
  | case5 b c w got h' =>
    rw [Inbox.waitUntil_disconnected h']
    exact Channel.sound_receiveUntil h

/-- A wait that leaves the channel open changes nothing but its lines. -/
theorem waitUntil_keeps {deadline : Option Instant} {b : Inbox} {c : Channel} {w : σ}
    (isOpen : (b.waitUntil H deadline c w).1.isOpen) :
    ∃ lines, (b.waitUntil H deadline c w).2.2.1 = { c with lines } := by
  induction b, c, w using Inbox.waitUntil.induct H deadline with
  | case1 b c w got line brought command read =>
    rw [Inbox.waitUntil_command brought read]
    exact Channel.receiveUntil_keeps (congrArg Inbound.isOpen brought)
  | case2 b c w got line brought e read spent ih =>
    rw [Inbox.waitUntil_skipped brought read] at isOpen ⊢
    obtain ⟨lines, kept⟩ := Channel.receiveUntil_keeps (congrArg Inbound.isOpen brought)
    obtain ⟨more, rest⟩ := ih isOpen
    exact ⟨more, rest.trans (by rw [kept])⟩
  | case3 b c w got e brought spent ih =>
    rw [Inbox.waitUntil_rejected brought] at isOpen ⊢
    obtain ⟨lines, kept⟩ := Channel.receiveUntil_keeps (congrArg Inbound.isOpen brought)
    obtain ⟨more, rest⟩ := ih isOpen
    exact ⟨more, rest.trans (by rw [kept])⟩
  | case4 b c w got brought =>
    rw [Inbox.waitUntil_noMessage brought]
    exact Channel.receiveUntil_keeps (congrArg Inbound.isOpen brought)
  | case5 b c w got brought =>
    rw [Inbox.waitUntil_disconnected brought] at isOpen
    exact absurd isOpen Bool.false_ne_true

/-- Detections that make no message are no fault of the connection. -/
theorem encodeDetections_error {timestampMs : UInt64} {detections : List RawDetection}
    {e : LinkError} (h : encodeDetections timestampMs detections = .error e) :
    e.isDisconnect = false := by
  unfold encodeDetections at h
  split at h
  · exact absurd h nofun
  · rw [← Except.error.inj h]
    rfl

namespace Client

/-- What sending detections can lead to. They may be refused before the channel sees them. -/
theorem sendDetections_cases (timestampMs : UInt64) (detections : List RawDetection) (k : Client)
    (w : σ) :
    ((k.sendDetections H timestampMs detections w).1 = .ok () ∧
      (k.sendDetections H timestampMs detections w).2.1 = { k with sent := k.sent + 1 }) ∨
    (∃ e, (k.sendDetections H timestampMs detections w).1 = .error e ∧ e.isDisconnect = false ∧
      (k.sendDetections H timestampMs detections w).2 = (k, w)) ∨
    ∃ e, (k.sendDetections H timestampMs detections w).1 = .error e ∧ e.isDisconnect = true ∧
      (k.channel.stream = none ∧ (k.sendDetections H timestampMs detections w).2 = (k, w) ∨
        (k.sendDetections H timestampMs detections w).2.1 =
          { k with channel := k.channel.closed }) := by
  unfold sendDetections
  split
  · next e fault =>
    exact .inr (.inl ⟨e, rfl, encodeDetections_error fault, rfl⟩)
  · next line _ =>
    have sent := Channel.sendLine_cases (H := H) line k.channel w
    unfold sendLine
    dsimp only
    rcases sent with ⟨ok, same⟩ | ⟨e, error, soft, same⟩ | ⟨e, error, gone, left⟩
    · rw [ok, same]
      exact .inl ⟨rfl, rfl⟩
    · rw [error, same]
      exact .inr (.inl ⟨e, rfl, soft, rfl⟩)
    · rw [error]
      refine .inr (.inr ⟨e, rfl, gone, ?_⟩)
      rcases left with ⟨noStream, same⟩ | closed
      · rw [same]
        exact .inl ⟨noStream, rfl⟩
      · rw [closed]
        exact .inr rfl

end Client
end DetectionLink
