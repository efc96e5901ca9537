import DetectionLink.Host
import DetectionLink.Link.LineBuffer

/-!
# The channel to the supervisor

A channel owns at most one stream. It connects with bounded retries, reads lines up to a
deadline, writes one line at a time and can be closed any number of times. Every failure of the
stream closes the channel; it never reconnects by itself.

* `Channel.connect`, `receiveUntil`, `sendLine`, `close`: the operations;
* `receiveUntil_lessLeft`: a receive that leaves the channel open has spent something, either of
  the host's budget or of the entries waiting.
-/

namespace DetectionLink

inductive ConnectionState
  | disconnected
  | connecting
  | connected
deriving DecidableEq, Inhabited

namespace ConnectionState

def isConnected (s : ConnectionState) : Bool := s = connected

def name : ConnectionState → String
  | disconnected => "disconnected"
  | connecting => "connecting"
  | connected => "connected"

end ConnectionState

structure ChannelConfig where
  socketPath : Bytes
  connectTimeout : Duration
  retryInterval : Duration
  sendTimeout : Duration
  sendBufferBytes : Nat
  maxMessageBytes : Nat
deriving DecidableEq

structure Channel where
  config : ChannelConfig
  state : ConnectionState
  /-- The handle of the open stream. -/
  stream : Option Nat
  lines : LineBuffer

/-- What one receive brings. -/
inductive Inbound
  | line (bytes : Bytes)
  /-- A line was dropped; the channel is still usable. -/
  | rejected (error : LinkError)
  /-- Nothing complete arrived before the deadline. -/
  | noMessage
  /-- The stream ended or failed, or there was none. -/
  | disconnected

namespace Inbound

def ofEntry : LineEntry → Inbound
  | .ok bytes => line bytes
  | .error e => rejected e

/-- Whether the channel is still open after this. -/
def isOpen : Inbound → Bool
  | disconnected => false
  | _ => true

end Inbound

namespace Channel

def ofConfig (config : ChannelConfig) : Channel :=
  ⟨config, .disconnected, none, .ofLimit config.maxMessageBytes⟩

def isConnected (c : Channel) : Bool := c.state.isConnected

/-- The socket path as log lines show it. -/
def pathText (c : Channel) : String := Utf8.display c.config.socketPath

variable {σ : Type} (H : Host σ)

/-! ## Closing -/

/-- Releases the stream, if there is one, and forgets all that was received. -/
def close (c : Channel) (w : σ) : Channel × σ :=
  let closed := { c with state := .disconnected, stream := none, lines := c.lines.clear }
  match c.stream with
  | some handle =>
    (closed, H.note (.info s!"Closed connection to {c.pathText}") (H.release handle w))
  | none => (closed, w)

/-! ## Connecting -/

/-- The log record of a failed attempt. A missing socket and a refusal are the ordinary signs of a
supervisor that is not up yet. -/
def attemptRecord (interval : Duration) : AttemptOutcome → Record
  | .refused => .debug s!"Connection refused, retrying in {interval.text}"
  | .failed reason => .warn s!"Connection error: {reason}, retrying in {interval.text}"
  | _ => .debug s!"Socket not found, retrying in {interval.text}"

def connectTimedOut (c : Channel) (attempts : Nat) : LinkError :=
  .raised .timeout
    (s!"Could not connect to {c.pathText} within {c.config.connectTimeout.text} " ++
      s!"({attempts} attempts)")

/-- Attempt after attempt, `attempts` of them made so far, until one succeeds or the host allows
no more. -/
def attemptFrom (c : Channel) (attempts : Nat) (w : σ) : Except LinkError Unit × Channel × σ :=
  let tried := H.attempt c.config.socketPath c.config.sendBufferBytes w
  match tried.1 with
  | .opened handle =>
    (.ok (), { c with state := .connected, stream := some handle },
      H.note (.info s!"Connected to {c.pathText} (attempt {attempts + 1})") tried.2)
  | failure =>
    let asked := H.pause c.config.retryInterval c.config.connectTimeout
      (H.note (attemptRecord c.config.retryInterval failure) tried.2)
    match h : asked.1 with
    | some wait =>
      have _spent := H.pause_lt _ _ _ (Option.isSome_iff_exists.mpr ⟨wait, h⟩)
      attemptFrom c (attempts + 1) (H.sleep wait
        (H.note (.trace s!"Connect attempt {attempts + 1} failed, sleeping {wait.text}") asked.2))
    | none =>
      (.error (c.connectTimedOut (attempts + 1)), { c with state := .disconnected },
        H.note (.error s!"Failed to connect to {c.pathText} within {c.config.connectTimeout.text}")
          asked.2)
termination_by H.budget w
decreasing_by
  refine Nat.lt_of_le_of_lt (H.sleep_le ..) (Nat.lt_of_le_of_lt (H.note_le ..) ?_)
  exact Nat.lt_of_lt_of_le _spent (Nat.le_trans (H.note_le ..) (H.attempt_le ..))

/-- Connects unless the channel is connected already. -/
def connect (c : Channel) (w : σ) : Except LinkError Unit × Channel × σ :=
  if c.isConnected then (.ok (), c, w)
  else
    attemptFrom H { c with state := .connecting, lines := c.lines.clear } 0
      (H.note (.info s!"Connecting to {c.pathText}") w)

/-! ## Receiving -/

/-- The next entry: one that waits already, or the first that further reads complete. -/
def receiveUntil (deadline : Option Instant) (c : Channel) (w : σ) : Inbound × Channel × σ :=
  match c.lines.next? with
  | some (entry, lines) => (.ofEntry entry, { c with lines }, w)
  | none =>
    match c.stream with
    | none => (.disconnected, c, w)
    | some handle =>
      let got := H.read handle deadline w
      match h : got.1 with
      | .chunk received =>
        have _spent := H.read_lt _ _ _ (congrArg ReadOutcome.isOpen h)
        let absorbed := c.lines.absorb received.bytes
        receiveUntil deadline { c with lines := absorbed.1 } (H.noteAll absorbed.2 got.2)
      | .interrupted =>
        have _spent := H.read_lt _ _ _ (congrArg ReadOutcome.isOpen h)
        receiveUntil deadline c got.2
      | .expired => (.noMessage, c, got.2)
      | .ended =>
        let closed := c.close H (H.note (.info "Supervisor closed the connection") got.2)
        (.disconnected, closed)
      | .failed reason =>
        let closed := c.close H
          (H.note (.error s!"Error receiving from supervisor: {reason}") got.2)
        (.disconnected, closed)
termination_by H.budget w
decreasing_by
  · exact Nat.lt_of_le_of_lt (H.noteAll_le ..) _spent
  · exact _spent

/-- Receives within a time from now, without limit if none is given. -/
def receive (timeout : Option Duration) (c : Channel) (w : σ) : Inbound × Channel × σ :=
  c.receiveUntil H (timeout.map (H.now w).after) w

/-! ## Sending -/

def notConnected : LinkError := .raised .notConnected "Cannot send: not connected to supervisor"

def terminatorInside : LinkError := .raised .encode "Outbound payload contains a line terminator"

/-- Writes a payload and its terminator as one write. A payload that holds a terminator is refused
before anything is written. -/
def sendLine (payload : Bytes) (c : Channel) (w : σ) : Except LinkError Unit × Channel × σ :=
  match c.stream with
  | none => (.error notConnected, c, w)
  | some handle =>
    if payload.contains lineTerminator then (.error terminatorInside, c, w)
    else
      let line := payload ++ [lineTerminator]
      let timeout := c.config.sendTimeout
      let wrote := H.write handle line timeout w
      match wrote.1 with
      | .complete => (.ok (), c, H.note (.trace s!"Sent {line.length} bytes") wrote.2)
      | .failed _ reason =>
        let closed := c.close H (H.note (.error s!"Error sending to supervisor: {reason}") wrote.2)
        (.error (.raised .send reason), closed)
      | .expired _ =>
        let closed := c.close H (H.note (.error s!"Send timed out after {timeout.text}") wrote.2)
        (.error (.raised .timeout s!"Send did not complete within {timeout.text}"), closed)

/-! ## Progress

The budget and the number of waiting entries, compared in this order, never grow, and a receive
that leaves the channel open makes them smaller. -/

/-- What is left after an operation: no more budget, and no more entries on an equal budget. -/
def NoMoreLeft (c : Channel) (w : σ) (c' : Channel) (w' : σ) : Prop :=
  H.budget w' < H.budget w
    ∨ H.budget w' = H.budget w ∧ c'.lines.pending ≤ c.lines.pending

/-- Less is left after an operation. -/
def LessLeft (c : Channel) (w : σ) (c' : Channel) (w' : σ) : Prop :=
  H.budget w' < H.budget w
    ∨ H.budget w' = H.budget w ∧ c'.lines.pending < c.lines.pending

variable {H}

theorem LessLeft.noMore {c c' : Channel} {w w' : σ} (h : LessLeft H c w c' w') :
    NoMoreLeft H c w c' w' := by
  unfold LessLeft at h; unfold NoMoreLeft; omega

theorem LessLeft.lex {c c' : Channel} {w w' : σ} (h : LessLeft H c w c' w') :
    Prod.Lex (· < ·) (· < ·) (H.budget w', c'.lines.pending) (H.budget w, c.lines.pending) := by
  rcases h with h | ⟨h, k⟩
  · exact .left _ _ h
  · exact h ▸ .right _ k

theorem LessLeft.trans_noMore {c c' c'' : Channel} {w w' w'' : σ} (h : LessLeft H c w c' w')
    (k : NoMoreLeft H c' w' c'' w'') : LessLeft H c w c'' w'' := by
  unfold LessLeft at *; unfold NoMoreLeft at k; omega

theorem NoMoreLeft.trans {c c' c'' : Channel} {w w' w'' : σ} (h : NoMoreLeft H c w c' w')
    (k : NoMoreLeft H c' w' c'' w'') : NoMoreLeft H c w c'' w'' := by
  unfold NoMoreLeft at *; omega

theorem noMoreLeft_of_le (c : Channel) {w w' : σ} (h : H.budget w' ≤ H.budget w) :
    NoMoreLeft H c w c w' := by
  unfold NoMoreLeft; omega

/-- Spent budget makes up for any number of new entries. -/
theorem NoMoreLeft.lessLeft_of_lt {c c' c'' : Channel} {w w' w'' : σ}
    (k : NoMoreLeft H c' w' c'' w'') (h : H.budget w' < H.budget w) : LessLeft H c w c'' w'' := by
  unfold NoMoreLeft at k; unfold LessLeft; omega

theorem noMoreLeft_refl (c : Channel) (w : σ) : NoMoreLeft H c w c w :=
  noMoreLeft_of_le c (Nat.le_refl _)

theorem close_lines (c : Channel) (w : σ) : (c.close H w).1.lines = c.lines.clear := by
  cases hs : c.stream <;> simp [close, hs]

theorem close_le (c : Channel) (w : σ) : H.budget (c.close H w).2 ≤ H.budget w := by
  cases hs : c.stream with
  | none => simp [close, hs]
  | some handle =>
    simp only [close, hs]
    exact Nat.le_trans (H.note_le ..) (H.release_le ..)

theorem close_noMoreLeft (c : Channel) (w : σ) :
    NoMoreLeft H c w (c.close H w).1 (c.close H w).2 := by
  have h := close_le (H := H) c w
  have k : (c.close H w).1.lines.pending = 0 := by rw [close_lines]; rfl
  unfold NoMoreLeft; omega

/-! ### One step of a receive -/

section Steps

variable {deadline : Option Instant} {c : Channel} {w : σ} {handle : Nat}

theorem receiveUntil_entry {entry : LineEntry} {lines : LineBuffer}
    (next : c.lines.next? = some (entry, lines)) :
    c.receiveUntil H deadline w = (.ofEntry entry, { c with lines }, w) := by
  rw [receiveUntil.eq_def]; simp only [next]

theorem receiveUntil_noStream (next : c.lines.next? = none) (stream : c.stream = none) :
    c.receiveUntil H deadline w = (.disconnected, c, w) := by
  rw [receiveUntil.eq_def]; simp only [next, stream]

theorem receiveUntil_chunk {received : Chunk} (next : c.lines.next? = none)
    (stream : c.stream = some handle) (got : (H.read handle deadline w).1 = .chunk received) :
    c.receiveUntil H deadline w =
      receiveUntil H deadline { c with lines := (c.lines.absorb received.bytes).1 }
        (H.noteAll (c.lines.absorb received.bytes).2 (H.read handle deadline w).2) := by
  rw [receiveUntil.eq_def]; simp only [next, stream]; split <;> simp_all

theorem receiveUntil_interrupted (next : c.lines.next? = none) (stream : c.stream = some handle)
    (got : (H.read handle deadline w).1 = .interrupted) :
    c.receiveUntil H deadline w = receiveUntil H deadline c (H.read handle deadline w).2 := by
  rw [receiveUntil.eq_def]; simp only [next, stream]; split <;> simp_all

theorem receiveUntil_expired (next : c.lines.next? = none) (stream : c.stream = some handle)
    (got : (H.read handle deadline w).1 = .expired) :
    c.receiveUntil H deadline w = (.noMessage, c, (H.read handle deadline w).2) := by
  rw [receiveUntil.eq_def]; simp only [next, stream]; split <;> simp_all

theorem receiveUntil_ended (next : c.lines.next? = none) (stream : c.stream = some handle)
    (got : (H.read handle deadline w).1 = .ended) :
    c.receiveUntil H deadline w = (.disconnected, c.close H
      (H.note (.info "Supervisor closed the connection") (H.read handle deadline w).2)) := by
  rw [receiveUntil.eq_def]; simp only [next, stream]; split <;> simp_all

theorem receiveUntil_failed {reason : String} (next : c.lines.next? = none)
    (stream : c.stream = some handle) (got : (H.read handle deadline w).1 = .failed reason) :
    c.receiveUntil H deadline w = (.disconnected, c.close H
      (H.note (.error s!"Error receiving from supervisor: {reason}")
        (H.read handle deadline w).2)) := by
  rw [receiveUntil.eq_def]; simp only [next, stream]; split <;> simp_all

end Steps

theorem receiveUntil_lessLeft (deadline : Option Instant) (c : Channel) (w : σ) :
    (c.receiveUntil H deadline w).1.isOpen →
    LessLeft H c w (c.receiveUntil H deadline w).2.1 (c.receiveUntil H deadline w).2.2 := by
  induction c, w using receiveUntil.induct H deadline with
  | case1 c w entry lines next =>
    intro _
    rw [receiveUntil_entry next]
    have := LineBuffer.pending_of_next? next
    exact .inr ⟨rfl, by simp only; omega⟩
  | case2 c w next stream =>
    rw [receiveUntil_noStream next stream]
    simp [Inbound.isOpen]
  | case3 c w next handle stream got received h spent absorbed ih =>
    intro isOpen
    rw [receiveUntil_chunk next stream h] at isOpen ⊢
    exact (ih isOpen).noMore.lessLeft_of_lt (Nat.lt_of_le_of_lt (H.noteAll_le ..) spent)
  | case4 c w next handle stream got h spent ih =>
    intro isOpen
    rw [receiveUntil_interrupted next stream h] at isOpen ⊢
    exact (ih isOpen).noMore.lessLeft_of_lt spent
  | case5 c w next handle stream got h =>
    intro _
    rw [receiveUntil_expired next stream h]
    exact .inl (H.read_lt _ _ _ (congrArg ReadOutcome.isOpen h))
  | case6 c w next handle stream got h =>
    rw [receiveUntil_ended next stream h]
    simp [Inbound.isOpen]
  | case7 c w next handle stream got reason h =>
    rw [receiveUntil_failed next stream h]
    simp [Inbound.isOpen]

theorem receiveUntil_noMoreLeft (deadline : Option Instant) (c : Channel) (w : σ) :
    NoMoreLeft H c w (c.receiveUntil H deadline w).2.1 (c.receiveUntil H deadline w).2.2 := by
  induction c, w using receiveUntil.induct H deadline with
  | case1 c w entry lines next =>
    rw [receiveUntil_entry next]
    have := LineBuffer.pending_of_next? next
    exact .inr ⟨rfl, by simp only; omega⟩
  | case2 c w next stream =>
    rw [receiveUntil_noStream next stream]
    exact noMoreLeft_refl c w
  | case3 c w next handle stream got received h spent absorbed ih =>
    rw [receiveUntil_chunk next stream h]
    exact (ih.lessLeft_of_lt (Nat.lt_of_le_of_lt (H.noteAll_le ..) spent)).noMore
  | case4 c w next handle stream got h spent ih =>
    rw [receiveUntil_interrupted next stream h]
    exact (ih.lessLeft_of_lt spent).noMore
  | case5 c w next handle stream got h =>
    rw [receiveUntil_expired next stream h]
    exact noMoreLeft_of_le c (H.read_le ..)
  | case6 c w next handle stream got h =>
    rw [receiveUntil_ended next stream h]
    exact (noMoreLeft_of_le c (Nat.le_trans (H.note_le ..) (H.read_le ..))).trans
      (close_noMoreLeft c _)
  | case7 c w next handle stream got reason h =>
    rw [receiveUntil_failed next stream h]
    exact (noMoreLeft_of_le c (Nat.le_trans (H.note_le ..) (H.read_le ..))).trans
      (close_noMoreLeft c _)

theorem sendLine_noMoreLeft (payload : Bytes) (c : Channel) (w : σ) :
    NoMoreLeft H c w (c.sendLine H payload w).2.1 (c.sendLine H payload w).2.2 := by
  unfold sendLine
  split
  · exact noMoreLeft_refl c w
  · split
    · exact noMoreLeft_refl c w
    · simp only
      split
      · exact noMoreLeft_of_le c (Nat.le_trans (H.note_le ..) (H.write_le ..))
      · exact (noMoreLeft_of_le c (Nat.le_trans (H.note_le ..) (H.write_le ..))).trans
          (close_noMoreLeft c _)
      · exact (noMoreLeft_of_le c (Nat.le_trans (H.note_le ..) (H.write_le ..))).trans
          (close_noMoreLeft c _)

end Channel
end DetectionLink
