import DetectionLink.Command
import DetectionLink.Link.Channel
import DetectionLink.Text.Quoted

/-!
# Commands from the channel

The inbox turns inbound lines into commands. A line that is no command, or that the channel
dropped, is logged, counted and skipped; the wait goes on until a command arrives, the deadline
passes or the connection is lost.

* `Inbox.wait`, `Inbox.poll`: waiting for a command;
* `waitUntil_lessLeft`: a wait that leaves the channel open has spent something.
-/

namespace DetectionLink

inductive InboxState
  | waiting
  | dispatched
deriving DecidableEq

inductive CommandEvent
  | command (command : Command)
  /-- The deadline passed without a command. -/
  | noCommand
  | disconnected

namespace CommandEvent

/-- Whether the channel is still open after this. -/
def isOpen : CommandEvent → Bool
  | disconnected => false
  | _ => true

end CommandEvent

structure Inbox where
  /-- How long a poll between two frames may take. -/
  pollTimeout : Duration
  state : InboxState
  /-- Commands handed out. -/
  dispatched : Nat
  /-- Lines skipped. -/
  discarded : Nat

namespace Inbox

def ofPollTimeout (pollTimeout : Duration) : Inbox := ⟨pollTimeout, .waiting, 0, 0⟩

/-- How much of a skipped line is shown in the log, in bytes. -/
def shownBytes : Nat := 200

/-- How the log record of a skipped line begins. -/
def skippedStart (line : Bytes) : String :=
  s!"Ignoring invalid command line {quoted (Utf8.lossy (line.take shownBytes))}: "

/-- The log record of a line that is no command. -/
def skippedRecord (W : Wording) (line : Bytes) (e : LinkError) : Record :=
  .warn (skippedStart line ++ e.text W)

/-- The log record of a line that the channel dropped. -/
def rejectedRecord (W : Wording) (e : LinkError) : Record :=
  .warn s!"Ignoring inbound line: {e.text W}"

def discard (b : Inbox) : Inbox := { b with discarded := b.discarded + 1 }

def dispatch (b : Inbox) : Inbox := { b with state := .dispatched, dispatched := b.dispatched + 1 }

variable {σ : Type} (H : Host σ)

/-- Takes inbound lines until one is a command, the deadline passes or the channel is lost. -/
def waitUntil (deadline : Option Instant) (b : Inbox) (c : Channel) (w : σ) :
    CommandEvent × Inbox × Channel × σ :=
  let got := c.receiveUntil H deadline w
  match h : got.1 with
  | .line line =>
    match Command.ofLine line with
    | .ok command =>
      (.command command, b.dispatch, got.2.1,
        H.note (.debug s!"Dispatching {command.name} command") got.2.2)
    | .error e =>
      have _spent := Channel.receiveUntil_lessLeft deadline c w (congrArg Inbound.isOpen h)
      waitUntil deadline b.discard got.2.1 (H.note (skippedRecord H.wording line e) got.2.2)
  | .rejected e =>
    have _spent := Channel.receiveUntil_lessLeft deadline c w (congrArg Inbound.isOpen h)
    waitUntil deadline b.discard got.2.1 (H.note (rejectedRecord H.wording e) got.2.2)
  | .noMessage => (.noCommand, b, got.2)
  | .disconnected =>
    (.disconnected, b, got.2.1,
      H.note (.info "Connection lost while waiting for a command") got.2.2)
termination_by (H.budget w, c.lines.pending)
decreasing_by
  · exact (_spent.trans_noMore (Channel.noMoreLeft_of_le _ (H.note_le ..))).lex
  · exact (_spent.trans_noMore (Channel.noMoreLeft_of_le _ (H.note_le ..))).lex

/-- Waits for a command within a time from now, without limit if none is given. The time bounds
the whole wait, skipped lines included. -/
def wait (timeout : Option Duration) (b : Inbox) (c : Channel) (w : σ) :
    CommandEvent × Inbox × Channel × σ :=
  waitUntil H (timeout.map (H.now w).after) { b with state := .waiting } c w

/-- A short wait between two frames. -/
def poll (b : Inbox) (c : Channel) (w : σ) : CommandEvent × Inbox × Channel × σ :=
  b.wait H (some b.pollTimeout) c w

/-! ## One line of a wait -/

variable {H}

section Steps

variable {deadline : Option Instant} {b : Inbox} {c : Channel} {w : σ}

theorem waitUntil_command {line : Bytes} {command : Command}
    (got : (c.receiveUntil H deadline w).1 = .line line)
    (read : Command.ofLine line = .ok command) :
    b.waitUntil H deadline c w =
      (.command command, b.dispatch, (c.receiveUntil H deadline w).2.1,
        H.note (.debug s!"Dispatching {command.name} command")
          (c.receiveUntil H deadline w).2.2) := by
  rw [waitUntil.eq_def]; simp only; split <;> simp_all

theorem waitUntil_skipped {line : Bytes} {e : LinkError}
    (got : (c.receiveUntil H deadline w).1 = .line line) (read : Command.ofLine line = .error e) :
    b.waitUntil H deadline c w =
      b.discard.waitUntil H deadline (c.receiveUntil H deadline w).2.1
        (H.note (skippedRecord H.wording line e) (c.receiveUntil H deadline w).2.2) := by
  rw [waitUntil.eq_def]; simp only; split <;> simp_all

theorem waitUntil_rejected {e : LinkError}
    (got : (c.receiveUntil H deadline w).1 = .rejected e) :
    b.waitUntil H deadline c w =
      b.discard.waitUntil H deadline (c.receiveUntil H deadline w).2.1
        (H.note (rejectedRecord H.wording e) (c.receiveUntil H deadline w).2.2) := by
  rw [waitUntil.eq_def]; simp only; split <;> simp_all

theorem waitUntil_noMessage (got : (c.receiveUntil H deadline w).1 = .noMessage) :
    b.waitUntil H deadline c w = (.noCommand, b, (c.receiveUntil H deadline w).2) := by
  rw [waitUntil.eq_def]; simp only; split <;> simp_all

theorem waitUntil_disconnected (got : (c.receiveUntil H deadline w).1 = .disconnected) :
    b.waitUntil H deadline c w =
      (.disconnected, b, (c.receiveUntil H deadline w).2.1,
        H.note (.info "Connection lost while waiting for a command")
          (c.receiveUntil H deadline w).2.2) := by
  rw [waitUntil.eq_def]; simp only; split <;> simp_all

end Steps

/-- What a wait leaves: nothing more than before, and less if the channel is still open. -/
theorem waitUntil_left (deadline : Option Instant) (b : Inbox) (c : Channel) (w : σ) :
    Channel.NoMoreLeft H c w (b.waitUntil H deadline c w).2.2.1 (b.waitUntil H deadline c w).2.2.2
    ∧ ((b.waitUntil H deadline c w).1.isOpen →
      Channel.LessLeft H c w (b.waitUntil H deadline c w).2.2.1
        (b.waitUntil H deadline c w).2.2.2) := by
  induction b, c, w using waitUntil.induct H deadline with
  | case1 b c w got line h command read =>
    rw [waitUntil_command h read]
    have less := (Channel.receiveUntil_lessLeft deadline c w
      (congrArg Inbound.isOpen h)).trans_noMore (Channel.noMoreLeft_of_le _
        (H.note_le (.debug s!"Dispatching {command.name} command") _))
    exact ⟨less.noMore, fun _ => less⟩
  | case2 b c w got line h e read spent ih =>
    rw [waitUntil_skipped h read]
    have less := (Channel.receiveUntil_lessLeft deadline c w
      (congrArg Inbound.isOpen h)).trans_noMore (Channel.noMoreLeft_of_le _
        (H.note_le (skippedRecord H.wording line e) _))
    exact ⟨(less.trans_noMore ih.1).noMore, fun _ => less.trans_noMore ih.1⟩
  | case3 b c w got e h spent ih =>
    rw [waitUntil_rejected h]
    have less := (Channel.receiveUntil_lessLeft deadline c w
      (congrArg Inbound.isOpen h)).trans_noMore (Channel.noMoreLeft_of_le _
        (H.note_le (rejectedRecord H.wording e) _))
    exact ⟨(less.trans_noMore ih.1).noMore, fun _ => less.trans_noMore ih.1⟩
  | case4 b c w got h =>
    rw [waitUntil_noMessage h]
    have less := Channel.receiveUntil_lessLeft deadline c w (congrArg Inbound.isOpen h)
    exact ⟨less.noMore, fun _ => less⟩
  | case5 b c w got h =>
    rw [waitUntil_disconnected h]
    refine ⟨?_, fun isOpen => by simp [CommandEvent.isOpen] at isOpen⟩
    exact (Channel.receiveUntil_noMoreLeft deadline c w).trans
      (Channel.noMoreLeft_of_le _ (H.note_le ..))

theorem wait_noMoreLeft (timeout : Option Duration) (b : Inbox) (c : Channel) (w : σ) :
    Channel.NoMoreLeft H c w (b.wait H timeout c w).2.2.1 (b.wait H timeout c w).2.2.2 :=
  (waitUntil_left _ _ c w).1

theorem wait_lessLeft (timeout : Option Duration) (b : Inbox) (c : Channel) (w : σ)
    (isOpen : (b.wait H timeout c w).1.isOpen) :
    Channel.LessLeft H c w (b.wait H timeout c w).2.2.1 (b.wait H timeout c w).2.2.2 :=
  (waitUntil_left _ _ c w).2 isOpen

end Inbox
end DetectionLink
