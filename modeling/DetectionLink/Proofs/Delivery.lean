import DetectionLink.Proofs.Connection
import DetectionLink.Proofs.Framing
import DetectionLink.Proofs.Trace

/-!
# Every command arrives once, in order

Between the socket and the caller stand the line buffer, the receive loop and the loop that skips
what is no command. Along one connection the entries handed out are always a prefix of the
reference entries of the bytes read, and what is left of them waits in the buffer. When a wait
comes back without a command nothing is left.

* `Delivered`: the invariant, on an open channel and on a lost one;
* `delivered_receiveUntil`, `delivered_waitUntil`: one receive, one wait;
* `Listening`: waits, polls and successful sends in any order;
* `commands_eq_reference`: the commands of a whole connection.
-/

namespace DetectionLink

open Framing

variable {σ F : Type}

/-- The command on an entry, if it holds one. -/
def commandOf? : LineEntry → Option Command
  | .ok line => (Command.ofLine line).toOption
  | .error _ => none

/-- An entry that is skipped. -/
def isSkipped (entry : LineEntry) : Bool := (commandOf? entry).isNone

/-- The entry a receive hands out. -/
def Inbound.entries : Inbound → List LineEntry
  | .line bytes => [.ok bytes]
  | .rejected e => [.error e]
  | .noMessage | .disconnected => []

theorem Inbound.entries_ofEntry (entry : LineEntry) : (ofEntry entry).entries = [entry] := by
  cases entry <;> rfl

/-- The command a wait hands out. -/
def CommandEvent.commands : CommandEvent → List Command
  | .command c => [c]
  | .noCommand | .disconnected => []

/-! ## One connection -/

/-- A channel on a connection that brought `stream`, of whose entries `taken` were handed out. A
connection is lost only when no entry waits any more. -/
inductive Delivered (stream : Bytes) (taken : List LineEntry) (c : Channel) : Prop
  | live (isOpen : c.stream.isSome) (framed : BufferFramed c.lines stream taken)
  | lost (gone : c.stream = none) (clear : c.lines.IsClear)
      (all : taken = reference c.lines.limit stream)

namespace Delivered

variable {stream : Bytes} {taken : List LineEntry} {c : Channel}

theorem entries_eq (h : Delivered stream taken c) :
    taken ++ c.lines.ready = reference c.lines.limit stream := by
  cases h with
  | live _ framed => exact framed.entries_eq
  | lost _ clear all =>
    rw [clear, all]
    exact List.append_nil _

theorem all_taken (h : Delivered stream taken c) (empty : c.lines.next? = none) :
    taken = reference c.lines.limit stream := by
  have entries := h.entries_eq
  rwa [LineBuffer.ready_of_next?_none empty, List.append_nil] at entries

/-- Closing loses nothing when no entry waits. -/
theorem closed (h : Delivered stream taken c) (empty : c.lines.next? = none) :
    Delivered stream taken c.closed :=
  .lost rfl rfl (h.all_taken empty)

end Delivered

variable {H : Host σ} {deadline : Option Instant}

theorem received_close (c : Channel) (t : Traced σ F) :
    received (c.close (H.traced F) t).2.trace = received t.trace := by
  cases stream : c.stream <;> simp [Channel.close, stream]

/-- What a receive leaves behind. -/
structure Received (c : Channel) (taken : List LineEntry) (r : Inbound × Channel × Traced σ F) :
    Prop where
  delivered : Delivered (received r.2.2.trace) (taken ++ r.1.entries) r.2.1
  limit_eq : r.2.1.lines.limit = c.lines.limit
  drained : r.1.entries = [] → r.2.1.lines.next? = none
  isOpen : r.1 = .noMessage → r.2.1.stream.isSome

/-- A read that brings no chunk. -/
theorem received_read_quiet {handle : Nat} {t : Traced σ F} {outcome : ReadOutcome}
    (got : ((H.traced F).read handle deadline t).1 = outcome)
    (quiet : (Event.read handle outcome : Event F).bytes = []) :
    received ((H.traced F).read handle deadline t).2.trace = received t.trace := by
  rw [received_read, got, quiet, List.append_nil]

/-- A receive that loses the connection. -/
theorem received_lost {c : Channel} {t t' : Traced σ F} {taken : List LineEntry}
    (h : Delivered (received t.trace) taken c) (next : c.lines.next? = none)
    (same : received (c.close (H.traced F) t').2.trace = received t.trace) :
    Received c taken (.disconnected, c.close (H.traced F) t') := by
  refine ⟨?_, ?_, fun _ => ?_, nofun⟩
  · rw [same, Channel.close_fst]
    exact (List.append_nil taken).symm ▸ h.closed next
  · rw [Channel.close_fst]
    rfl
  · rw [Channel.close_fst]
    rfl

theorem delivered_receiveUntil (deadline : Option Instant) {c : Channel} {t : Traced σ F}
    {taken : List LineEntry} (h : Delivered (received t.trace) taken c) :
    Received c taken (c.receiveUntil (H.traced F) deadline t) := by
  induction c, t using Channel.receiveUntil.induct (H.traced F) deadline with
  | case1 c t entry lines next =>
    rw [Channel.receiveUntil_entry next]
    have entries := Inbound.entries_ofEntry entry
    refine ⟨?_, LineBuffer.limit_of_next? next, by simp [entries], ?_⟩
    · rw [entries]
      cases h with
      | live isOpen framed => exact .live isOpen (framed_next framed next)
      | lost gone clear all =>
        -- a lost connection has no entry to hand out
        rw [clear.next?_eq_none] at next
        exact absurd next.symm (Option.some_ne_none _)
    · intro noMessage
      have noMessage : Inbound.ofEntry entry = .noMessage := noMessage
      rw [noMessage] at entries
      exact absurd entries.symm (List.cons_ne_nil entry [])
  | case2 c t next stream =>
    rw [Channel.receiveUntil_noStream next stream]
    exact ⟨(List.append_nil taken).symm ▸ h, rfl, fun _ => next, Inbound.noConfusion⟩
  | case3 c t next handle stream got chunk brought spent absorbed ih =>
    rw [Channel.receiveUntil_chunk next stream brought]
    -- the stream grows by the chunk, and the buffer with it
    cases h with
    | live isOpen framed =>
      have grown : received ((H.traced F).noteAll absorbed.2 got.2).trace =
          received t.trace ++ chunk.bytes := by
        rw [received_noteAll, received_read, brought]
        rfl
      have after := ih (.live isOpen (grown ▸ framed_absorb framed chunk.bytes))
      exact ⟨after.delivered, after.limit_eq, after.drained, after.isOpen⟩
    | lost gone _ _ => exact absurd stream (by simp [gone])
  | case4 c t next handle stream got interrupted spent ih =>
    rw [Channel.receiveUntil_interrupted next stream interrupted]
    have same := received_read_quiet (F := F) interrupted rfl
    exact ih (same ▸ h)
  | case5 c t next handle stream got expired =>
    rw [Channel.receiveUntil_expired next stream expired]
    have same := received_read_quiet (F := F) expired rfl
    refine ⟨?_, rfl, fun _ => next, fun _ => by simp [stream]⟩
    rw [same]
    exact (List.append_nil taken).symm ▸ h
  | case6 c t next handle stream got ended =>
    rw [Channel.receiveUntil_ended next stream ended]
    have same := received_read_quiet (F := F) ended rfl
    exact received_lost h next (by rw [received_close, received_note, same])
  | case7 c t next handle stream got reason failed =>
    rw [Channel.receiveUntil_failed next stream failed]
    have same := received_read_quiet (F := F) failed rfl
    exact received_lost h next (by rw [received_close, received_note, same])

/-! ## One wait -/

/-- What a wait leaves behind; `more` are the entries it took. -/
structure Waited (b : Inbox) (c : Channel) (taken more : List LineEntry)
    (r : CommandEvent × Inbox × Channel × Traced σ F) : Prop where
  delivered : Delivered (received r.2.2.2.trace) (taken ++ more) r.2.2.1
  limit_eq : r.2.2.1.lines.limit = c.lines.limit
  commands_eq : more.filterMap commandOf? = r.1.commands
  dispatched_eq : r.2.1.dispatched = b.dispatched + r.1.commands.length
  discarded_eq : r.2.1.discarded = b.discarded + more.countP isSkipped
  drained : r.1.commands = [] → r.2.2.1.lines.next? = none
  isOpen : r.1 = .noCommand → r.2.2.1.stream.isSome

/-- A skipped entry in front of the rest of a wait. -/
theorem Waited.skip {b : Inbox} {c c' : Channel} {taken more : List LineEntry} {entry : LineEntry}
    {r : CommandEvent × Inbox × Channel × Traced σ F}
    (rest : Waited b.discard c' (taken ++ [entry]) more r) (skipped : commandOf? entry = none)
    (limit : c'.lines.limit = c.lines.limit) : Waited b c taken (entry :: more) r where
  delivered := by simpa using rest.delivered
  limit_eq := rest.limit_eq.trans limit
  commands_eq := by rw [List.filterMap_cons_none skipped, rest.commands_eq]
  dispatched_eq := rest.dispatched_eq
  discarded_eq := by
    rw [rest.discarded_eq, List.countP_cons_of_pos (by simp [isSkipped, skipped])]
    simp only [Inbox.discard]
    omega
  drained := rest.drained
  isOpen := rest.isOpen

theorem commandOf?_ok {line : Bytes} {command : Command}
    (read : Command.ofLine line = .ok command) : commandOf? (.ok line) = some command := by
  rw [commandOf?, read]
  rfl

theorem commandOf?_error {line : Bytes} {e : LinkError}
    (read : Command.ofLine line = .error e) : commandOf? (.ok line) = none := by
  rw [commandOf?, read]
  rfl

theorem delivered_waitUntil (deadline : Option Instant) {b : Inbox} {c : Channel}
    {t : Traced σ F} :
    ∀ taken, Delivered (received t.trace) taken c →
      ∃ more, Waited b c taken more (b.waitUntil (H.traced F) deadline c t) := by
  -- the induction is over the skipped lines; each moves on to a longer list of taken entries
  refine Inbox.waitUntil.induct (H.traced F) deadline (fun b c t =>
    ∀ taken, Delivered (received t.trace) taken c →
      ∃ more, Waited b c taken more (b.waitUntil (H.traced F) deadline c t))
    ?command ?skipped ?rejected ?noMessage ?disconnected b c t
  case command =>
    intro b c t got line brought command read taken h
    rw [Inbox.waitUntil_command brought read]
    have after := delivered_receiveUntil (H := H) deadline h
    have delivered := after.delivered
    rw [brought] at delivered
    have isCommand := commandOf?_ok read
    refine ⟨[.ok line], ?_, after.limit_eq, ?_, rfl, ?_,
      fun none => absurd none (List.cons_ne_nil command []), CommandEvent.noConfusion⟩
    · rw [received_note]
      exact delivered
    · rw [List.filterMap_cons_some isCommand, List.filterMap_nil]
      rfl
    · rw [List.countP_cons_of_neg (by simp [isSkipped, isCommand])]
      rfl
  case skipped =>
    intro b c t got line brought e read spent ih taken h
    rw [Inbox.waitUntil_skipped brought read]
    have after := delivered_receiveUntil (H := H) deadline h
    have delivered := after.delivered
    rw [brought] at delivered
    obtain ⟨more, rest⟩ := ih _ (by rw [received_note]; exact delivered)
    exact ⟨_, rest.skip (commandOf?_error read) after.limit_eq⟩
  case rejected =>
    intro b c t got e brought spent ih taken h
    rw [Inbox.waitUntil_rejected brought]
    have after := delivered_receiveUntil (H := H) deadline h
    have delivered := after.delivered
    rw [brought] at delivered
    obtain ⟨more, rest⟩ := ih _ (by rw [received_note]; exact delivered)
    exact ⟨_, rest.skip rfl after.limit_eq⟩
  case noMessage =>
    intro b c t got brought taken h
    rw [Inbox.waitUntil_noMessage brought]
    have after := delivered_receiveUntil (H := H) deadline h
    have delivered := after.delivered
    rw [brought] at delivered
    exact ⟨[], delivered, after.limit_eq, rfl, rfl, rfl,
      fun _ => after.drained (by rw [brought]; rfl), fun _ => after.isOpen brought⟩
  case disconnected =>
    intro b c t got brought taken h
    rw [Inbox.waitUntil_disconnected brought]
    have after := delivered_receiveUntil (H := H) deadline h
    have delivered := after.delivered
    rw [brought] at delivered
    refine ⟨[], ?_, after.limit_eq, rfl, rfl, rfl,
      fun _ => after.drained (by rw [brought]; rfl), CommandEvent.noConfusion⟩
    rw [received_note]
    exact delivered

/-! ## A whole connection -/

theorem received_attemptFrom (c : Channel) (attempts : Nat) (t : Traced σ F) :
    received (c.attemptFrom (H.traced F) attempts t).2.2.trace = received t.trace := by
  induction attempts, t using Channel.attemptFrom.induct (H.traced F) c with
  | case1 attempts t tried handle opened =>
    rw [Channel.attemptFrom_opened opened, received_note]
    exact received_attempt ..
  | case2 attempts t tried wait failed asked again spent ih =>
    rw [Channel.attemptFrom_again failed again]
    refine ih.trans ?_
    rw [received_sleep, received_note, received_pause, received_note]
    exact received_attempt ..
  | case3 attempts t tried failed asked given =>
    rw [Channel.attemptFrom_gaveUp failed given, received_note, Channel.asked, received_pause,
      received_note]
    exact received_attempt ..

theorem received_sendLine (payload : Bytes) (c : Channel) (t : Traced σ F) :
    received (c.sendLine (H.traced F) payload t).2.2.trace = received t.trace := by
  unfold Channel.sendLine
  split
  · rfl
  · split
    · rfl
    · dsimp only
      split <;> simp [received_close]

theorem received_sendDetections (timestampMs : UInt64) (detections : List RawDetection)
    (k : Client) (t : Traced σ F) :
    received (k.sendDetections (H.traced F) timestampMs detections t).2.2.trace =
      received t.trace := by
  unfold Client.sendDetections
  split
  · rfl
  · next line _ =>
    have sent := received_sendLine (H := H) line k.channel t
    unfold Client.sendLine
    dsimp only
    split
    · rw [received_note]
      exact sent
    · exact sent

/-- A client from its connect on: `events` is what its waits brought. In between lines may be
sent, and anything may happen to the world. -/
inductive Listening (H : Host σ) (k₀ : Client) (t₀ : Traced σ F) :
    List CommandEvent → Client → Traced σ F → Prop
  | connected : Listening H k₀ t₀ [] k₀ t₀
  | waited {events : List CommandEvent} {k : Client} {t : Traced σ F} (timeout : Option Duration)
      (before : Listening H k₀ t₀ events k t) :
      Listening H k₀ t₀ (events ++ [(k.wait (H.traced F) timeout t).1])
        (k.wait (H.traced F) timeout t).2.1 (k.wait (H.traced F) timeout t).2.2
  | polled {events : List CommandEvent} {k : Client} {t : Traced σ F}
      (before : Listening H k₀ t₀ events k t) :
      Listening H k₀ t₀ (events ++ [(k.poll (H.traced F) t).1])
        (k.poll (H.traced F) t).2.1 (k.poll (H.traced F) t).2.2
  | sentDetections {events : List CommandEvent} {k : Client} {t : Traced σ F}
      (timestampMs : UInt64) (detections : List RawDetection)
      (before : Listening H k₀ t₀ events k t)
      (sent : (k.sendDetections (H.traced F) timestampMs detections t).1 = .ok ()) :
      Listening H k₀ t₀ events (k.sendDetections (H.traced F) timestampMs detections t).2.1
        (k.sendDetections (H.traced F) timestampMs detections t).2.2
  | sentValue {events : List CommandEvent} {k : Client} {t : Traced σ F} (value : Json.Value)
      (before : Listening H k₀ t₀ events k t)
      (sent : (k.sendValue (H.traced F) value t).1 = .ok ()) :
      Listening H k₀ t₀ events (k.sendValue (H.traced F) value t).2.1
        (k.sendValue (H.traced F) value t).2.2
  | elapsed {events : List CommandEvent} {k : Client} {t : Traced σ F} (world : σ)
      (before : Listening H k₀ t₀ events k t) :
      Listening H k₀ t₀ events k { t with world }

/-- The books of a client that started with the inbox `start`: every entry it took is a command
that was handed out or a line that was counted as skipped. -/
structure Accounted (limit : Nat) (start : Inbox) (events : List CommandEvent) (k : Client)
    (stream : Bytes) (taken : List LineEntry) : Prop where
  delivered : Delivered stream taken k.channel
  limit_eq : k.channel.lines.limit = limit
  commands_eq : events.flatMap CommandEvent.commands = taken.filterMap commandOf?
  dispatched_eq :
    k.inbox.dispatched = start.dispatched + (events.flatMap CommandEvent.commands).length
  discarded_eq : k.inbox.discarded = start.discarded + taken.countP isSkipped
  drained : ∀ event, events.getLast? = some event → event.commands = [] →
    k.channel.lines.next? = none
  isOpen : events.getLast? = some .noCommand → k.channel.stream.isSome

namespace Accounted

variable {limit : Nat} {start : Inbox} {events : List CommandEvent} {k : Client} {stream : Bytes}
  {taken : List LineEntry}

theorem wait {t : Traced σ F} (h : Accounted limit start events k (received t.trace) taken)
    (timeout : Option Duration) :
    ∃ more, Accounted limit start (events ++ [(k.wait (H.traced F) timeout t).1])
      (k.wait (H.traced F) timeout t).2.1 (received (k.wait (H.traced F) timeout t).2.2.trace)
      (taken ++ more) := by
  obtain ⟨more, waited⟩ := delivered_waitUntil (H := H)
    (timeout.map ((H.traced F).now t).after) (b := { k.inbox with state := .waiting }) taken
    h.delivered
  refine ⟨more, waited.delivered, waited.limit_eq.trans h.limit_eq, ?_, ?_, ?_, ?_, ?_⟩
  · rw [List.flatMap_append, List.filterMap_append, h.commands_eq, waited.commands_eq,
      List.flatMap_singleton]
    rfl
  · refine waited.dispatched_eq.trans ?_
    rw [List.flatMap_append, List.flatMap_singleton, List.length_append, ← Nat.add_assoc,
      ← h.dispatched_eq]
    rfl
  · refine waited.discarded_eq.trans ?_
    rw [List.countP_append, ← Nat.add_assoc, ← h.discarded_eq]
  · intro event last
    rw [List.getLast?_concat, Option.some.injEq] at last
    rw [← last]
    exact waited.drained
  · intro last
    rw [List.getLast?_concat, Option.some.injEq] at last
    exact waited.isOpen last

/-- A line that was sent changes nothing that is counted here. -/
theorem sent {k' : Client} (h : Accounted limit start events k stream taken)
    (channel : k'.channel = k.channel) (inbox : k'.inbox = k.inbox) :
    Accounted limit start events k' stream taken where
  delivered := channel ▸ h.delivered
  limit_eq := channel ▸ h.limit_eq
  commands_eq := h.commands_eq
  dispatched_eq := inbox ▸ h.dispatched_eq
  discarded_eq := inbox ▸ h.discarded_eq
  drained := channel ▸ h.drained
  isOpen := channel ▸ h.isOpen

end Accounted

/-- A connect that was needed and succeeded starts with nothing received. -/
theorem accounted_connect {k k₀ : Client} {w : σ} {t₀ : Traced σ F} (sound : k.channel.Sound)
    (idle : k.isConnected = false)
    (connected : k.connect (H.traced F) (.start w) = (.ok (), k₀, t₀)) :
    Accounted (max k.channel.config.maxMessageBytes 1) k.inbox [] k₀ (received t₀.trace) [] := by
  simp only [Client.connect, Prod.mk.injEq] at connected
  obtain ⟨succeeded, rfl, rfl⟩ := connected
  have nothing : received (k.channel.connect (H.traced F) (.start w)).2.2.trace = [] := by
    have needed : ¬ k.channel.isConnected = true := Bool.eq_false_iff.mp idle
    rw [Channel.connect, if_neg needed, received_attemptFrom, received_note]
    rfl
  rw [nothing]
  rcases Channel.connect_cases (H := H.traced F) k.channel (.start w) with
    ⟨already, _⟩ | ⟨_, ⟨handle, _, opened⟩ | ⟨e, failed, _⟩⟩
  · rw [Client.isConnected, already] at idle
    exact absurd idle nofun
  · rw [opened]
    exact ⟨.live rfl (framed_clear _), sound.limit_eq, rfl, rfl, rfl, nofun, nofun⟩
  · rw [succeeded] at failed
    exact absurd failed nofun

theorem accounted_of_listening {limit : Nat} {start : Inbox} {k₀ k : Client} {t₀ t : Traced σ F}
    {events : List CommandEvent} (listening : Listening H k₀ t₀ events k t)
    (first : Accounted limit start [] k₀ (received t₀.trace) []) :
    ∃ taken, Accounted limit start events k (received t.trace) taken := by
  induction listening with
  | connected => exact ⟨[], first⟩
  | waited timeout _ ih =>
    obtain ⟨taken, h⟩ := ih
    obtain ⟨more, h⟩ := h.wait timeout
    exact ⟨_, h⟩
  | polled _ ih =>
    obtain ⟨taken, h⟩ := ih
    obtain ⟨more, h⟩ := h.wait _
    exact ⟨_, h⟩
  | @sentDetections events k t timestampMs detections _ sent ih =>
    -- of the ways to send only the one that succeeds is left
    obtain ⟨taken, h⟩ := ih
    refine ⟨taken, ?_⟩
    rw [received_sendDetections]
    rcases Client.sendDetections_cases (H := H.traced F) timestampMs detections k t with
      ⟨_, same⟩ | ⟨_, failed, _⟩ | ⟨_, failed, _⟩
    · rw [same]
      exact h.sent rfl rfl
    · exact absurd (sent.symm.trans failed) nofun
    · exact absurd (sent.symm.trans failed) nofun
  | @sentValue events k t value _ sent ih =>
    obtain ⟨taken, h⟩ := ih
    refine ⟨taken, ?_⟩
    have quiet := received_sendLine (H := H) (Utf8.ofString value.text) k.channel t
    rw [Client.sendValue, Client.sendLine] at sent ⊢
    rw [quiet]
    rcases Channel.sendLine_cases (H := H.traced F) (Utf8.ofString value.text) k.channel t with
      ⟨_, same⟩ | ⟨_, failed, _⟩ | ⟨_, failed, _⟩
    · exact h.sent same rfl
    · exact absurd (sent.symm.trans failed) nofun
    · exact absurd (sent.symm.trans failed) nofun
  | elapsed world _ ih => exact ih

/-- The commands of a connection: what its waits took is a prefix of the reference entries of
the bytes read, every command of it was handed out once and in order, everything else of it was
counted as skipped, and a wait that brings no command has taken all there is. A wait that only ran
out of time leaves the unfinished line in the buffer. -/
theorem commands_eq_reference {k k₀ k' : Client} {w : σ} {t₀ t' : Traced σ F}
    {events : List CommandEvent} (sound : k.channel.Sound) (idle : k.isConnected = false)
    (connected : k.connect (H.traced F) (.start w) = (.ok (), k₀, t₀))
    (listening : Listening H k₀ t₀ events k' t') :
    let limit := max k.channel.config.maxMessageBytes 1
    let stream := received t'.trace
    let commands := events.flatMap CommandEvent.commands
    ∃ consumed,
      consumed ++ k'.channel.lines.ready = reference limit stream ∧
      commands = consumed.filterMap commandOf? ∧
      k'.inbox.dispatched = k.inbox.dispatched + commands.length ∧
      k'.inbox.discarded = k.inbox.discarded + consumed.countP isSkipped ∧
      (events.getLast? = some .noCommand → consumed = reference limit stream ∧
        k'.channel.lines.held = heldOf limit stream ∧
        (k'.channel.lines.discarding = true ↔ limit < (tail stream).length)) ∧
      (events.getLast? = some .disconnected → consumed = reference limit stream) := by
  intro limit stream commands
  obtain ⟨consumed, h⟩ := accounted_of_listening listening (accounted_connect sound idle connected)
  -- the first equation holds at every moment, the buffer's own limit being that of the config
  have entries := h.delivered.entries_eq
  rw [h.limit_eq] at entries
  have all : ∀ event, events.getLast? = some event → event.commands = [] →
      consumed = reference limit stream := by
    intro event last none
    have all := h.delivered.all_taken (h.drained event last none)
    rwa [h.limit_eq] at all
  refine ⟨consumed, entries, h.commands_eq, h.dispatched_eq, h.discarded_eq, fun last => ?_,
    fun last => all _ last rfl⟩
  refine ⟨all _ last rfl, ?_⟩
  have isOpen := h.isOpen last
  cases h.delivered with
  | live _ framed =>
    have held := framed.held_eq
    have discarding := framed.discarding_iff
    rw [h.limit_eq] at held discarding
    exact ⟨held, discarding⟩
  | lost gone _ _ => exact absurd isOpen (by simp [gone])

/-- Connecting to a script succeeds. -/
theorem connect_script (k : Client) (t : Traced Script F) :
    (k.connect (Script.host.traced F) t).1 = .ok () := by
  unfold Client.connect Channel.connect
  dsimp only
  split
  · rfl
  · rw [Channel.attemptFrom_opened rfl]

/-- A stop that a wait cuts in two, by running out of time. -/
def cutStop : Script where
  reads := [
    .chunk ⟨Utf8.ofString "\x7b\"cmd\":", by decide, by decide⟩,
    .expired,
    .chunk ⟨Utf8.ofString "\"stop\"\x7d\n", by decide, by decide⟩]
  writes := []

/-- Two waits for it. -/
theorem commands_of_cutStop :
    let H : Host (Traced Script Nat) := Script.host.traced Nat
    let k : Client := .ofConfig ⟨[], ⟨0⟩, ⟨0⟩, ⟨0⟩, 0, 64⟩ ⟨0⟩
    let opened := (k.connect H (.start cutStop)).2
    let first := opened.1.wait H (some ⟨1⟩) opened.2
    let second := first.2.1.poll H first.2.2
    (k.channel.Sound ∧ k.isConnected = false ∧
      k.connect H (.start cutStop) = (.ok (), opened.1, opened.2) ∧
      Listening Script.host opened.1 opened.2 [first.1, second.1] second.2.1 second.2.2) ∧
    ∃ consumed,
      consumed ++ second.2.1.channel.lines.ready = reference 64 (received second.2.2.trace) ∧
      [first.1, second.1].flatMap CommandEvent.commands = consumed.filterMap commandOf? := by
  intro H k opened first second
  have sound : k.channel.Sound := Channel.sound_ofConfig _
  have connected : k.connect H (.start cutStop) = (.ok (), opened.1, opened.2) :=
    Prod.ext (connect_script k _) rfl
  have listening : Listening Script.host opened.1 opened.2 [first.1, second.1] second.2.1
      second.2.2 := .polled (.waited _ .connected)
  refine ⟨⟨sound, rfl, connected, listening⟩, ?_⟩
  obtain ⟨consumed, entries, commands, _⟩ := commands_eq_reference sound rfl connected listening
  exact ⟨consumed, entries, commands⟩

end DetectionLink
