import DetectionLink.Proofs.Accounting
import DetectionLink.Proofs.Intake
import DetectionLink.Proofs.StopLatency

/-!
# What a client goes through

Waits bring commands, sends bring messages out. A client is accounted for in both directions: its
waits handed out the commands of the entries it took, each once and in order, its inbox counted
them and the lines it skipped, and its count of messages grew by the lines it wrote whole.

* `Exchange`: the account of a client between two states; `Exchange.trans`;
* `exchange_wait`, `exchange_close`: its operations;
* `Client.waitAll`, `exchange_waitAll`, `waitAll_queue`: waits one after another.
-/

namespace DetectionLink

variable {σ F : Type}

/-- A detection message as it goes over the wire. -/
def IsMessageLine (bytes : Bytes) : Prop :=
  ∃ timestampMs found line, encodeDetections timestampMs found = .ok line ∧
    bytes = line ++ [lineTerminator]

/-- What came in between two states of a client, with what its waits brought, and what it wrote. -/
structure Exchange (chunks : List Bytes) (done : List (Event F)) (events : List CommandEvent)
    (k k' : Client) : Prop where
  intake : ∃ consumed, Took chunks consumed k.channel k'.channel ∧
    consumed.filterMap commandOf? = events.flatMap CommandEvent.commands ∧
    k'.inbox.discarded = k.inbox.discarded + consumed.countP isSkipped
  dispatched_eq : k'.inbox.dispatched =
    k.inbox.dispatched + (events.flatMap CommandEvent.commands).length
  sent_eq : k'.sent = k.sent + (completeLines done).length
  messages : ∀ wire ∈ wires done, IsMessageLine wire.1

namespace Exchange

variable {chunks chunks' : List Bytes} {done done' : List (Event F)}
  {events events' : List CommandEvent} {k k' k'' : Client}

theorem trans (h : Exchange chunks done events k k') (g : Exchange chunks' done' events' k' k'') :
    Exchange (chunks ++ chunks') (done ++ done') (events ++ events') k k'' where
  intake := by
    obtain ⟨consumed, took, commands, discarded⟩ := h.intake
    obtain ⟨later, took', commands', discarded'⟩ := g.intake
    refine ⟨consumed ++ later, took.trans took', ?_, ?_⟩
    · rw [List.filterMap_append, List.flatMap_append, commands, commands']
    · rw [discarded', discarded, List.countP_append, Nat.add_assoc]
  dispatched_eq := by
    rw [g.dispatched_eq, h.dispatched_eq, List.flatMap_append, List.length_append, Nat.add_assoc]
  sent_eq := by
    rw [g.sent_eq, h.sent_eq, completeLines_append, List.length_append, Nat.add_assoc]
  messages wire mem := by
    rw [wires, List.filterMap_append] at mem
    rcases List.mem_append.mp mem with earlier | later
    · exact h.messages wire earlier
    · exact g.messages wire later

/-- Nothing came in and nothing was written. -/
theorem idle (k : Client) (silent : wires done = []) : Exchange [] done [] k k where
  intake := ⟨[], .refl _, rfl, rfl⟩
  dispatched_eq := rfl
  sent_eq := by
    rw [completeLines_of_complete (fun wire mem => by simp [silent] at mem), silent]
    rfl
  messages wire mem := by simp [silent] at mem

/-- A message went out whole. -/
theorem sent {bytes : Bytes} (k : Client) (message : IsMessageLine bytes)
    (wrote : wires done = [(bytes, .complete)]) :
    Exchange [] done [] k { k with sent := k.sent + 1 } where
  intake := ⟨[], .unchanged rfl rfl, rfl, rfl⟩
  dispatched_eq := rfl
  sent_eq := by
    have complete : ∀ wire ∈ wires done, wire.2 = .complete := by simp [wrote]
    rw [completeLines_of_complete complete, wrote]
    rfl
  messages wire mem := by
    rw [wrote] at mem
    exact List.mem_singleton.mp mem ▸ message

/-- A message did not go out whole, and the channel was closed. -/
theorem broken {bytes : Bytes} {outcome : WriteOutcome} {k : Client}
    (isOpen : k.channel.stream.isSome) (message : IsMessageLine bytes)
    (wrote : wires done = [(bytes, outcome)]) (nothingWhole : completeLines done = []) :
    Exchange [] done [] k { k with channel := k.channel.closed } where
  intake := ⟨[], .close isOpen, rfl, rfl⟩
  dispatched_eq := rfl
  sent_eq := by
    rw [nothingWhole]
    rfl
  messages wire mem := by
    rw [wrote] at mem
    exact List.mem_singleton.mp mem ▸ message

/-- Every line written whole is a detection message. -/
theorem message_of_mem (h : Exchange chunks done events k k') {line : Bytes}
    (mem : line ∈ completeLines done) : IsMessageLine line := by
  obtain ⟨event, member, whole⟩ := List.mem_filterMap.mp mem
  cases event with
  | wrote handle bytes outcome =>
    cases outcome with
    | complete =>
      obtain rfl := Option.some.inj whole
      exact h.messages (bytes, .complete) (List.mem_filterMap.mpr ⟨_, member, rfl⟩)
    | failed _ _ => cases whole
    | expired _ => cases whole
  | _ => cases whole

end Exchange

/-! ## Operations -/

variable {H : Host σ}

/-- A wait. A connection it finds lost is lost. -/
theorem exchange_wait (timeout : Option Duration) {k : Client} (t : Traced σ F)
    (sound : k.channel.Sound) :
    let done := k.wait (H.traced F) timeout t
    (∃ chunks, Elapsed chunks [] t done.2.2 ∧
      Exchange chunks ([] : List (Event F)) [done.1] k done.2.1) ∧
    (done.1 = .disconnected → done.2.1.channel.stream = none) := by
  intro done
  obtain ⟨chunks, taken, heard⟩ := heard_waitUntil (H := H)
    (timeout.map ((H.traced F).now t).after) (b := { k.inbox with state := .waiting }) (t := t)
    sound
  have commands : taken.filterMap commandOf? = [done.1].flatMap CommandEvent.commands :=
    heard.commands_eq.trans (List.flatMap_singleton ..).symm
  refine ⟨⟨chunks, heard.elapsed, ⟨taken, heard.took, commands, heard.discarded_eq⟩, ?_, rfl,
    nofun⟩, heard.gone⟩
  rw [List.flatMap_singleton]
  exact heard.dispatched_eq

/-- A client that is closed, whether it was open or not. -/
theorem exchange_close {k : Client} (t : Traced σ F) (sound : k.channel.Sound) :
    let done := k.close (H.traced F) t
    Elapsed [] [] t done.2 ∧ Exchange [] ([] : List (Event F)) [] k done.1 := by
  intro done
  refine ⟨.of_happened (happened_close k.channel t) (received_close k.channel t),
    ⟨[], ?_, rfl, rfl⟩, rfl, rfl, nofun⟩
  rw [show done.1.channel = k.channel.closed from Channel.close_fst ..]
  exact took_closed sound

/-! ## Waits one after another -/

namespace Client

variable (H) in
/-- Waits with what each brought. -/
def waitAll : List (Option Duration) → Client → σ → List CommandEvent × Client × σ
  | [], k, w => ([], k, w)
  | timeout :: rest, k, w =>
    let done := k.wait H timeout w
    let more := waitAll rest done.2.1 done.2.2
    (done.1 :: more.1, more.2)

end Client

theorem exchange_waitAll (timeouts : List (Option Duration)) {k : Client} (t : Traced σ F)
    (sound : k.channel.Sound) :
    let done := k.waitAll (H.traced F) timeouts t
    ∃ chunks, Elapsed chunks [] t done.2.2 ∧
      Exchange chunks ([] : List (Event F)) done.1 k done.2.1 := by
  induction timeouts generalizing k t with
  | nil => exact ⟨[], .refl t, .idle k rfl⟩
  | cons timeout rest ih =>
    obtain ⟨⟨chunks, elapsed, first⟩, -⟩ := exchange_wait (H := H) timeout t sound
    have kept : (k.wait (H.traced F) timeout t).2.1.channel.Sound := sound_waitUntil sound
    obtain ⟨more, elapsed', others⟩ := ih (k.wait (H.traced F) timeout t).2.2 kept
    exact ⟨_, elapsed.trans elapsed', first.trans others⟩

/-- As many waits as there are commands in the buffer hand out just these. -/
theorem waitAll_queue (timeouts : List (Option Duration)) (k : Client) (w : σ) :
    (k.waitAll H timeouts w).1.take k.queue.length =
      (k.queue.take timeouts.length).map .command := by
  induction timeouts generalizing k w with
  | nil => simp [Client.waitAll]
  | cons timeout rest ih =>
    cases waiting : k.queue with
    | nil => simp
    | cons command others =>
      obtain ⟨k', w', brought, left, -⟩ := Client.wait_queue (H := H) timeout waiting w
      have later := ih k' w'
      rw [left] at later
      simp only [Client.waitAll, brought, List.length_cons, List.take_succ_cons, later,
        List.map_cons]

end DetectionLink
