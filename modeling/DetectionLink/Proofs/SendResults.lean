import DetectionLink.Proofs.Outbound

/-!
# What the result of a send tells

A session goes on after a send that failed as long as the error is no disconnect error. This is
right because the result of a call says what became of the client: after a success or a soft error
the channel is what it was, after a disconnect error it is closed, and a soft error left no trace
at all.

* `Told`: the three ways a call on an open stream ends, with the whole client it leaves;
* `told_perform`: there is no other;
* `sent_sendAll`, `channel_sendAll`: the count of messages and the channel after many calls;
* `send_result_tells_channel`: one call on a connected client, and on one that is not.
-/

namespace DetectionLink

/-! ## Results -/

namespace Outgoing

/-- What a call writes is a detection message. -/
def isMessage : Outgoing → Bool
  | .detections _ _ => true
  | .json _ | .line _ => false

end Outgoing

namespace Sending

/-- A detection message was written. -/
def isMessage (s : Sending) : Bool := s.succeeded && s.call.isMessage

/-- The connection was lost with this call. -/
def Disconnects (s : Sending) : Prop := ∃ e, s.result = .error e ∧ e.isDisconnect = true

theorem isMessage_iff (s : Sending) :
    s.isMessage = true ↔
      s.result = .ok () ∧ ∃ timestampMs found, s.call = .detections timestampMs found := by
  obtain ⟨call, result⟩ := s
  cases result with
  | error e =>
    constructor
    · intro message
      cases message
    · rintro ⟨ok, _⟩
      cases ok
  | ok => cases call <;> simp [isMessage, succeeded, Except.isOk, Except.toBool, Outgoing.isMessage]

theorem not_disconnects_of_ok (call : Outgoing) : ¬ Disconnects ⟨call, .ok ()⟩ := by
  rintro ⟨e, failed, _⟩
  cases failed

theorem disconnects_error_iff (call : Outgoing) (e : LinkError) :
    Disconnects ⟨call, .error e⟩ ↔ e.isDisconnect = true := by
  constructor
  · rintro ⟨e', failed, gone⟩
    obtain rfl := Except.error.inj failed
    exact gone
  · exact fun gone => ⟨e, rfl, gone⟩

end Sending

variable {σ F : Type} {H : Host σ}

/-! ## One call -/

/-- What the result of a call on an open stream tells about the client and the world it leaves. -/
inductive Told (call : Outgoing) (k : Client) (w : σ) : Except LinkError Unit × Client × σ → Prop
  | sent (w' : σ) : Told call k w (.ok (), { k with sent := k.sent + call.isMessage.toNat }, w')
  | refused {e : LinkError} (soft : e.isDisconnect = false) : Told call k w (.error e, k, w)
  | lost {e : LinkError} (gone : e.isDisconnect = true) (w' : σ) :
      Told call k w (.error e, { k with channel := k.channel.closed }, w')

section OpenStream

variable {handle : Nat} {k : Client} (stream : k.channel.stream = some handle)
include stream

/-- A payload that is written as it is, whatever it was made of, counts as no message. -/
theorem told_sendLine {call : Outgoing} (uncounted : call.isMessage = false) (payload : Bytes)
    (w : σ) : Told call k w (k.sendLine H payload w) := by
  have cases := Channel.sendLine_cases (H := H) payload k.channel w
  unfold Client.sendLine
  generalize k.channel.sendLine H payload w = done at cases ⊢
  obtain ⟨result, channel, w'⟩ := done
  rcases cases with ⟨rfl, rfl⟩ | ⟨e, rfl, soft, same⟩ | ⟨e, rfl, gone, ⟨closed, _⟩ | rfl⟩
  · have sent : Told call k w (.ok (), { k with sent := k.sent + call.isMessage.toNat }, w') :=
      .sent w'
    rwa [uncounted] at sent
  · cases same
    exact .refused soft
  · exact absurd (stream.symm.trans closed) (Option.some_ne_none handle)
  · exact .lost gone w'

theorem told_sendDetections (timestampMs : UInt64) (found : List RawDetection) (w : σ) :
    Told (.detections timestampMs found) k w (k.sendDetections H timestampMs found w) := by
  have cases := Client.sendDetections_cases (H := H) timestampMs found k w
  generalize k.sendDetections H timestampMs found w = done at cases ⊢
  obtain ⟨result, k', w'⟩ := done
  rcases cases with ⟨rfl, rfl⟩ | ⟨e, rfl, soft, same⟩ | ⟨e, rfl, gone, ⟨closed, _⟩ | rfl⟩
  · exact .sent w'
  · cases same
    exact .refused soft
  · exact absurd (stream.symm.trans closed) (Option.some_ne_none handle)
  · exact .lost gone w'

theorem told_perform (call : Outgoing) (w : σ) : Told call k w (k.perform H call w) := by
  cases call with
  | detections timestampMs found => exact told_sendDetections stream timestampMs found w
  | json value => exact told_sendLine stream rfl _ w
  | line payload => exact told_sendLine stream rfl payload w

end OpenStream

namespace Told

variable {call : Outgoing} {k : Client} {w : σ} {done : Except LinkError Unit × Client × σ}

theorem sent_eq (h : Told call k w done) :
    done.2.1.sent = k.sent + (Sending.isMessage ⟨call, done.1⟩).toNat := by
  cases h <;> rfl

theorem inbox_eq (h : Told call k w done) : done.2.1.inbox = k.inbox := by
  cases h <;> rfl

/-- The channel is closed by the calls that report so, and otherwise left alone. -/
theorem channel_cases (h : Told call k w done) :
    Sending.Disconnects ⟨call, done.1⟩ ∧ done.2.1.channel = k.channel.closed ∨
      ¬ Sending.Disconnects ⟨call, done.1⟩ ∧ done.2.1.channel = k.channel := by
  cases h with
  | sent w' => exact .inr ⟨Sending.not_disconnects_of_ok call, rfl⟩
  | refused soft =>
    refine .inr ⟨fun gone => ?_, rfl⟩
    rw [Sending.disconnects_error_iff, soft] at gone
    exact absurd gone Bool.false_ne_true
  | lost gone w' => exact .inl ⟨(Sending.disconnects_error_iff call _).mpr gone, rfl⟩

/-- On a connected client a disconnect error is one that leaves the channel closed and cleared. -/
theorem isDisconnect_iff (h : Told call k w done) (connected : k.isConnected = true) {e : LinkError}
    (failed : done.1 = .error e) :
    e.isDisconnect = true ↔ done.2.1.channel.state = .disconnected ∧
      done.2.1.channel.stream = none ∧ done.2.1.channel.lines.IsClear := by
  have state : k.channel.state = .connected := of_decide_eq_true connected
  cases h with
  | sent w' => cases failed
  | refused soft =>
    obtain rfl := Except.error.inj failed
    rw [soft]
    constructor
    · exact fun gone => absurd gone Bool.false_ne_true
    · rintro ⟨disconnected, _⟩
      cases state.symm.trans disconnected
  | lost gone w' =>
    obtain rfl := Except.error.inj failed
    exact ⟨fun _ => ⟨rfl, rfl, rfl⟩, fun _ => gone⟩

theorem unchanged_of_soft (h : Told call k w done) {e : LinkError} (failed : done.1 = .error e)
    (soft : e.isDisconnect = false) : done.2 = (k, w) := by
  cases h with
  | sent w' => cases failed
  | refused _ => rfl
  | lost gone w' =>
    obtain rfl := Except.error.inj failed
    cases gone.symm.trans soft

end Told

/-! ## Many calls -/

theorem sent_perform (call : Outgoing) (k : Client) (w : σ) :
    (k.perform H call w).2.1.sent =
      k.sent + (Sending.isMessage ⟨call, (k.perform H call w).1⟩).toNat := by
  cases stream : k.channel.stream with
  | some handle => exact (told_perform stream call w).sent_eq
  | none =>
    obtain ⟨e, failed, _⟩ := perform_of_closed (H := H) stream call w
    rw [failed]
    rfl

/-- The messages counted are those of the detection calls that succeeded. -/
theorem sent_sendAll (calls : List Outgoing) (k : Client) (w : σ) :
    (k.sendAll H calls w).2.1.sent =
      k.sent + (k.sendAll H calls w).1.countP Sending.isMessage := by
  induction calls generalizing k w with
  | nil => rfl
  | cons call rest ih =>
    simp only [Client.sendAll]
    rw [ih, sent_perform, List.countP_cons]
    cases Sending.isMessage ⟨call, (k.perform H call w).1⟩ with
    | false => rfl
    | true => exact Nat.add_right_comm _ _ _

/-- Calls on an open stream leave the channel as it was, unless one of them reports that the
connection is lost. Then it is closed, whatever the calls after that. -/
theorem channel_sendAll {handle : Nat} {k : Client} (stream : k.channel.stream = some handle)
    (calls : List Outgoing) (w : σ) :
    (k.sendAll H calls w).2.1.channel = k.channel ∧
        (∀ s ∈ (k.sendAll H calls w).1, ¬ s.Disconnects) ∨
      (k.sendAll H calls w).2.1.channel = k.channel.closed ∧
        ∃ s ∈ (k.sendAll H calls w).1, s.Disconnects := by
  induction calls generalizing k w with
  | nil => exact .inl ⟨rfl, List.forall_mem_nil _⟩
  | cons call rest ih =>
    have told := told_perform (H := H) stream call w
    simp only [Client.sendAll]
    generalize k.perform H call w = done at told ⊢
    rcases told.channel_cases with ⟨disconnects, closed⟩ | ⟨soft, kept⟩
    · have gone : done.2.1.channel.stream = none := by
        rw [closed]
        rfl
      rw [(sendAll_of_closed (H := H) gone rest done.2.2).2]
      exact .inr ⟨closed, _, List.mem_cons_self, disconnects⟩
    · rcases ih (kept ▸ stream) done.2.2 with ⟨same, none⟩ | ⟨closed, s, later, disconnects⟩
      · exact .inl ⟨same.trans kept, List.forall_mem_cons.mpr ⟨soft, none⟩⟩
      · refine .inr ⟨?_, s, List.mem_cons_of_mem _ later, disconnects⟩
        rw [closed, kept]

/-! ## The result of a call -/

/-- One call on a connected client, whatever it has received and counted and however the write
goes. A success wrote one whole line and left the channel alone. An error is a disconnect error
exactly when the channel is disconnected and cleared afterwards; with any other error the client
and the world are what they were before the call. The count of messages grows by one for
detections that succeeded and for nothing else, and what the inbox counts never changes. On a
client without a stream every call fails and changes nothing. -/
theorem send_result_tells_channel {handle : Nat} {k : Client}
    (stream : k.channel.stream = some handle) (connected : k.isConnected = true)
    (call : Outgoing) (w : σ) :
    let done := k.perform (H.traced F) call (.start w)
    untraced done = k.perform H call w ∧
    (done.1 = .ok () → done.2.1.channel = k.channel ∧
      ∃ payload, call.payload = .ok payload ∧
        deeds done.2.2.trace = [.wrote handle (payload ++ [lineTerminator]) .complete]) ∧
    (∀ e, done.1 = .error e →
      (e.isDisconnect = true ↔ done.2.1.channel.state = .disconnected ∧
        done.2.1.channel.stream = none ∧ done.2.1.channel.lines.IsClear) ∧
      (e.isDisconnect = false → done.2 = (k, .start w))) ∧
    (done.2.1.sent = k.sent + 1 ↔
      done.1 = .ok () ∧ ∃ timestampMs found, call = .detections timestampMs found) ∧
    (done.2.1.sent = k.sent ∨ done.2.1.sent = k.sent + 1) ∧
    done.2.1.inbox = k.inbox ∧
    ∀ (gone : Client) (w' : σ), gone.channel.stream = none →
      ∃ e, gone.perform H call w' = (.error e, gone, w') := by
  intro done
  have told : Told call k (.start w) done := told_perform stream call _
  have performed : Performed handle call k (.start w) done := performed_perform stream call _
  have counted := told.sent_eq
  refine ⟨perform_traced call k _, fun ok => ?_, fun e failed =>
    ⟨told.isDisconnect_iff connected failed, told.unchanged_of_soft failed⟩, ?_, ?_,
    told.inbox_eq, fun gone w' closed => ?_⟩
  · generalize done = done at ok performed ⊢
    cases performed with
    | refused refuses => cases ok
    | broken encoded free incomplete transport closed happened => cases ok
    | @sent payload _ _ encoded free kept happened =>
      exact ⟨kept, payload, encoded, happened.deeds_eq⟩
  · rw [counted, Nat.add_left_cancel_iff, Bool.toNat_eq_one]
    exact Sending.isMessage_iff _
  · rw [counted]
    cases Sending.isMessage ⟨call, done.1⟩ with
    | false => exact .inl rfl
    | true => exact .inr rfl
  · obtain ⟨e, failed, _⟩ := perform_of_closed (H := H) closed call w'
    exact ⟨e, failed⟩

/-- The text of a JSON value that is torn after two bytes closes the channel. -/
theorem send_result_of_tornValue :
    let k := Session.connectedClient
    let call : Outgoing := .json (.string "\n")
    let done := k.perform (Script.host.traced Unit) call (.start ⟨[], [.failed 2 "reset"]⟩)
    (k.channel.stream = some 0 ∧ k.isConnected = true) ∧
    done.1 = .error (.raised .send "reset") ∧
    done.2.1.channel.state = .disconnected ∧ done.2.1.channel.lines.IsClear ∧
    done.2.1.sent = 0 := by
  intro k call done
  have failed : done.1 = .error (.raised .send "reset") := rfl
  obtain ⟨_, _, errors, counts, unlessCounted, _⟩ := send_result_tells_channel (H := Script.host)
    (F := Unit) (k := k) rfl rfl call ⟨[], [.failed 2 "reset"]⟩
  obtain ⟨state, _, clear⟩ := (errors _ failed).1.mp rfl
  have uncounted : ¬ done.2.1.sent = 0 + 1 := fun one => by
    obtain ⟨ok, _⟩ := counts.mp one
    cases failed.symm.trans ok
  exact ⟨⟨rfl, rfl⟩, failed, state, clear, unlessCounted.resolve_right uncounted⟩

end DetectionLink
