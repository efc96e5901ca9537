import DetectionLink.Proofs.Framing
import DetectionLink.Proofs.SessionTrace
import Mathlib.Data.List.Induction

/-!
# The outbound stream is whole lines and at most one torn one

Everything a client puts on the wire goes through three calls: detections, JSON values and plain
lines. A call that is refused leaves no byte behind, a call that succeeds leaves one line, and the
first call that fails in transport leaves the start of its line and closes the channel. So the
peer, splitting at terminators, sees the payloads of the calls that succeeded and nothing else.

* `Outgoing`, `Client.sendAll`: calls, and a sequence of them with the result of each;
* `written`: the bytes that a trace put on a stream;
* `Carried`: how a sequence of calls goes on an open stream, `carried_sendAll` being the run;
* `outbound_stream_intact`: what is on the wire in the end.
-/

namespace DetectionLink

/-! ## Calls -/

/-- What a client is asked to put on the wire. -/
inductive Outgoing
  | detections (timestampMs : UInt64) (found : List RawDetection)
  | json (value : Json.Value)
  | line (payload : Bytes)

namespace Outgoing

/-- The payload of a call, or why there is none. -/
def payload : Outgoing → Except LinkError Bytes
  | .detections timestampMs found => encodeDetections timestampMs found
  | .json value => .ok (Utf8.ofString value.text)
  | .line payload => .ok payload

/-- The two reasons to refuse a call on an open stream: it has no payload, or it is a plain line
with a terminator inside. -/
def Refuses (call : Outgoing) (e : LinkError) : Prop :=
  call.payload = .error e ∨
    e = Channel.terminatorInside ∧ ∃ payload, call = .line payload ∧ lineTerminator ∈ payload

end Outgoing

/-- One call and its result. -/
structure Sending where
  call : Outgoing
  result : Except LinkError Unit

namespace Sending

def succeeded (s : Sending) : Bool := s.result.isOk

/-- The write itself failed. -/
def FailedInTransport (s : Sending) : Prop :=
  ∃ e, s.result = .error e ∧ (e.kind = .send ∨ e.kind = .timeout)

/-- The call succeeded, or it was refused before anything was written. -/
def Settled (s : Sending) : Prop :=
  s.result = .ok () ∨ ∃ e, s.result = .error e ∧ s.call.Refuses e

/-- Nothing was written, because the channel was gone or because there was nothing to write. -/
def Unsent (s : Sending) : Prop :=
  ∃ e, s.result = .error e ∧ (e = Channel.notConnected ∨ s.call.payload = .error e)

end Sending

namespace Client

variable {σ : Type} (H : Host σ)

def perform (call : Outgoing) (k : Client) (w : σ) : Except LinkError Unit × Client × σ :=
  match call with
  | .detections timestampMs found => k.sendDetections H timestampMs found w
  | .json value => k.sendValue H value w
  | .line payload => k.sendLine H payload w

/-- One call after another, with the result of each. -/
def sendAll : List Outgoing → Client → σ → List Sending × Client × σ
  | [], k, w => ([], k, w)
  | call :: rest, k, w =>
    let done := k.perform H call w
    let more := sendAll rest done.2.1 done.2.2
    (⟨call, done.1⟩ :: more.1, more.2)

end Client

/-! ## Bytes on the wire -/

namespace WriteOutcome

/-- What went out of the bytes of a write. -/
def accepted (bytes : Bytes) : WriteOutcome → Bytes
  | .complete => bytes
  | .failed written _ | .expired written => bytes.take written

/-- A write that is not complete has bytes left. -/
def StopsShort (bytes : Bytes) : WriteOutcome → Prop
  | .complete => True
  | .failed written _ | .expired written => written < bytes.length

instance (bytes : Bytes) : (outcome : WriteOutcome) → Decidable (outcome.StopsShort bytes)
  | .complete => .isTrue trivial
  | .failed written _ | .expired written => Nat.decLt written bytes.length

theorem accepted_isProperPrefix {bytes : Bytes} {outcome : WriteOutcome}
    (incomplete : outcome ≠ .complete) (short : outcome.StopsShort bytes) :
    outcome.accepted bytes <+: bytes ∧ outcome.accepted bytes ≠ bytes := by
  have cut {n : Nat} (left : n < bytes.length) : bytes.take n <+: bytes ∧ bytes.take n ≠ bytes := by
    refine ⟨List.take_prefix n bytes, fun whole => ?_⟩
    have length := congrArg List.length whole
    rw [List.length_take] at length
    omega
  cases outcome with
  | complete => exact absurd rfl incomplete
  | failed written reason => exact cut short
  | expired written => exact cut short

end WriteOutcome

variable {σ F : Type}

namespace Event

/-- The bytes an event put on a stream. -/
def put (handle : Nat) : Event F → Bytes
  | .wrote target bytes outcome => if target = handle then outcome.accepted bytes else []
  | _ => []

/-- `WriteOutcome.StopsShort` of a write. -/
def StopsShort : Event F → Prop
  | .wrote _ bytes outcome => outcome.StopsShort bytes
  | _ => True

instance : (event : Event F) → Decidable event.StopsShort
  | .wrote _ bytes outcome => inferInstanceAs (Decidable (outcome.StopsShort bytes))
  | .slept _ | .noted _ | .attempted _ | .paused _ | .read _ _ | .released _ | .opened _ _
  | .pulled _ _ | .rewound _ | .detected _ _ => .isTrue trivial

theorem put_quiet {handle : Nat} {event : Event F} (quiet : event.isQuiet = true) :
    event.put handle = [] := by
  cases event <;> first | rfl | exact absurd quiet nofun

end Event

/-- The bytes that were put on a stream, in order. -/
def written (handle : Nat) (trace : List (Event F)) : Bytes := trace.flatMap (Event.put handle)

theorem written_deeds (handle : Nat) (trace : List (Event F)) :
    written handle trace = written handle (deeds trace) := by
  induction trace with
  | nil => rfl
  | cons event rest ih =>
    have step : written handle (event :: rest) = event.put handle ++ written handle rest :=
      List.flatMap_cons
    rw [step, ih, deeds, deeds, List.filter_cons]
    cases quiet : event.isQuiet with
    | true => rw [Event.put_quiet quiet]; rfl
    | false => rfl

/-- Payloads with a terminator behind each. -/
def framed (payloads : List Bytes) : Bytes := payloads.flatMap (· ++ [lineTerminator])

theorem framed_append (a b : List Bytes) : framed (a ++ b) = framed a ++ framed b :=
  List.flatMap_append

/-- Splitting whole lines and the start of another gives the payloads and that start back. -/
theorem split_framed {payloads : List Bytes} {torn : Bytes}
    (free : ∀ payload ∈ payloads, lineTerminator ∉ payload) (unended : lineTerminator ∉ torn) :
    Framing.ended (framed payloads ++ torn) = payloads ∧
      Framing.tail (framed payloads ++ torn) = torn := by
  rw [Framing.ended_append unended, Framing.tail_append unended]
  suffices whole :
      Framing.ended (framed payloads) = payloads ∧ Framing.tail (framed payloads) = [] by
    rw [whole.1, whole.2]
    exact ⟨rfl, rfl⟩
  induction payloads using List.reverseRecOn with
  | nil => exact ⟨rfl, rfl⟩
  | append_singleton before last ih =>
    rw [List.forall_mem_append] at free
    obtain ⟨front, rest⟩ := free
    obtain ⟨ended, tail⟩ := ih front
    have lastFree := rest last List.mem_cons_self
    have line : framed (before ++ [last]) = framed before ++ last ++ [lineTerminator] := by
      rw [framed_append, framed, framed, List.flatMap_singleton, List.append_assoc]
    rw [line, Framing.ended_terminated, Framing.tail_terminated, Framing.ended_append lastFree,
      Framing.tail_append lastFree, ended, tail]
    exact ⟨rfl, rfl⟩

/-! ## One call -/

variable {H : Host σ}

/-- What a call on an open stream comes to: it is refused and nothing changes, it is one write
that is complete, or it is one write that is not and the channel is gone. -/
inductive Performed (handle : Nat) (call : Outgoing) (k : Client) (t : Traced σ F) :
    Except LinkError Unit × Client × Traced σ F → Prop
  | refused {e : LinkError} (refuses : call.Refuses e) :
      Performed handle call k t (.error e, k, t)
  | sent {payload : Bytes} {k' : Client} {t' : Traced σ F} (encoded : call.payload = .ok payload)
      (free : lineTerminator ∉ payload) (kept : k'.channel = k.channel)
      (happened : Happened [.wrote handle (payload ++ [lineTerminator]) .complete] t t') :
      Performed handle call k t (.ok (), k', t')
  | broken {payload : Bytes} {outcome : WriteOutcome} {e : LinkError} {k' : Client}
      {t' : Traced σ F} (encoded : call.payload = .ok payload) (free : lineTerminator ∉ payload)
      (incomplete : outcome ≠ .complete) (transport : e.kind = .send ∨ e.kind = .timeout)
      (gone : k'.channel.stream = none)
      (happened : Happened [.wrote handle (payload ++ [lineTerminator]) outcome] t t') :
      Performed handle call k t (.error e, k', t')

/-- A payload that is written as it is. Only a plain line can have a terminator inside. -/
theorem performed_sendLine {handle : Nat} {k : Client} (stream : k.channel.stream = some handle)
    {call : Outgoing} {payload : Bytes} (encoded : call.payload = .ok payload)
    (plain : lineTerminator ∈ payload → call = .line payload) (t : Traced σ F) :
    Performed handle call k t (k.sendLine (H.traced F) payload t) := by
  have transmission := transmission_sendLine (H := H) stream payload t
  unfold Client.sendLine
  generalize k.channel.sendLine (H.traced F) payload t = done at transmission ⊢
  cases transmission with
  | refused inside => exact .refused (.inr ⟨rfl, payload, plain inside, inside⟩)
  | complete free happened => exact .sent encoded free rfl happened
  | broken free incomplete transport happened =>
    exact .broken encoded free incomplete transport rfl happened

theorem performed_perform {handle : Nat} {k : Client} (stream : k.channel.stream = some handle)
    (call : Outgoing) (t : Traced σ F) :
    Performed handle call k t (k.perform (H.traced F) call t) := by
  cases call with
  | detections timestampMs found =>
    have emission := emission_sendDetections (H := H) stream timestampMs found t
    show Performed handle _ k t (k.sendDetections (H.traced F) timestampMs found t)
    generalize k.sendDetections (H.traced F) timestampMs found t = done at emission ⊢
    cases emission with
    | unencodable encoded => exact .refused (.inl encoded)
    | sent encoded happened =>
      exact .sent encoded (terminator_not_mem_of_encodeDetections encoded) rfl happened
    | failed encoded incomplete transport happened =>
      exact .broken encoded (terminator_not_mem_of_encodeDetections encoded) incomplete transport
        rfl happened
  | json value =>
    have free := terminator_not_mem_ofString (controlFree_text value)
    exact performed_sendLine stream rfl (fun inside => absurd inside free) t
  | line payload => exact performed_sendLine stream rfl (fun _ => rfl) t

/-- Without a stream a call fails, writes nothing and changes nothing. -/
theorem perform_of_closed {k : Client} (closed : k.channel.stream = none) (call : Outgoing)
    (w : σ) :
    ∃ e, k.perform H call w = (.error e, k, w) ∧
      (e = Channel.notConnected ∨ call.payload = .error e) := by
  have unsent (payload : Bytes) :
      k.sendLine H payload w = (.error Channel.notConnected, k, w) := by
    unfold Client.sendLine Channel.sendLine
    rw [closed]
  cases call with
  | json value => exact ⟨_, unsent _, .inl rfl⟩
  | line payload => exact ⟨_, unsent _, .inl rfl⟩
  | detections timestampMs found =>
    cases encoded : encodeDetections timestampMs found with
    | error e =>
      exact ⟨e, by simp only [Client.perform, Client.sendDetections, encoded], .inr encoded⟩
    | ok line =>
      exact ⟨_, by simp only [Client.perform, Client.sendDetections, encoded, unsent], .inl rfl⟩

/-! ## All calls -/

/-- How a sequence of calls goes on an open stream, and the writes it leaves. -/
inductive Carried (handle : Nat) : List Sending → List (Event F) → Prop
  | nil : Carried handle [] []
  | refused {call : Outgoing} {e : LinkError} {log : List Sending} {wrote : List (Event F)}
      (refuses : call.Refuses e) (rest : Carried handle log wrote) :
      Carried handle (⟨call, .error e⟩ :: log) wrote
  | sent {call : Outgoing} {payload : Bytes} {log : List Sending} {wrote : List (Event F)}
      (encoded : call.payload = .ok payload) (free : lineTerminator ∉ payload)
      (rest : Carried handle log wrote) :
      Carried handle (⟨call, .ok ()⟩ :: log)
        (.wrote handle (payload ++ [lineTerminator]) .complete :: wrote)
  | broken {call : Outgoing} {payload : Bytes} {outcome : WriteOutcome} {e : LinkError}
      {log : List Sending} (encoded : call.payload = .ok payload)
      (free : lineTerminator ∉ payload) (incomplete : outcome ≠ .complete)
      (transport : e.kind = .send ∨ e.kind = .timeout) (rest : ∀ s ∈ log, s.Unsent) :
      Carried handle (⟨call, .error e⟩ :: log) [.wrote handle (payload ++ [lineTerminator]) outcome]

theorem sendAll_of_closed {k : Client} (closed : k.channel.stream = none)
    (calls : List Outgoing) (w : σ) :
    (∀ s ∈ (k.sendAll H calls w).1, s.Unsent) ∧ (k.sendAll H calls w).2 = (k, w) := by
  induction calls with
  | nil => exact ⟨fun _ => nofun, rfl⟩
  | cons call rest ih =>
    obtain ⟨e, failed, reason⟩ := perform_of_closed (H := H) closed call w
    simp only [Client.sendAll, failed]
    exact ⟨List.forall_mem_cons.mpr ⟨⟨e, rfl, reason⟩, ih.1⟩, ih.2⟩

theorem carried_sendAll {handle : Nat} {k : Client} (stream : k.channel.stream = some handle)
    (calls : List Outgoing) (t : Traced σ F) :
    ∃ wrote, Carried handle (k.sendAll (H.traced F) calls t).1 wrote ∧
      Happened wrote t (k.sendAll (H.traced F) calls t).2.2 := by
  induction calls generalizing k t with
  | nil => exact ⟨[], .nil, .refl t⟩
  | cons call rest ih =>
    have performed := performed_perform (H := H) stream call t
    simp only [Client.sendAll]
    generalize k.perform (H.traced F) call t = done at performed ⊢
    cases performed with
    | refused refuses =>
      obtain ⟨wrote, carried, happened⟩ := ih stream t
      exact ⟨wrote, .refused refuses carried, happened⟩
    | sent encoded free kept now =>
      obtain ⟨wrote, carried, happened⟩ := ih (kept ▸ stream) _
      exact ⟨_ :: wrote, .sent encoded free carried, now.trans happened⟩
    | broken encoded free incomplete transport gone now =>
      obtain ⟨unsent, same⟩ := sendAll_of_closed (H := H.traced F) gone rest _
      rw [same]
      exact ⟨_, .broken encoded free incomplete transport unsent, now⟩

/-! ## What the peer gets -/

/-- One call failed in transport, and `torn` is the part of its line that went out. Those before it
succeeded or were refused, those after it wrote nothing. -/
def TornBy (torn : Bytes) (log : List Sending) : Prop :=
  ∃ before s payload after, log = before ++ s :: after ∧ s.FailedInTransport ∧
    s.call.payload = .ok payload ∧ torn <+: payload ++ [lineTerminator] ∧
    torn ≠ payload ++ [lineTerminator] ∧ (∀ earlier ∈ before, earlier.Settled) ∧
    ∀ later ∈ after, later.Unsent

/-- What a sequence of calls put on the stream, as the peer sees it: the payloads of the calls that
succeeded, one line each, and what a broken call left. -/
structure OnWire (log : List Sending) (stream : Bytes) (sent : List Bytes) (torn : Bytes) :
    Prop where
  succeeded : (log.filter Sending.succeeded).map (·.call.payload) = sent.map .ok
  stream_eq : stream = framed sent ++ torn
  free : ∀ payload ∈ sent, lineTerminator ∉ payload
  unended : lineTerminator ∉ torn
  whole_or_torn : torn = [] ∧ (∀ s ∈ log, s.Settled) ∨ TornBy torn log

/-- A call in front that succeeded or was refused. -/
theorem OnWire.whole_or_torn_cons {log : List Sending} {stream torn : Bytes} {sent : List Bytes}
    (h : OnWire log stream sent torn) {s : Sending} (settled : s.Settled) :
    torn = [] ∧ (∀ x ∈ s :: log, x.Settled) ∨ TornBy torn (s :: log) := by
  rcases h.whole_or_torn with ⟨nothing, whole⟩ | ⟨before, broken, payload, after, shape, failed,
    encoded, start, proper, earlier, later⟩
  · exact .inl ⟨nothing, List.forall_mem_cons.mpr ⟨settled, whole⟩⟩
  · exact .inr ⟨s :: before, broken, payload, after, congrArg (s :: ·) shape, failed, encoded,
      start, proper, List.forall_mem_cons.mpr ⟨settled, earlier⟩, later⟩

namespace Carried

variable {handle : Nat} {log : List Sending} {wrote : List (Event F)}

/-- The writes stop at the one that is not complete. -/
theorem silent (h : Carried handle log wrote) {before after : List (Event F)} {target : Nat}
    {bytes : Bytes} {outcome : WriteOutcome}
    (shape : wrote = before ++ .wrote target bytes outcome :: after)
    (incomplete : outcome ≠ .complete) : after = [] := by
  induction h generalizing before with
  | nil => simp at shape
  | refused refuses rest ih => exact ih shape
  | sent encoded free rest ih =>
    cases before with
    | nil =>
      obtain ⟨head, _⟩ := List.cons.inj shape
      exact absurd (Event.wrote.inj head).2.2.symm incomplete
    | cons event before => exact ih (List.cons.inj shape).2
  | broken encoded free incomplete transport rest =>
    cases before with
    | nil => exact (List.cons.inj shape).2.symm
    | cons event before => exact absurd (List.cons.inj shape).2 (by simp)

theorem onWire (h : Carried handle log wrote) (short : ∀ event ∈ wrote, event.StopsShort) :
    ∃ sent torn, OnWire log (written handle wrote) sent torn := by
  induction h with
  | nil => exact ⟨[], [], rfl, rfl, nofun, nofun, .inl ⟨rfl, nofun⟩⟩
  | refused refuses rest ih =>
    obtain ⟨sent, torn, wire⟩ := ih short
    exact ⟨sent, torn, wire.succeeded, wire.stream_eq, wire.free, wire.unended,
      wire.whole_or_torn_cons (.inr ⟨_, rfl, refuses⟩)⟩
  | @sent call payload log wrote encoded free rest ih =>
    obtain ⟨sent, torn, wire⟩ := ih fun event mem => short event (List.mem_cons_of_mem _ mem)
    refine ⟨payload :: sent, torn, ?_, ?_, List.forall_mem_cons.mpr ⟨free, wire.free⟩,
      wire.unended, wire.whole_or_torn_cons (.inl rfl)⟩
    · have first : (⟨call, .ok ()⟩ : Sending).succeeded = true := rfl
      rw [List.filter_cons_of_pos first, List.map_cons, encoded, wire.succeeded]
      rfl
    · have line : written handle (.wrote handle (payload ++ [lineTerminator]) .complete :: wrote) =
          payload ++ [lineTerminator] ++ written handle wrote := by
        simp [written, Event.put, WriteOutcome.accepted]
      rw [line, wire.stream_eq, ← List.append_assoc]
      rfl
  | @broken call payload outcome e log encoded free incomplete transport rest =>
    obtain ⟨start, proper⟩ :=
      WriteOutcome.accepted_isProperPrefix incomplete (short _ List.mem_cons_self)
    refine ⟨[], outcome.accepted (payload ++ [lineTerminator]), ?_, ?_, nofun, ?_, .inr ?_⟩
    · have none : (⟨call, .error e⟩ :: log).filter Sending.succeeded = [] := by
        refine List.filter_eq_nil_iff.mpr (List.forall_mem_cons.mpr ⟨nofun, fun s mem => ?_⟩)
        obtain ⟨_, failed, _⟩ := rest s mem
        simp [Sending.succeeded, failed, Except.isOk, Except.toBool]
      rw [none]
      rfl
    · simp [written, Event.put, framed]
    · -- what is left of the line ends before its terminator
      rcases List.prefix_concat_iff.mp start with whole | inside
      · exact absurd whole proper
      · exact fun mem => free (inside.subset mem)
    · exact ⟨[], _, payload, log, rfl, ⟨e, rfl, transport⟩, encoded, start, proper, nofun, rest⟩

end Carried

/-! ### Refusals -/

theorem BuildFault.message_ne_terminatorInside (fault : BuildFault) :
    .words fault.message ≠ Channel.terminatorInside.message := by
  intro same
  have texts := LinkError.Message.words.inj same
  have heads := congrArg (fun text : String => text.toList.head?) texts
  cases fault <;> simp [BuildFault.message, toString] at heads

theorem Outgoing.payload_ne_terminatorInside (call : Outgoing) :
    call.payload ≠ .error Channel.terminatorInside := by
  cases call with
  | json value => nofun
  | line payload => nofun
  | detections timestampMs found =>
    intro same
    unfold Outgoing.payload encodeDetections at same
    dsimp only at same
    split at same
    · exact absurd same nofun
    · next fault _ =>
      exact fault.message_ne_terminatorInside (congrArg LinkError.message (Except.error.inj same))

/-- Only a plain line is ever refused for a terminator inside. -/
theorem Carried.terminatorInside {handle : Nat} {log : List Sending} {wrote : List (Event F)}
    (h : Carried handle log wrote) {s : Sending} (mem : s ∈ log)
    (inside : s.result = .error Channel.terminatorInside) :
    ∃ payload, s.call = .line payload ∧ lineTerminator ∈ payload := by
  induction h with
  | nil => exact absurd mem List.not_mem_nil
  | refused refuses rest ih =>
    rcases List.mem_cons.mp mem with rfl | later
    · obtain rfl := Except.error.inj inside
      rcases refuses with none | ⟨_, plain⟩
      · exact absurd none (Outgoing.payload_ne_terminatorInside _)
      · exact plain
    · exact ih later
  | sent encoded free rest ih =>
    rcases List.mem_cons.mp mem with rfl | later
    · exact absurd inside nofun
    · exact ih later
  | broken encoded free incomplete transport rest =>
    rcases List.mem_cons.mp mem with rfl | later
    · obtain rfl := Except.error.inj inside
      rcases transport with kind | kind <;> exact absurd kind nofun
    · obtain ⟨e, failed, reason⟩ := rest s later
      obtain rfl := Except.error.inj (failed.symm.trans inside)
      rcases reason with notConnected | none
      · exact absurd (congrArg LinkError.kind notConnected) nofun
      · exact absurd none (Outgoing.payload_ne_terminatorInside _)

/-! ### Untraced runs -/

theorem perform_traced (call : Outgoing) (k : Client) (t : Traced σ F) :
    untraced (k.perform (H.traced F) call t) = k.perform H call t.world := by
  cases call with
  | detections timestampMs found => exact sendDetections_traced timestampMs found k t
  | json value => exact sendLine_traced _ k t
  | line payload => exact sendLine_traced payload k t

theorem sendAll_traced (calls : List Outgoing) (k : Client) (t : Traced σ F) :
    untraced (k.sendAll (H.traced F) calls t) = k.sendAll H calls t.world := by
  induction calls generalizing k t with
  | nil => rfl
  | cons call rest ih =>
    simp only [Client.sendAll]
    rw [← perform_traced]
    dsimp only [untraced]
    rw [← ih]
    rfl

theorem calls_sendAll (calls : List Outgoing) (k : Client) (w : σ) :
    (k.sendAll H calls w).1.map Sending.call = calls := by
  induction calls generalizing k w with
  | nil => rfl
  | cons call rest ih => rw [Client.sendAll, List.map_cons, ih]

/-! ### The whole stream -/

/-- On one open stream, after any calls with any outcomes, as long as a write that fails leaves
bytes behind: the stream is the lines of the calls that succeeded, in call order, then what the
one broken call put out, if there is one, and no write follows that. The peer, splitting at
terminators, gets the payloads of the successful calls back, and only a plain line is ever
refused for a terminator inside. -/
theorem outbound_stream_intact {handle : Nat} {k : Client}
    (stream : k.channel.stream = some handle) (calls : List Outgoing) (w : σ)
    (short : ∀ event ∈ (k.sendAll (H.traced F) calls (.start w)).2.2.trace, event.StopsShort) :
    let done := k.sendAll (H.traced F) calls (.start w)
    let bytes := written handle done.2.2.trace
    done.1.map Sending.call = calls ∧
    untraced done = k.sendAll H calls w ∧
    SilentAfterFailure done.2.2.trace ∧
    (∃ sent torn, OnWire done.1 bytes sent torn ∧
      Framing.ended bytes = sent ∧ Framing.tail bytes = torn) ∧
    ∀ s ∈ done.1, s.result = .error Channel.terminatorInside →
      ∃ payload, s.call = .line payload ∧ lineTerminator ∈ payload := by
  intro done bytes
  obtain ⟨wrote, carried, happened⟩ := carried_sendAll (H := H) stream calls (.start (F := F) w)
  have deeds_eq : deeds done.2.2.trace = wrote := happened.deeds_eq
  have stops : ∀ event ∈ wrote, event.StopsShort := fun event mem =>
    short event (List.mem_filter.mp (deeds_eq ▸ mem)).1
  obtain ⟨sent, torn, wire⟩ := carried.onWire stops
  have same : written handle wrote = bytes := by
    rw [← deeds_eq]
    exact (written_deeds handle _).symm
  rw [same] at wire
  obtain ⟨ended, tail⟩ := split_framed wire.free wire.unended
  rw [← wire.stream_eq] at ended tail
  refine ⟨calls_sendAll calls k _, sendAll_traced calls k _, ?_, ⟨sent, torn, wire, ended, tail⟩,
    fun s mem inside => carried.terminatorInside mem inside⟩
  intro before target bytes outcome after shape incomplete
  exact carried.silent (deeds_eq ▸ shape) incomplete

/-- One line goes out, one is refused, the text of a JSON string is torn after two bytes, and the
last call finds no stream. -/
theorem outbound_stream_of_tornCalls :
    let calls : List Outgoing :=
      [.line [0x61], .line [lineTerminator], .json (.string "\n"), .line [0x62]]
    let done := Session.connectedClient.sendAll (Script.host.traced Unit) calls
      (.start ⟨[], [.complete, .failed 2 "reset"]⟩)
    (Session.connectedClient.channel.stream = some 0 ∧ ∀ event ∈ done.2.2.trace, event.StopsShort) ∧
    written 0 done.2.2.trace = [0x61, lineTerminator, 0x22, 0x5C] ∧
    SilentAfterFailure done.2.2.trace ∧
    ∃ sent torn, OnWire done.1 (written 0 done.2.2.trace) sent torn := by
  intro calls done
  have short : ∀ event ∈ done.2.2.trace, event.StopsShort := by decide
  obtain ⟨_, _, silent, ⟨sent, torn, wire, _⟩, _⟩ :=
    outbound_stream_intact (H := Script.host) (F := Unit) (k := Session.connectedClient) rfl calls
      _ short
  exact ⟨⟨rfl, short⟩, by decide, silent, sent, torn, wire⟩

end DetectionLink
