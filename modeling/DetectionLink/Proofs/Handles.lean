import DetectionLink.Proofs.ReceiveMemory
import DetectionLink.Proofs.Separation
import DetectionLink.Proofs.ServiceTotals

/-!
# Every stream is released once

A stream that was opened can be lost in many ways: the supervisor ends it, a read or a write fails
or takes too long, the client is closed, a connection is served to its end, or the client goes out
of use; and often several of these come one after another. Whichever comes first releases the
stream and says so in the log, and the others find nothing to release.

* `handling`: what a trace tells of streams, records included;
* `Life`: a stream from its opening to its release;
* `Held`: whole lives, and the beginning of one while a stream is held;
* `Tended`: the invariant that ties a channel to its trace; `tended_connect`, `tended_receiveUntil`,
  `tended_sendLine`, `tended_close`: the operations; `kept_tended`: sessions and serving;
* `Client.Activity`, `pursueAll`: a client in any use; `dropped`: its end;
* `streams_released_once`: openings and releases, and their records, from the beginning to the end
  of a client.
-/

namespace DetectionLink

variable {σ S F : Type} {H : Host σ}

/-! ## Streams in a trace -/

namespace Event

/-- A stream is opened or released, or a record tells so. -/
def concernsStream : Event F → Bool
  | .attempted (.opened _) | .released _ => true
  | .noted record => record.reportsStream
  | _ => false

theorem IsWaiting.concernsStream_eq_false {event : Event F} (waiting : event.IsWaiting) :
    event.concernsStream = false := by
  cases waiting with
  | @failed outcome none =>
    cases outcome with
    | opened handle => exact (none handle rfl).elim
    | _ => rfl
  | noted quiet => exact quiet
  | _ => rfl

def record? : Event F → Option Record
  | .noted record => some record
  | _ => none

end Event

/-- What happened to streams, and what the log tells of it. -/
def handling (trace : List (Event F)) : List (Event F) := trace.filter Event.concernsStream

/-- The log. -/
def recorded (trace : List (Event F)) : List Record := trace.filterMap Event.record?

theorem handling_append (a b : List (Event F)) : handling (a ++ b) = handling a ++ handling b :=
  List.filter_append a b

theorem handling_quiet {event : Event F} (quiet : event.concernsStream = false) (t : Traced σ F)
    (w : σ) : handling (t.log event w).trace = handling t.trace := by
  rw [Traced.log, handling_append, handling, handling, List.filter_cons_of_neg (by simp [quiet]),
    List.filter_nil, List.append_nil]

theorem handling_concerning {event : Event F} (concerns : event.concernsStream = true)
    (t : Traced σ F) (w : σ) : handling (t.log event w).trace = handling t.trace ++ [event] := by
  rw [Traced.log, handling_append, handling, handling, List.filter_cons_of_pos concerns,
    List.filter_nil]

theorem handling_note {record : Record} (quiet : record.reportsStream = false) (t : Traced σ F) :
    handling ((H.traced F).note record t).trace = handling t.trace := by
  have concernsNone : (.noted record : Event F).concernsStream = false := quiet
  exact handling_quiet concernsNone t _

theorem handling_noteAll {records : List Record}
    (quiet : ∀ record ∈ records, record.reportsStream = false) (t : Traced σ F) :
    handling ((H.traced F).noteAll records t).trace = handling t.trace := by
  have none : handling (records.map (Event.noted : Record → Event F)) = [] :=
    List.filter_eq_nil_iff.mpr fun event mem => by
      obtain ⟨record, member, rfl⟩ := List.mem_map.mp mem
      simp [Event.concernsStream, quiet record member]
  rw [noteAll_traced, handling_append, none, List.append_nil]

/-- The records about streams are those that happened to streams. -/
theorem filter_recorded (trace : List (Event F)) :
    (recorded trace).filter Record.reportsStream = recorded (handling trace) := by
  unfold recorded handling
  rw [List.filter_filterMap, List.filterMap_filter]
  refine List.filterMap_congr fun event _ => ?_
  cases event with
  | noted record =>
    cases told : record.reportsStream <;> simp [Event.record?, Event.concernsStream, told]
  | attempted outcome => cases outcome <;> rfl
  | _ => rfl

/-! ## Lives -/

/-- A stream that was opened at some attempt and released again. -/
structure Life where
  handle : Nat
  attempts : Nat

namespace Life

variable (path : String) (life : Life)

/-- The stream is opened, and a record says so. -/
def opening : List (Event F) :=
  [.attempted (.opened life.handle), .noted (openedRecord path life.attempts)]

/-- The stream is released, and a record says so. -/
def release : List (Event F) := [.released life.handle, .noted (closedRecord path)]

def events : List (Event F) := life.opening path ++ life.release path

/-- What the log has of a life. -/
def records : List Record := [openedRecord path life.attempts, closedRecord path]

end Life

theorem recorded_lives (path : String) (lives : List Life) :
    recorded (lives.flatMap (Life.events path) : List (Event F)) =
      lives.flatMap (Life.records path) :=
  List.filterMap_flatMap

/-- With no stream in hand there are whole lives behind, and with a stream in hand also the
beginning of one. -/
inductive Held (path : String) : List (Event F) → Option Nat → Prop
  | nothing (lives : List Life) : Held path (lives.flatMap (Life.events path)) none
  | stream (lives : List Life) (life : Life) :
      Held path (lives.flatMap (Life.events path) ++ life.opening path) (some life.handle)

namespace Held

variable {path : String} {events : List (Event F)}

theorem opened (h : Held path events none) (life : Life) :
    Held path (events ++ life.opening path) (some life.handle) := by
  cases h with
  | nothing lives => exact .stream lives life

theorem released {handle : Nat} (h : Held path events (some handle)) :
    Held path (events ++ [.released handle, .noted (closedRecord path)]) none := by
  cases h with
  | stream lives life =>
    have whole : lives.flatMap (Life.events path) ++ life.opening path ++ life.release path =
        ((lives ++ [life]).flatMap (Life.events path) : List (Event F)) := by
      rw [List.flatMap_append, List.flatMap_singleton, List.append_assoc]
      rfl
    exact whole ▸ .nothing (lives ++ [life])

/-- With no stream in hand, all lives are whole. -/
theorem lives (h : Held path events none) :
    ∃ lives : List Life, events = lives.flatMap (Life.events path) := by
  cases h with
  | nothing lives => exact ⟨lives, rfl⟩

end Held

/-! ## Channels -/

/-- A channel holds the stream that its trace leaves in hand. -/
structure Tended (config : ChannelConfig) (c : Channel) (t : Traced σ F) : Prop where
  sound : c.Sound
  config_eq : c.config = config
  held : Held c.pathText (handling t.trace) c.stream

namespace Tended

variable {config : ChannelConfig} {c : Channel} {t t' : Traced σ F}

theorem pathText_eq (h : Tended config c t) : c.pathText = Utf8.display config.socketPath := by
  rw [Channel.pathText, h.config_eq]

theorem ofConfig (config : ChannelConfig) (w : σ) :
    Tended config (.ofConfig config) (.start w : Traced σ F) :=
  ⟨Channel.sound_ofConfig config, rfl, .nothing []⟩

/-- Nothing happened to streams. -/
theorem quiet (h : Tended config c t) (same : handling t'.trace = handling t.trace) :
    Tended config c t' :=
  ⟨h.sound, h.config_eq, same ▸ h.held⟩

theorem log (h : Tended config c t) {event : Event F} (concernsNone : event.concernsStream = false)
    (w : σ) : Tended config c (t.log event w) :=
  h.quiet (handling_quiet concernsNone t w)

theorem note (h : Tended config c t) {record : Record} (quiet : record.reportsStream = false) :
    Tended config c ((H.traced F).note record t) :=
  h.quiet (handling_note quiet t)

/-- The stream is the same, with other lines in the buffer. -/
theorem lines (h : Tended config c t) {lines : LineBuffer} (isOpen : c.stream.isSome)
    (limit : lines.limit = c.lines.limit) : Tended config { c with lines } t :=
  ⟨Channel.sound_lines h.sound isOpen limit, h.config_eq, h.held⟩

end Tended

variable {config : ChannelConfig} {c : Channel} {t : Traced σ F}

/-! ### Closing -/

theorem handling_release (path : String) (handle : Nat) (t : Traced σ F) :
    handling ((H.traced F).note (closedRecord path) ((H.traced F).release handle t)).trace =
      handling t.trace ++ [.released handle, .noted (closedRecord path)] := by
  have told : (.noted (closedRecord path) : Event F).concernsStream = true :=
    reportsStream_closedRecord path
  have released : handling ((H.traced F).release handle t).trace =
      handling t.trace ++ [.released handle] := handling_concerning rfl t _
  refine (handling_concerning told _ _).trans ?_
  rw [released, List.append_assoc]
  rfl

theorem tended_close (h : Tended config c t) :
    Tended config (c.close (H.traced F) t).1 (c.close (H.traced F) t).2 := by
  have held := h.held
  rw [Channel.close_eq]
  refine ⟨Channel.sound_closed h.sound, h.config_eq, ?_⟩
  unfold Channel.close
  cases stream : c.stream with
  | none =>
    rw [stream] at held
    exact held
  | some handle =>
    rw [stream] at held
    have gone := held.released
    rw [← handling_release (H := H)] at gone
    exact gone

/-! ### Connecting -/

theorem handling_waited {t' : Traced σ F} (waited : Added Event.IsWaiting t t') :
    handling t'.trace = handling t.trace := by
  obtain ⟨added, grown, waiting⟩ := waited
  have nothing : handling added = [] := List.filter_eq_nil_iff.mpr fun event mem => by
    rw [(waiting event mem).concernsStream_eq_false]
    exact Bool.false_ne_true
  rw [grown, handling_append, nothing, List.append_nil]

theorem handling_opened {before : Traced σ F} (waited : Added Event.IsWaiting t before)
    (path : String) (life : Life) (w w' : σ) :
    handling ((before.log (.attempted (.opened life.handle)) w).log
        (.noted (openedRecord path life.attempts)) w').trace =
      handling t.trace ++ life.opening path := by
  have told : (.noted (openedRecord path life.attempts) : Event F).concernsStream = true :=
    reportsStream_openedRecord path life.attempts
  have opened : (.attempted (.opened life.handle) : Event F).concernsStream = true := rfl
  rw [handling_concerning told, handling_concerning opened, handling_waited waited,
    List.append_assoc]
  rfl

theorem tended_connect (h : Tended config c t) :
    Tended config (c.connect (H.traced F) t).2.1 (c.connect (H.traced F) t).2.2 := by
  have sound := Channel.sound_connect (H := H.traced F) h.sound t
  have config_eq := (Channel.kept_config config).connect (H := H.traced F) (w := t) h.config_eq
  refine ⟨sound, config_eq, ?_⟩
  cases connected : c.isConnected with
  | true =>
    rw [Channel.connect, if_pos connected]
    exact h.held
  | false =>
    -- a channel that is not connected holds no stream that could be overwritten
    have noStream := h.sound.stream_of_not_isConnected connected
    have held := h.held
    have attempted := attempted_connect (H := H) connected t
    rw [noStream] at held
    generalize c.connect (H.traced F) t = done at attempted ⊢
    cases attempted with
    | opened waited handle attempts w w' =>
      have gained := held.opened ⟨handle, attempts⟩
      rw [← handling_opened waited c.pathText ⟨handle, attempts⟩ w w'] at gained
      exact gained
    | gaveUp waited =>
      show Held c.pathText _ c.stream
      rw [handling_waited waited, noStream]
      exact held

/-- A connect that fails opened nothing and released nothing. -/
theorem handling_connect_failed {e : LinkError}
    (failed : (c.connect (H.traced F) t).1 = .error e) :
    handling (c.connect (H.traced F) t).2.2.trace = handling t.trace := by
  cases connected : c.isConnected with
  | true =>
    rw [Channel.connect, if_pos connected]
  | false =>
    have attempted := attempted_connect (H := H) connected t
    generalize c.connect (H.traced F) t = done at attempted failed ⊢
    cases attempted with
    | opened waited handle attempts w w' => cases failed
    | gaveUp waited => exact handling_waited waited

/-! ### Receiving and sending -/

theorem tended_receiveUntil {deadline : Option Instant} (h : Tended config c t) :
    Tended config (c.receiveUntil (H.traced F) deadline t).2.1
      (c.receiveUntil (H.traced F) deadline t).2.2 := by
  induction c, t using Channel.receiveUntil.induct (H.traced F) deadline with
  | case1 c t entry lines next =>
    rw [Channel.receiveUntil_entry next]
    exact h.lines (h.sound.isSome_of_next next) (LineBuffer.limit_of_next? next)
  | case2 c t next stream =>
    rw [Channel.receiveUntil_noStream next stream]
    exact h
  | case3 c t next handle stream got chunk brought spent absorbed ih =>
    rw [Channel.receiveUntil_chunk next stream brought]
    have read : Tended config c ((H.traced F).read handle deadline t).2 := h.log rfl _
    have fed : ∀ record ∈ absorbed.2, record.reportsStream = false :=
      fun _ mem => LineBuffer.reportsStream_of_absorb mem
    have noted := read.quiet (handling_noteAll (H := H) fed _)
    exact ih (noted.lines (stream ▸ rfl) rfl)
  | case4 c t next handle stream got interrupted spent ih =>
    rw [Channel.receiveUntil_interrupted next stream interrupted]
    exact ih (h.log rfl _)
  | case5 c t next handle stream got expired =>
    rw [Channel.receiveUntil_expired next stream expired]
    exact h.log rfl _
  | case6 c t next handle stream got ended =>
    rw [Channel.receiveUntil_ended next stream ended]
    have read : Tended config c ((H.traced F).read handle deadline t).2 := h.log rfl _
    have told : (Record.info "Supervisor closed the connection").reportsStream = false := by
      simp [Record.reportsStream_info, List.isPrefixOf]
    exact tended_close (read.note told)
  | case7 c t next handle stream got reason failed =>
    rw [Channel.receiveUntil_failed next stream failed]
    have read : Tended config c ((H.traced F).read handle deadline t).2 := h.log rfl _
    exact tended_close (read.note rfl)

theorem tended_waitUntil {deadline : Option Instant} {b : Inbox} (h : Tended config c t) :
    Tended config (b.waitUntil (H.traced F) deadline c t).2.2.1
      (b.waitUntil (H.traced F) deadline c t).2.2.2 := by
  induction b, c, t using Inbox.waitUntil.induct (H.traced F) deadline with
  | case1 b c t got line brought command read =>
    rw [Inbox.waitUntil_command brought read]
    exact (tended_receiveUntil h).note rfl
  | case2 b c t got line brought e read spent ih =>
    rw [Inbox.waitUntil_skipped brought read]
    exact ih ((tended_receiveUntil h).note rfl)
  | case3 b c t got e brought spent ih =>
    rw [Inbox.waitUntil_rejected brought]
    exact ih ((tended_receiveUntil h).note rfl)
  | case4 b c t got brought =>
    rw [Inbox.waitUntil_noMessage brought]
    exact tended_receiveUntil h
  | case5 b c t got brought =>
    rw [Inbox.waitUntil_disconnected brought]
    refine (tended_receiveUntil h).note ?_
    simp [Record.reportsStream_info, List.isPrefixOf]

theorem tended_sendLine (h : Tended config c t) (payload : Bytes) :
    Tended config (c.sendLine (H.traced F) payload t).2.1
      (c.sendLine (H.traced F) payload t).2.2 := by
  unfold Channel.sendLine
  split
  · exact h
  · next handle _ =>
    split
    · exact h
    · have wrote : Tended config c ((H.traced F).write handle (payload ++ [lineTerminator])
          c.config.sendTimeout t).2 := h.log rfl _
      dsimp only
      split
      · exact wrote.note rfl
      · exact tended_close (wrote.note rfl)
      · exact tended_close (wrote.note rfl)

theorem tended_sendDetections {k : Client} (h : Tended config k.channel t) (timestampMs : UInt64)
    (found : List RawDetection) :
    let done := k.sendDetections (H.traced F) timestampMs found t
    Tended config done.2.1.channel done.2.2 := by
  intro done
  unfold done Client.sendDetections
  split
  · exact h
  · next line _ =>
    have sent := tended_sendLine (H := H) h line
    dsimp only
    split
    · exact sent.note rfl
    · exact sent

theorem tended_perform {k : Client} (h : Tended config k.channel t) (call : Outgoing) :
    let done := k.perform (H.traced F) call t
    Tended config done.2.1.channel done.2.2 := by
  cases call with
  | detections timestampMs found => exact tended_sendDetections h timestampMs found
  | json value => exact tended_sendLine h _
  | line payload => exact tended_sendLine h payload

/-- Sessions and serving keep a channel tended. -/
theorem kept_tended (config : ChannelConfig) (M : Media H S F) (D : Detector H F) :
    Session.Kept M.traced D.traced fun link : Client × Traced σ F =>
      Tended config link.1.channel link.2 where
  wait _ h := tended_waitUntil h
  send timestampMs found h := tended_sendDetections h timestampMs found
  note _ quiet h := h.note quiet
  sleep _ h := h.log rfl _
  opening _ h := h.log rfl _
  next _ h := h.log rfl _
  rewind _ h := h.log rfl _
  detect _ h := h.log rfl _

/-! ## Clients in use -/

namespace Client

/-- What a client is used for: single calls, whole sessions, and serving a supervisor until it goes
away. In between anything may happen to the world. -/
inductive Activity (H : Host σ) (F : Type) : Type 1
  | connect
  | wait (timeout : Option Duration)
  | poll
  | send (call : Outgoing)
  | session {S : Type} (M : Media H S F) (D : Detector H F) (settings : SessionSettings)
      (start : StartCommand)
  | serve {S : Type} (M : Media H S F) (D : Detector H F) (settings : SessionSettings)
  | close
  | elapsed (change : σ → σ)

/-- The same on a host that keeps a trace. -/
def Activity.traced : Activity H F → Activity (H.traced F) F
  | .connect => .connect
  | .wait timeout => .wait timeout
  | .poll => .poll
  | .send call => .send call
  | .session M D settings start => .session M.traced D.traced settings start
  | .serve M D settings => .serve M.traced D.traced settings
  | .close => .close
  | .elapsed change => .elapsed fun t => { t with world := change t.world }

variable (H) in
/-- A client and its world after one activity. -/
def pursue : Client × σ → Activity H F → Client × σ
  | (k, w), .connect => (k.connect H w).2
  | (k, w), .wait timeout => (k.wait H timeout w).2
  | (k, w), .poll => (k.poll H w).2
  | (k, w), .send call => (k.perform H call w).2
  | (k, w), .session M D settings start => (Session.run M D settings start k w).2
  | (k, w), .serve M D settings => (Service.serve M D settings k w).2
  | (k, w), .close => k.close H w
  | (k, w), .elapsed change => (k, change w)

variable (H) in
/-- A client and its world after any activities. -/
def pursueAll (used : Client × σ) (activities : List (Activity H F)) : Client × σ :=
  activities.foldl (pursue H) used

variable (H) in
/-- A client that goes out of use is closed; the world is what is left. -/
def dropped (k : Client) (w : σ) : σ := (k.close H w).2

/-- A client without the trace of its world. -/
def bare (used : Client × Traced σ F) : Client × σ := (used.1, used.2.world)

theorem pursue_traced (used : Client × Traced σ F) (activity : Activity H F) :
    bare (pursue (H.traced F) used activity.traced) = pursue H (bare used) activity := by
  obtain ⟨k, t⟩ := used
  cases activity with
  | connect =>
    exact congrArg (fun done : Except LinkError Unit × Channel × σ =>
      ({ k with channel := done.2.1 }, done.2.2)) (connect_traced (H := H) k.channel t)
  | wait timeout => exact congrArg (·.2) (wait_traced (H := H) timeout k t)
  | poll => exact congrArg (·.2) (wait_traced (H := H) _ k t)
  | send call => exact congrArg (·.2) (perform_traced (H := H) call k t)
  | session M D settings start =>
    exact congrArg (·.2) (Session.run_traced M D settings start k t)
  | serve M D settings => exact congrArg (·.2) (Service.serve_traced M D settings k t)
  | close =>
    exact congrArg (fun done : Channel × σ => ({ k with channel := done.1 }, done.2))
      (close_traced (H := H) k.channel t)
  | elapsed change => rfl

theorem pursueAll_traced (used : Client × Traced σ F) (activities : List (Activity H F)) :
    bare (pursueAll (H.traced F) used (activities.map .traced)) =
      pursueAll H (bare used) activities := by
  induction activities generalizing used with
  | nil => rfl
  | cons activity rest ih =>
    have later := ih (pursue (H.traced F) used activity.traced)
    rw [pursue_traced] at later
    exact later

theorem tended_pursue {used : Client × Traced σ F} (h : Tended config used.1.channel used.2)
    (activity : Activity H F) :
    Tended config (pursue (H.traced F) used activity.traced).1.channel
      (pursue (H.traced F) used activity.traced).2 := by
  obtain ⟨k, t⟩ := used
  cases activity with
  | connect => exact tended_connect h
  | wait timeout => exact tended_waitUntil h
  | poll => exact tended_waitUntil h
  | send call => exact tended_perform h call
  | session M D settings start => exact (kept_tended config M D).run settings start h
  | serve M D settings => exact Service.kept_serve settings (kept_tended config M D) tended_close h
  | close => exact tended_close h
  | elapsed change => exact h.quiet rfl

theorem tended_pursueAll {used : Client × Traced σ F} (h : Tended config used.1.channel used.2)
    (activities : List (Activity H F)) :
    Tended config (pursueAll (H.traced F) used (activities.map .traced)).1.channel
      (pursueAll (H.traced F) used (activities.map .traced)).2 := by
  induction activities generalizing used with
  | nil => exact h
  | cons activity rest ih => exact ih (tended_pursue h activity)

/-! ## From the beginning to the end -/

/-- When a client goes out of use, its last stream is released. -/
theorem lives_of_dropped {k : Client} (h : Tended config k.channel t) :
    ∃ lives : List Life, handling (k.dropped (H.traced F) t).trace =
      lives.flatMap (Life.events (Utf8.display config.socketPath)) := by
  have closed := tended_close (H := H) h
  have held := closed.held
  rw [closed.pathText_eq, Channel.close_fst] at held
  exact held.lives

/-- A client in any use, until it goes out of use. What happened to streams is one life after
another: a stream is opened and a record says so, then the same stream is released and a record
says so, and only then is another one opened. So the records about streams alternate. A connect
that fails does nothing to streams, and once a client is closed, neither closing it again nor its
going out of use does anything at all. -/
theorem streams_released_once (config : ChannelConfig) (pollTimeout : Duration) (w : σ)
    (activities : List (Activity H F)) :
    let path := Utf8.display config.socketPath
    let used := pursueAll (H.traced F) (.ofConfig config pollTimeout, .start w)
      (activities.map .traced)
    let ended := used.1.dropped (H.traced F) used.2
    let closed := used.1.close (H.traced F) used.2
    bare used = pursueAll H (.ofConfig config pollTimeout, w) activities ∧
    ended.world = (bare used).1.dropped H (bare used).2 ∧
    (∃ lives : List Life, handling ended.trace = lives.flatMap (Life.events path) ∧
      (recorded ended.trace).filter Record.reportsStream = lives.flatMap (Life.records path)) ∧
    (∀ e, (used.1.connect (H.traced F) used.2).1 = .error e →
      handling (used.1.connect (H.traced F) used.2).2.2.trace = handling used.2.trace) ∧
    closed.1.close (H.traced F) closed.2 = closed ∧
    closed.1.dropped (H.traced F) closed.2 = closed.2 := by
  intro path used ended closed
  have tended : Tended config used.1.channel used.2 :=
    tended_pursueAll (Tended.ofConfig config w) activities
  obtain ⟨lives, events⟩ := lives_of_dropped (H := H) tended
  have twice := Channel.close_close (H := H.traced F) used.1.channel used.2
  have again : closed.1.close (H.traced F) closed.2 = closed :=
    congrArg (fun done : Channel × Traced σ F => ({ used.1 with channel := done.1 }, done.2)) twice
  refine ⟨pursueAll_traced _ activities, ?_, ⟨lives, events, ?_⟩,
    fun e failed => handling_connect_failed failed, again, congrArg (·.2) again⟩
  · exact congrArg (·.2) (close_traced (H := H) used.1.channel used.2)
  · rw [filter_recorded, events, recorded_lives]

end Client
end DetectionLink
