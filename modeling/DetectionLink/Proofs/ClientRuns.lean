import DetectionLink.Proofs.Outbound
import DetectionLink.Proofs.StreamRecords

/-!
# Runs of a client

A client is used in any way: it connects, receives, waits, sends and is closed, in any order and
against any host, and anything may happen to the world in between. Of all this only five things
happen to its channel, so what these five keep holds in every state that a client can be in.
Sessions and serving wait, send and close, and use the world besides; what all of this keeps holds
after them. In particular they are nothing but sequences of actions.

* `Client.Action`, `act`, `actAll`: what a client can be asked to do;
* `Channel.Kept`, `Kept.actAll`: an invariant of channels along any actions;
* `Channel.Orderly`, `orderly_actAll`: state, stream and line buffer as they should be;
* `Session.Kept`, `Kept.run`, `kept_serve`: an invariant of clients and their worlds along sessions
  and serving;
* `Leads`, `leads_run`, `leads_serveFrom`: sessions and serving as sequences of actions.
-/

namespace DetectionLink

open Framing

variable {σ S F : Type} {H : Host σ}

/-! ## Actions -/

namespace Client

/-- What a client can be asked to do. In between anything may happen to the world. -/
inductive Action (σ : Type)
  | connect
  /-- A receive that passes by the inbox. -/
  | receive (deadline : Option Instant)
  | wait (timeout : Option Duration)
  | poll
  | send (call : Outgoing)
  | close
  | elapsed (world : σ)

variable (H) in
/-- A client and its world after one action. -/
def act : Client × σ → Action σ → Client × σ
  | (k, w), .connect => (k.connect H w).2
  | (k, w), .receive deadline =>
    let done := k.channel.receiveUntil H deadline w
    ({ k with channel := done.2.1 }, done.2.2)
  | (k, w), .wait timeout => (k.wait H timeout w).2
  | (k, w), .poll => (k.poll H w).2
  | (k, w), .send call => (k.perform H call w).2
  | (k, w), .close => k.close H w
  | (k, _), .elapsed world => (k, world)

variable (H) in
/-- A client and its world after a sequence of actions. -/
def actAll (used : Client × σ) (actions : List (Action σ)) : Client × σ :=
  actions.foldl (act H) used

end Client

/-! ## Invariants of channels -/

namespace Channel

/-- An invariant is kept by all that can happen to a channel: an entry is taken, a chunk is read
when no entry waits, the channel is closed, and a connect that was needed succeeds or gives up. -/
structure Kept (holds : Channel → Prop) : Prop where
  next : ∀ {c entry lines}, holds c → c.lines.next? = some (entry, lines) → holds { c with lines }
  absorb : ∀ {c} (chunk : Chunk), holds c → c.lines.next? = none → c.stream.isSome →
    holds { c with lines := (c.lines.absorb chunk.bytes).1 }
  close : ∀ {c}, holds c → holds c.closed
  opened : ∀ {c} (handle : Nat), holds c → c.isConnected = false →
    holds { c with state := .connected, stream := some handle, lines := c.lines.clear }
  gaveUp : ∀ {c}, holds c → c.isConnected = false →
    holds { c with state := .disconnected, lines := c.lines.clear }

namespace Kept

variable {holds : Channel → Prop}

theorem receiveUntil (kept : Kept holds) {deadline : Option Instant} {c : Channel} {w : σ}
    (h : holds c) : holds (c.receiveUntil H deadline w).2.1 := by
  induction c, w using receiveUntil.induct H deadline with
  | case1 c w entry lines next =>
    rw [receiveUntil_entry next]
    exact kept.next h next
  | case2 c w next stream =>
    rw [receiveUntil_noStream next stream]
    exact h
  | case3 c w next handle stream got chunk brought spent absorbed ih =>
    rw [receiveUntil_chunk next stream brought]
    exact ih (kept.absorb chunk h next (stream ▸ rfl))
  | case4 c w next handle stream got interrupted spent ih =>
    rw [receiveUntil_interrupted next stream interrupted]
    exact ih h
  | case5 c w next handle stream got expired =>
    rw [receiveUntil_expired next stream expired]
    exact h
  | case6 c w next handle stream got ended =>
    rw [receiveUntil_ended next stream ended, close_fst]
    exact kept.close h
  | case7 c w next handle stream got reason failed =>
    rw [receiveUntil_failed next stream failed, close_fst]
    exact kept.close h

/-- A wait is a run of receives. -/
theorem waitUntil (kept : Kept holds) {deadline : Option Instant} {b : Inbox} {c : Channel} {w : σ}
    (h : holds c) : holds (b.waitUntil H deadline c w).2.2.1 := by
  induction b, c, w using Inbox.waitUntil.induct H deadline with
  | case1 b c w got line brought command read =>
    rw [Inbox.waitUntil_command brought read]
    exact kept.receiveUntil h
  | case2 b c w got line brought e read spent ih =>
    rw [Inbox.waitUntil_skipped brought read]
    exact ih (kept.receiveUntil h)
  | case3 b c w got e brought spent ih =>
    rw [Inbox.waitUntil_rejected brought]
    exact ih (kept.receiveUntil h)
  | case4 b c w got brought =>
    rw [Inbox.waitUntil_noMessage brought]
    exact kept.receiveUntil h
  | case5 b c w got brought =>
    rw [Inbox.waitUntil_disconnected brought]
    exact kept.receiveUntil h

theorem connect (kept : Kept holds) {c : Channel} {w : σ} (h : holds c) :
    holds (c.connect H w).2.1 := by
  rcases connect_cases (H := H) c w with ⟨_, same⟩ | ⟨idle, ⟨handle, _, opened⟩ | ⟨_, _, failed⟩⟩
  · rw [same]
    exact h
  · rw [opened]
    exact kept.opened handle h idle
  · rw [failed]
    exact kept.gaveUp h idle

theorem sendLine (kept : Kept holds) {payload : Bytes} {c : Channel} {w : σ} (h : holds c) :
    holds (c.sendLine H payload w).2.1 := by
  rcases sendLine_cases (H := H) payload c w with
    ⟨_, same⟩ | ⟨_, _, _, same⟩ | ⟨_, _, _, ⟨_, same⟩ | gone⟩
  · rw [same]
    exact h
  · rw [same]
    exact h
  · rw [same]
    exact h
  · rw [gone]
    exact kept.close h

theorem perform (kept : Kept holds) {k : Client} {w : σ} (call : Outgoing) (h : holds k.channel) :
    holds (k.perform H call w).2.1.channel := by
  cases call with
  | json value => exact kept.sendLine h
  | line payload => exact kept.sendLine h
  | detections timestampMs found =>
    show holds (k.sendDetections H timestampMs found w).2.1.channel
    rcases Client.sendDetections_cases (H := H) timestampMs found k w with
      ⟨_, same⟩ | ⟨_, _, _, same⟩ | ⟨_, _, _, ⟨_, same⟩ | gone⟩
    · rw [same]
      exact h
    · rw [same]
      exact h
    · rw [same]
      exact h
    · rw [gone]
      exact kept.close h

/-- One action. -/
theorem act (kept : Kept holds) {used : Client × σ} (h : holds used.1.channel)
    (action : Client.Action σ) : holds (Client.act H used action).1.channel := by
  obtain ⟨k, w⟩ := used
  cases action with
  | connect => exact kept.connect h
  | receive deadline => exact kept.receiveUntil h
  | wait timeout => exact kept.waitUntil h
  | poll => exact kept.waitUntil h
  | send call => exact kept.perform call h
  | close =>
    have gone := close_fst (H := H) k.channel w
    exact (congrArg holds gone).mpr (kept.close h)
  | elapsed world => exact h

theorem actAll (kept : Kept holds) {used : Client × σ} (h : holds used.1.channel)
    (actions : List (Client.Action σ)) : holds (Client.actAll H used actions).1.channel := by
  induction actions generalizing used with
  | nil => exact h
  | cons action rest ih => exact ih (kept.act h action)

end Kept

/-- A channel in order: its state and its stream agree, and its buffer has been fed some stream, of
whose entries some were taken. -/
structure Orderly (c : Channel) : Prop where
  sound : c.Sound
  framed : ∃ stream taken, BufferFramed c.lines stream taken

theorem kept_orderly : Kept Orderly where
  next h next := by
    obtain ⟨stream, taken, framed⟩ := h.framed
    exact ⟨sound_lines h.sound (h.sound.isSome_of_next next) (LineBuffer.limit_of_next? next),
      stream, _, framed_next framed next⟩
  absorb chunk h _ isOpen := by
    obtain ⟨stream, taken, framed⟩ := h.framed
    exact ⟨sound_lines h.sound isOpen rfl, _, taken, framed_absorb framed chunk.bytes⟩
  close h := ⟨sound_closed h.sound, [], [], framed_clear _⟩
  opened _ h _ := ⟨⟨h.sound.limit_eq, rfl, nofun⟩, [], [], framed_clear _⟩
  gaveUp h idle := by
    have noStream := h.sound.stream_of_not_isConnected idle
    exact ⟨⟨h.sound.limit_eq, by simp [noStream], fun _ => rfl⟩, [], [], framed_clear _⟩

theorem orderly_ofConfig (config : ChannelConfig) : (ofConfig config).Orderly :=
  ⟨sound_ofConfig config, [], [], framed_nil _⟩

/-- The channel of a client is in order after any actions. -/
theorem orderly_actAll (config : ChannelConfig) (pollTimeout : Duration) (w : σ)
    (actions : List (Client.Action σ)) :
    (Client.actAll H (.ofConfig config pollTimeout, w) actions).1.channel.Orderly :=
  kept_orderly.actAll (orderly_ofConfig config) actions

end Channel

/-! ## Invariants of clients and their worlds -/

namespace Session

/-- The client of a session and the world. -/
def Running.link (r : Running σ S) : Client × σ := (r.client, r.world)

/-- An invariant is kept by all that a session does: it waits for commands and sends detections,
it sleeps and uses its media and its detector, and no record that it writes itself tells of a
stream. -/
structure Kept (M : Media H S F) (D : Detector H F) (holds : Client × σ → Prop) : Prop where
  wait : ∀ {k w} (timeout : Option Duration), holds (k, w) → holds (k.wait H timeout w).2
  send : ∀ {k w} (timestampMs : UInt64) (found : List RawDetection), holds (k, w) →
    holds (k.sendDetections H timestampMs found w).2
  note : ∀ {k w} (record : Record), record.reportsStream = false → holds (k, w) →
    holds (k, H.note record w)
  sleep : ∀ {k w} (length : Duration), holds (k, w) → holds (k, H.sleep length w)
  opening : ∀ {k w} (start : StartCommand), holds (k, w) → holds (k, (M.opening start w).2)
  next : ∀ {k w} (source : S), holds (k, w) → holds (k, (M.next source w).2.2)
  rewind : ∀ {k w} (source : S), holds (k, w) → holds (k, (M.rewind source w).2.2)
  detect : ∀ {k w} (frame : F), holds (k, w) → holds (k, (D.detect frame w).2)

namespace Kept

variable {M : Media H S F} {D : Detector H F} {holds : Client × σ → Prop} (plan : Plan)

theorem settle (kept : Kept M D holds) {r : Running σ S} (h : holds r.link) :
    holds (settle H r).running.link := by
  show holds (r.client, (r.pace.frameDone H r.world).2)
  unfold Pace.frameDone
  cases r.pace.delay? (H.now r.world) with
  | none => exact h
  | some delay => exact kept.sleep delay h

theorem conclude (kept : Kept M D holds) (outcome : Except LinkError Unit) {r : Running σ S}
    (h : holds r.link) : holds (conclude H outcome r).running.link := by
  unfold Session.conclude
  split
  · exact kept.settle h
  · split
    · exact kept.note _ rfl h
    · exact kept.settle (kept.note _ rfl h)

theorem analyze (kept : Kept M D holds) (frame : F) {r : Running σ S} (h : holds r.link) :
    holds (analyze M D plan frame r).running.link := by
  have sent : holds (report M D plan frame r).2.link := kept.send _ _ (kept.detect frame h)
  exact kept.conclude _ sent

theorem atEnd (kept : Kept M D holds) {r : Running σ S} (h : holds r.link) :
    holds (atEnd M plan r).running.link := by
  unfold Session.atEnd
  split
  · exact h
  · split
    · exact kept.note _ rfl h
    · dsimp only
      split
      · exact kept.note _ rfl (kept.rewind r.source h)
      · exact kept.note _ rfl (kept.rewind r.source h)

theorem pull (kept : Kept M D holds) {r : Running σ S} (h : holds r.link) :
    holds (pull M D plan r).running.link := by
  have pulled : holds (r.client, (M.next r.source r.world).2.2) := kept.next r.source h
  unfold Session.pull
  dsimp only
  split
  · exact kept.atEnd plan pulled
  · split
    · exact kept.analyze plan _ pulled
    · exact kept.settle pulled

theorem heed (kept : Kept M D holds) (event : CommandEvent) {r : Running σ S} (h : holds r.link) :
    holds (heed M D plan event r).running.link := by
  have stop : (Record.info "Stop received during processing").reportsStream = false := by
    simp [Record.reportsStream_info, List.isPrefixOf]
  unfold Session.heed
  split
  · exact kept.note _ stop h
  · exact kept.pull plan (kept.note _ rfl h)
  · exact kept.pull plan (kept.note _ rfl h)
  · exact kept.pull plan h
  · exact h

theorem iterate (kept : Kept M D holds) {r : Running σ S} (h : holds r.link) :
    holds (iterate M D plan r).running.link := by
  unfold Session.iterate
  split
  · have polled : holds (polled H r).2.link := kept.wait _ h
    exact kept.heed plan _ polled
  · exact h

theorem runFrom (kept : Kept M D holds) {r : Running σ S} (h : holds r.link) :
    holds (runFrom M D plan r).2.link := by
  induction r using runFrom.induct M D plan with
  | case1 r ending r' last =>
    have step := kept.iterate plan h
    rw [last] at step
    rw [runFrom_finished last]
    exact step
  | case2 r r' went spent ih =>
    have step := kept.iterate plan h
    rw [went] at step
    rw [runFrom_goOn went]
    exact ih step

theorem unavailable (kept : Kept M D holds) (start : StartCommand) (e : MediaError) {k : Client}
    {w : σ} (h : holds (k, w)) : holds (unavailable H start e k w).2 := by
  have sent := kept.send 0 [] (kept.note
    (unavailableRecord H.wording start e) rfl h)
  unfold Session.unavailable
  dsimp only
  split
  · exact sent
  · exact kept.note _ rfl sent

/-- A whole session. -/
theorem run (kept : Kept M D holds) (settings : SessionSettings) (start : StartCommand)
    {k : Client} {w : σ} (h : holds (k, w)) : holds (run M D settings start k w).2 := by
  have opened := kept.opening start h
  cases result : (M.opening start w).1 with
  | ok source =>
    let plan := planOf settings start (M.rate source)
    have begun : holds (started H settings plan source k (M.opening start w).2).link :=
      kept.note _ (reportsStream_startedRecord settings plan) opened
    rw [run_opened result]
    exact kept.note _ (reportsStream_endedRecord _) (kept.runFrom plan begun)
  | error e =>
    rw [Session.run, result]
    exact kept.unavailable start e opened

end Kept
end Session

namespace Service

/-- The client of a connection and the world. -/
def Serving.link (s : Serving σ) : Client × σ := (s.client, s.world)

section Steps

variable {M : Media H S F} {D : Detector H F} {settings : SessionSettings} {s : Serving σ}

theorem serveFrom_goOn (connected : s.client.isConnected = true)
    (isOpen : (waited H s).1.isOpen = true) :
    serveFrom M D settings s =
      serveFrom M D settings (act M D settings (waited H s).1 (waited H s).2) := by
  rw [serveFrom, if_pos connected, dif_pos isOpen]

theorem serveFrom_lost (connected : s.client.isConnected = true)
    (lost : ¬ (waited H s).1.isOpen = true) : serveFrom M D settings s = (waited H s).2 := by
  rw [serveFrom, if_pos connected, dif_neg lost]

theorem serveFrom_gone (gone : ¬ s.client.isConnected = true) : serveFrom M D settings s = s := by
  rw [serveFrom, if_neg gone]

end Steps

variable {M : Media H S F} {D : Detector H F} {holds : Client × σ → Prop}
  (settings : SessionSettings)

theorem kept_act (kept : Session.Kept M D holds) (event : CommandEvent) {s : Serving σ}
    (h : holds s.link) : holds (act M D settings event s).link := by
  have idle : (Record.info "Stop received while idle, nothing to do").reportsStream = false := by
    simp [Record.reportsStream_info, List.isPrefixOf]
  unfold act
  split
  · next start =>
    have session := kept.run settings start (kept.note _ (reportsStream_startRecord start) h)
    refine kept.note _ ?_ session
    simp [Record.reportsStream_info, toString, List.isPrefixOf]
  · exact kept.note _ idle h
  · exact kept.note _ rfl h
  · exact kept.note _ rfl h
  · exact h

theorem kept_serveFrom (kept : Session.Kept M D holds) {s : Serving σ} (h : holds s.link) :
    holds (serveFrom M D settings s).link := by
  induction s using serveFrom.induct M D settings with
  | case1 s connected isOpen spent ih =>
    rw [serveFrom_goOn connected isOpen]
    have waited : holds (waited H s).2.link := kept.wait none h
    exact ih (kept_act settings kept _ waited)
  | case2 s connected lost =>
    rw [serveFrom_lost connected lost]
    exact kept.wait none h
  | case3 s gone =>
    rw [serveFrom_gone gone]
    exact h

/-- Serving closes the client as well. -/
theorem kept_serve (kept : Session.Kept M D holds)
    (close : ∀ {k w}, holds (k, w) → holds (k.close H w)) {k : Client} {w : σ} (h : holds (k, w)) :
    holds (serve M D settings k w).2 := by
  have begun : holds (k, H.note (.info "Waiting for commands") w) := by
    refine kept.note _ ?_ h
    simp [Record.reportsStream_info, List.isPrefixOf]
  have served := kept_serveFrom settings kept (s := ⟨⟨0, 0, 0⟩, k, _⟩) begun
  refine kept.note _ ?_ (close served)
  simp [Record.reportsStream_info, toString, List.isPrefixOf]

end Service

/-! ## Sessions and serving are sequences of actions -/

variable (H) in
/-- Actions lead from one state of a client and its world to the other. -/
def Leads (a b : Client × σ) : Prop := ∃ actions, Client.actAll H a actions = b

namespace Leads

variable {a b c : Client × σ}

theorem refl (a : Client × σ) : Leads H a a := ⟨[], rfl⟩

theorem trans (h : Leads H a b) (k : Leads H b c) : Leads H a c := by
  obtain ⟨actions, rfl⟩ := h
  obtain ⟨more, rfl⟩ := k
  exact ⟨actions ++ more, List.foldl_append⟩

theorem one (action : Client.Action σ) : Leads H a (Client.act H a action) := ⟨[action], rfl⟩

/-- What happens to the world alone. -/
theorem elapsed {k : Client} {w : σ} (h : Leads H a (k, w)) (w' : σ) : Leads H a (k, w') :=
  h.trans (.one (.elapsed w'))

theorem orderly (h : Leads H a b) (orderly : a.1.channel.Orderly) : b.1.channel.Orderly := by
  obtain ⟨actions, rfl⟩ := h
  exact Channel.kept_orderly.actAll orderly actions

/-- What a session does leads on. -/
theorem kept (M : Media H S F) (D : Detector H F) (a : Client × σ) :
    Session.Kept M D (Leads H a) where
  wait timeout h := h.trans (.one (.wait timeout))
  send timestampMs found h := h.trans (.one (.send (.detections timestampMs found)))
  note _ _ h := h.elapsed _
  sleep _ h := h.elapsed _
  opening _ h := h.elapsed _
  next _ h := h.elapsed _
  rewind _ h := h.elapsed _
  detect _ h := h.elapsed _

end Leads

section Sequences

variable (M : Media H S F) (D : Detector H F) (settings : SessionSettings)

theorem Session.leads_iterate (plan : Plan) (r : Running σ S) :
    Leads H r.link (iterate M D plan r).running.link :=
  (Leads.kept M D r.link).iterate plan (.refl _)

/-- A session is a sequence of polls and sends. -/
theorem Session.leads_run (start : StartCommand) (k : Client) (w : σ) :
    Leads H (k, w) (run M D settings start k w).2 :=
  (Leads.kept M D (k, w)).run settings start (.refl _)

theorem Service.leads_act (event : CommandEvent) (s : Serving σ) :
    Leads H s.link (act M D settings event s).link :=
  kept_act settings (Leads.kept M D s.link) event (.refl _)

theorem Service.leads_serveFrom (s : Serving σ) :
    Leads H s.link (serveFrom M D settings s).link :=
  kept_serveFrom settings (Leads.kept M D s.link) (.refl _)

end Sequences
end DetectionLink
