import DetectionLink.Proofs.Along
import DetectionLink.Proofs.ChannelRuns
import DetectionLink.Proofs.Intake
import DetectionLink.Proofs.ReceiveMemory
import DetectionLink.Proofs.StreamRecords
import Mathlib.Data.List.Forall2

/-!
# Connections are kept apart

A channel may be connected, lose its connection and be connected again any number of times, with
entries waiting, half a line held back or a long line being dropped each time. What it hands out on
one connection is decided by the bytes read on that connection: every way of losing a stream
forgets what was received, and a connect that opens a stream begins with nothing.

* `connections`: the bytes read on each connection, by the trace;
* `Use`, `Use.run`: a channel in use, with what it handed out on each connection;
* `Attempted`, `attempted_connect`: the attempts to connect wait, and at last open a stream once or
  never;
* `Tried`: what of this matters to the bytes of a connection;
* `Separate`: the entries of each connection against its bytes; `separate_perform`: one operation;
* `entries_of_connection`: any operations.
-/

namespace DetectionLink

open Framing

variable {σ F : Type} {H : Host σ}

/-! ## Connections in a trace -/

namespace Event

/-- Whether a stream was opened. -/
def isOpening : Event F → Bool
  | .attempted (.opened _) => true
  | _ => false

/-- Nothing was opened and nothing came in. -/
structure IsIdle (event : Event F) : Prop where
  opens_nothing : event.isOpening = false
  brings_nothing : event.chunk? = none

/-- Waiting for a stream: a failed attempt, the question for a further one, a sleep, or a record
that tells of no stream. -/
inductive IsWaiting : Event F → Prop
  | failed {outcome : AttemptOutcome} (none : ∀ handle, outcome = .opened handle → False) :
      IsWaiting (.attempted outcome)
  | asked (wait : Option Duration) : IsWaiting (.paused wait)
  | slept (length : Duration) : IsWaiting (.slept length)
  | noted {record : Record} (quiet : record.reportsStream = false) : IsWaiting (.noted record)

theorem IsWaiting.isIdle {event : Event F} (waiting : event.IsWaiting) : event.IsIdle := by
  cases waiting with
  | @failed outcome none =>
    cases outcome with
    | opened handle => exact (none handle rfl).elim
    | _ => exact ⟨rfl, rfl⟩
  | _ => exact ⟨rfl, rfl⟩

end Event

/-- The bytes read before a stream was first opened, and on each connection since. -/
def connections (trace : List (Event F)) : List Bytes :=
  (trace.splitOnP Event.isOpening).map received

theorem connections_eq (trace : List (Event F)) :
    connections trace = (parts Event.isOpening trace).map received ++
      [received (lastPart Event.isOpening trace)] := by
  rw [connections, ← parts_concat_lastPart, List.map_append, List.map_singleton]

theorem chunksRead_of_idle {trace : List (Event F)} (idle : ∀ event ∈ trace, event.IsIdle) :
    chunksRead trace = [] :=
  List.filterMap_eq_nil_iff.mpr fun event mem => (idle event mem).brings_nothing

/-! ## Channels in use -/

/-- A channel in use, with the entries it handed out: connection by connection those of the
connections before, and those since a stream was last opened. -/
structure Use (σ F : Type) where
  channel : Channel
  world : Traced σ F
  earlier : List (List LineEntry)
  current : List LineEntry

namespace Use

variable (H)

def ofConfig (config : ChannelConfig) (w : σ) : Use σ F := ⟨.ofConfig config, .start w, [], []⟩

/-- A receive, and the entry it hands out. -/
def receiveUntil (deadline : Option Instant) (u : Use σ F) : Use σ F :=
  let got := u.channel.receiveUntil (H.traced F) deadline u.world
  { u with channel := got.2.1, world := got.2.2, current := u.current ++ got.1.entries }

/-- A connect. One that opened a stream begins a connection. -/
def connect (u : Use σ F) : Use σ F :=
  let done := u.channel.connect (H.traced F) u.world
  if !u.channel.isConnected && done.1.isOk then
    ⟨done.2.1, done.2.2, u.earlier ++ [u.current], []⟩
  else { u with channel := done.2.1, world := done.2.2 }

def perform (u : Use σ F) : Operation σ → Use σ F
  | .connect => u.connect H
  | .receive timeout => u.receiveUntil H (timeout.map (H.now u.world.world).after)
  | .receiveUntil deadline => u.receiveUntil H deadline
  | .sendLine payload =>
    let done := u.channel.sendLine (H.traced F) payload u.world
    { u with channel := done.2.1, world := done.2.2 }
  | .close =>
    let done := u.channel.close (H.traced F) u.world
    { u with channel := done.1, world := done.2 }
  | .elapsed world => { u with world := { u.world with world } }

/-- A new channel after a sequence of operations. -/
def run (config : ChannelConfig) (w : σ) (operations : List (Operation σ)) : Use σ F :=
  operations.foldl (perform H) (ofConfig config w)

/-- The channel and its world. -/
def link (u : Use σ F) : Channel × σ := (u.channel, u.world.world)

end Use

/-! ### The same channel -/

theorem attemptFrom_traced (c : Channel) (attempts : Nat) (t : Traced σ F) :
    untraced (c.attemptFrom (H.traced F) attempts t) = c.attemptFrom H attempts t.world := by
  induction attempts, t using Channel.attemptFrom.induct (H.traced F) c with
  | case1 attempts t tried handle opened =>
    have opened' : (Channel.tried H c t.world).1 = .opened handle := opened
    rw [Channel.attemptFrom_opened opened, Channel.attemptFrom_opened opened']
    rfl
  | case2 attempts t tried wait failed asked again spent ih =>
    have failed' : ∀ handle, (Channel.tried H c t.world).1 = .opened handle → False := failed
    have again' : (Channel.asked H c t.world).1 = some wait := again
    rw [Channel.attemptFrom_again failed again, Channel.attemptFrom_again failed' again']
    exact ih
  | case3 attempts t tried failed asked given =>
    have failed' : ∀ handle, (Channel.tried H c t.world).1 = .opened handle → False := failed
    have given' : (Channel.asked H c t.world).1 = none := given
    rw [Channel.attemptFrom_gaveUp failed given, Channel.attemptFrom_gaveUp failed' given']
    rfl

theorem connect_traced (c : Channel) (t : Traced σ F) :
    untraced (c.connect (H.traced F) t) = c.connect H t.world := by
  unfold Channel.connect
  split
  · rfl
  · exact attemptFrom_traced _ 0 _

theorem link_perform (u : Use σ F) (operation : Operation σ) :
    (u.perform H operation).link = Channel.perform H u.link operation := by
  cases operation with
  | connect =>
    have same := congrArg (·.2) (connect_traced (H := H) u.channel u.world)
    refine Eq.trans ?_ same
    show (u.connect H).link = _
    unfold Use.connect
    dsimp only
    split <;> rfl
  | receive timeout => exact congrArg (·.2) (receiveUntil_traced (H := H) _ u.channel u.world)
  | receiveUntil deadline =>
    exact congrArg (·.2) (receiveUntil_traced (H := H) deadline u.channel u.world)
  | sendLine payload =>
    let k : Client := ⟨u.channel, .ofPollTimeout ⟨0⟩, 0⟩
    exact congrArg (fun done : Except LinkError Unit × Client × σ => (done.2.1.channel, done.2.2))
      (sendLine_traced (H := H) payload k u.world)
  | close => exact close_traced u.channel u.world
  | elapsed world => rfl

theorem link_run (config : ChannelConfig) (w : σ) (operations : List (Operation σ)) :
    (Use.run H config w operations : Use σ F).link = Channel.run H config w operations := by
  suffices general : ∀ u : Use σ F, (operations.foldl (Use.perform H) u).link =
      operations.foldl (Channel.perform H) u.link from general (.ofConfig config w)
  induction operations with
  | nil => exact fun u => rfl
  | cons operation rest ih =>
    intro u
    rw [List.foldl_cons, List.foldl_cons, ih, link_perform]

/-! ## Attempts to connect -/

/-- What attempts to connect come to: they wait, and at last a stream is opened and a record says
so, or there is none. -/
inductive Attempted (c : Channel) (t : Traced σ F) :
    Except LinkError Unit × Channel × Traced σ F → Prop
  | opened {before : Traced σ F} (waited : Added Event.IsWaiting t before)
      (handle attempts : Nat) (w w' : σ) :
      Attempted c t (.ok (), { c with state := .connected, stream := some handle },
        (before.log (.attempted (.opened handle)) w).log
          (.noted (openedRecord c.pathText attempts)) w')
  | gaveUp {e : LinkError} {t' : Traced σ F} (waited : Added Event.IsWaiting t t') :
      Attempted c t (.error e, { c with state := .disconnected }, t')

/-- Waiting in front. -/
theorem Attempted.after {c : Channel} {t t' : Traced σ F}
    {r : Except LinkError Unit × Channel × Traced σ F} (h : Attempted c t' r)
    (waited : Added Event.IsWaiting t t') : Attempted c t r := by
  cases h with
  | opened later handle attempts w w' => exact .opened (waited.trans later) handle attempts w w'
  | gaveUp later => exact .gaveUp (waited.trans later)

/-- A failed attempt and the question for a further one are waiting. -/
theorem waited_asked {c : Channel} {t : Traced σ F}
    (failed : ∀ handle, (Channel.tried (H.traced F) c t).1 = .opened handle → False) :
    Added Event.IsWaiting t (Channel.asked (H.traced F) c t).2 := by
  have attempted : Added Event.IsWaiting t (Channel.tried (H.traced F) c t).2 :=
    .log (.failed failed) t _
  have quiet := reportsStream_attemptRecord c.config.retryInterval
    (Channel.tried (H.traced F) c t).1
  exact (attempted.trans (.log (.noted quiet) _ _)).trans (.log (.asked _) _ _)

theorem attempted_attemptFrom (c : Channel) (attempts : Nat) (t : Traced σ F) :
    Attempted c t (c.attemptFrom (H.traced F) attempts t) := by
  induction attempts, t using Channel.attemptFrom.induct (H.traced F) c with
  | case1 attempts t tried handle opened =>
    rw [Channel.attemptFrom_opened opened]
    have now : Channel.tried (H.traced F) c t =
        (.opened handle, t.log (.attempted (.opened handle)) (Channel.tried H c t.world).2) := by
      have outcome : (Channel.tried H c t.world).1 = .opened handle := opened
      rw [← outcome]
      rfl
    rw [now]
    exact .opened (.refl t) handle (attempts + 1) _ _
  | case2 attempts t tried wait failed question again spent ih =>
    rw [Channel.attemptFrom_again failed again]
    exact ih.after (((waited_asked failed).trans (.log (.noted rfl) _ _)).trans
      (.log (.slept wait) _ _))
  | case3 attempts t tried failed question given =>
    rw [Channel.attemptFrom_gaveUp failed given]
    exact .gaveUp ((waited_asked failed).trans (.log (.noted rfl) _ _))

/-- A connect that is needed begins with nothing received. -/
theorem attempted_connect {c : Channel} (idle : c.isConnected = false) (t : Traced σ F) :
    Attempted { c with state := .connecting, lines := c.lines.clear } t
      (c.connect (H.traced F) t) := by
  rw [Channel.connect, if_neg (Bool.eq_false_iff.mp idle)]
  exact (attempted_attemptFrom _ 0 _).after
    (.log (.noted (reportsStream_connecting c.pathText)) t _)

/-- What of the attempts matters to the bytes of a connection: at last a stream is opened, or none
is. In between nothing is opened and nothing comes in. -/
inductive Tried (c : Channel) (t : Traced σ F) :
    Except LinkError Unit × Channel × Traced σ F → Prop
  | opened {before t' : Traced σ F} {handle : Nat} {w : σ} (waited : Added Event.IsIdle t before)
      (noted : Added Event.IsIdle (before.log (.attempted (.opened handle)) w) t') :
      Tried c t (.ok (), { c with state := .connected, stream := some handle }, t')
  | gaveUp {e : LinkError} {t' : Traced σ F} (waited : Added Event.IsIdle t t') :
      Tried c t (.error e, { c with state := .disconnected }, t')

theorem Attempted.tried {c : Channel} {t : Traced σ F}
    {r : Except LinkError Unit × Channel × Traced σ F} (h : Attempted c t r) : Tried c t r := by
  cases h with
  | opened waited handle attempts w w' =>
    exact .opened (waited.mono fun _ waiting => waiting.isIdle) (.log ⟨rfl, rfl⟩ _ _)
  | gaveUp waited => exact .gaveUp (waited.mono fun _ waiting => waiting.isIdle)

/-! ## One operation -/

/-- What was handed out on each connection comes first in the reference entries of its bytes. On
the last connection the channel began with nothing, and has since taken what it handed out. -/
structure Separate (config : ChannelConfig) (u : Use σ F) : Prop where
  sound : u.channel.Sound
  config_eq : u.channel.config = config
  earlier : List.Forall₂
    (fun returned bytes => returned <+: reference (max config.maxMessageBytes 1) bytes) u.earlier
    ((parts Event.isOpening u.world.trace).map received)
  current : ∃ c, c.lines.IsClear ∧ c.lines.limit = max config.maxMessageBytes 1 ∧
    Took (chunksRead (lastPart Event.isOpening u.world.trace)) u.current c u.channel

namespace LineBuffer

/-- An empty buffer that takes chunks has the reference entries of their bytes. -/
theorem IsClear.ready_absorbAll {b : LineBuffer} (clear : b.IsClear) (chunks : List Bytes) :
    (b.absorbAll chunks).ready = reference b.limit chunks.flatten := by
  have framed : BufferFramed b [] [] := clear ▸ framed_clear b
  have entries := (framed_absorbAll framed chunks).entries_eq
  rwa [limit_absorbAll] at entries

end LineBuffer

namespace Separate

variable {config : ChannelConfig} {u : Use σ F}

/-- The entries of the last connection. -/
theorem isPrefix_current (h : Separate config u) :
    u.current <+: reference (max config.maxMessageBytes 1)
      (received (lastPart Event.isOpening u.world.trace)) := by
  obtain ⟨c, clear, same, took⟩ := h.current
  rw [received_eq_flatten, ← same, ← clear.ready_absorbAll]
  exact took.isPrefix

/-- As long as the stream is open, what was read on it and not handed out waits. -/
theorem current_append_ready (h : Separate config u) (isOpen : u.channel.stream.isSome) :
    u.current ++ u.channel.lines.ready = reference (max config.maxMessageBytes 1)
      (received (lastPart Event.isOpening u.world.trace)) := by
  obtain ⟨c, clear, same, took⟩ := h.current
  rw [received_eq_flatten, ← same, ← clear.ready_absorbAll, took.lines_eq isOpen]
  rfl

/-- The connection goes on, or is lost. -/
theorem goOn (h : Separate config u) {c : Channel} {t : Traced σ F} {chunks : List Bytes}
    {done : List (Event F)} {taken : List LineEntry} (sound : c.Sound)
    (config_eq : c.config = config)
    (opensNothing : Added (fun event : Event F => event.isOpening = false) u.world t)
    (elapsed : Elapsed chunks done u.world t) (took : Took chunks taken u.channel c) :
    Separate config ⟨c, t, u.earlier, u.current ++ taken⟩ := by
  obtain ⟨added, grown, read, -⟩ := elapsed
  obtain ⟨added', grown', none⟩ := opensNothing
  obtain rfl : added = added' := List.append_cancel_left (grown.symm.trans grown')
  obtain ⟨first, clear, limit_eq, earlier⟩ := h.current
  refine ⟨sound, config_eq, ?_, first, clear, limit_eq, ?_⟩
  · simp only [grown, parts_append _ none]
    exact h.earlier
  · simp only [grown, lastPart_append _ none, chunksRead_append, read]
    exact earlier.trans took

/-- A stream is opened: a connection begins, with nothing received. -/
theorem opened (h : Separate config u) {c : Channel} {before t : Traced σ F} {handle : Nat} {w : σ}
    (sound : c.Sound) (config_eq : c.config = config) (clear : c.lines.IsClear)
    (waited : Added Event.IsIdle u.world before)
    (noted : Added Event.IsIdle (before.log (.attempted (.opened handle)) w) t) :
    Separate config ⟨c, t, u.earlier ++ [u.current], []⟩ := by
  obtain ⟨pre, grown, idle⟩ := waited
  obtain ⟨post, grown', idle'⟩ := noted
  have none : ∀ event ∈ pre, event.isOpening = false := fun event mem => (idle event mem).1
  have none' : ∀ event ∈ post, event.isOpening = false := fun event mem => (idle' event mem).1
  have trace : t.trace = u.world.trace ++ pre ++ [.attempted (.opened handle)] ++ post := by
    rw [grown', Traced.log, grown]
  have isOpening : (.attempted (.opened handle) : Event F).isOpening = true := rfl
  have limit_eq : c.lines.limit = max config.maxMessageBytes 1 := config_eq ▸ sound.limit_eq
  refine ⟨sound, config_eq, ?_, c, clear, limit_eq, ?_⟩
  · have last : received (lastPart Event.isOpening u.world.trace ++ pre) =
        received (lastPart Event.isOpening u.world.trace) := by
      rw [received_append, received_eq_flatten pre, chunksRead_of_idle idle, List.flatten_nil,
        List.append_nil]
    simp only [trace, parts_append _ none', parts_concat _ isOpening, parts_append _ none,
      lastPart_append _ none, List.map_append, List.map_singleton, last]
    exact List.rel_append h.earlier (.cons h.isPrefix_current .nil)
  · simp only [trace, lastPart_append _ none', lastPart_concat _ isOpening, List.nil_append,
      chunksRead_of_idle idle']
    exact .refl c

end Separate

/-- The calls on an open link open nothing. -/
theorem opensNothing_host (H : Host σ) :
    (H.traced F).Along (Added fun event : Event F => event.isOpening = false) :=
  Added.host H (fun _ => rfl) (fun _ _ => rfl) (fun _ _ _ => rfl) (fun _ => rfl)

theorem took_sendLine {c : Channel} (sound : c.Sound) (payload : Bytes) (w : σ) :
    Took [] [] c (c.sendLine H payload w).2.1 := by
  rcases Channel.sendLine_cases (H := H) payload c w with
    ⟨_, same⟩ | ⟨_, _, _, same⟩ | ⟨_, _, _, ⟨_, same⟩ | gone⟩
  · rw [same]
    exact .refl c
  · rw [same]
    exact .refl c
  · rw [same]
    exact .refl c
  · rw [gone]
    exact took_closed sound

/-- What brought no byte brought no chunk. -/
theorem Added.elapsed {kind : Event F → Prop} {t t' : Traced σ F} (h : Added kind t t')
    (same : received t'.trace = received t.trace) : ∃ done, Elapsed [] done t t' := by
  obtain ⟨added, grown, -⟩ := h
  rw [grown, received_append] at same
  exact ⟨_, added, grown, chunksRead_eq_nil (List.append_right_eq_self.mp same), rfl⟩

theorem separate_receiveUntil {config : ChannelConfig} {u : Use σ F} (h : Separate config u)
    (deadline : Option Instant) : Separate config (u.receiveUntil H deadline) := by
  obtain ⟨⟨chunks, elapsed, took⟩, -⟩ :=
    drawn_receiveUntil (H := H) deadline (t := u.world) h.sound
  have config_eq : (u.channel.receiveUntil (H.traced F) deadline u.world).2.1.config = config :=
    (Channel.kept_config config).receiveUntil h.config_eq
  exact h.goOn (Channel.sound_receiveUntil h.sound) config_eq
    (along_receiveUntil (opensNothing_host H) deadline u.channel u.world) elapsed took

theorem separate_connect {config : ChannelConfig} {u : Use σ F} (h : Separate config u) :
    Separate config (u.connect H) := by
  have sound := Channel.sound_connect (H := H.traced F) h.sound u.world
  have config_eq : (u.channel.connect (H.traced F) u.world).2.1.config = config :=
    (Channel.kept_config config).connect h.config_eq
  unfold Use.connect
  cases connected : u.channel.isConnected with
  | true =>
    have same : u.channel.connect (H.traced F) u.world = (.ok (), u.channel, u.world) := by
      rw [Channel.connect, if_pos connected]
    simp [same, h]
  | false =>
    have tried := (attempted_connect (H := H) connected u.world).tried
    generalize u.channel.connect (H.traced F) u.world = done at tried sound config_eq ⊢
    cases tried with
    | opened waited noted => exact h.opened sound config_eq rfl waited noted
    | gaveUp waited =>
      -- there was no stream before, and nothing was held
      have noStream := h.sound.stream_of_not_isConnected connected
      have clear : u.channel.lines.clear = u.channel.lines :=
        (h.sound.clear_of_closed noStream).symm
      have none : Added (fun event : Event F => event.isOpening = false) u.world _ :=
        waited.mono fun _ idle => idle.opens_nothing
      obtain ⟨added, grown, idle⟩ := waited
      have next := h.goOn sound config_eq none ⟨added, grown, chunksRead_of_idle idle, rfl⟩
        (.unchanged rfl clear)
      rwa [List.append_nil] at next

theorem separate_sendLine {config : ChannelConfig} {u : Use σ F} (h : Separate config u)
    (payload : Bytes) : Separate config (u.perform H (.sendLine payload)) := by
  have opensNothing := along_sendLine (opensNothing_host H).toAlongSend payload u.channel u.world
  obtain ⟨done, elapsed⟩ := opensNothing.elapsed (received_sendLine payload u.channel u.world)
  have config_eq : (u.channel.sendLine (H.traced F) payload u.world).2.1.config = config :=
    (Channel.kept_config config).sendLine h.config_eq
  have next := h.goOn (Channel.sound_sendLine h.sound payload u.world) config_eq opensNothing
    elapsed (took_sendLine h.sound payload u.world)
  rwa [List.append_nil] at next

theorem separate_close {config : ChannelConfig} {u : Use σ F} (h : Separate config u) :
    Separate config (u.perform H .close) := by
  have opensNothing := along_close (opensNothing_host H).toAlongSend u.channel u.world
  obtain ⟨done, elapsed⟩ := opensNothing.elapsed (received_close u.channel u.world)
  have closed := Channel.close_fst (H := H.traced F) u.channel u.world
  have next := h.goOn (Channel.sound_closed h.sound) h.config_eq opensNothing elapsed
    (took_closed h.sound)
  rw [List.append_nil, ← closed] at next
  exact next

/-- Every operation keeps the connections apart. -/
theorem separate_perform {config : ChannelConfig} {u : Use σ F} (h : Separate config u)
    (operation : Operation σ) : Separate config (u.perform H operation) := by
  cases operation with
  | connect => exact separate_connect h
  | receive timeout => exact separate_receiveUntil h _
  | receiveUntil deadline => exact separate_receiveUntil h deadline
  | sendLine payload => exact separate_sendLine h payload
  | close => exact separate_close h
  | elapsed world => exact ⟨h.sound, h.config_eq, h.earlier, h.current⟩

/-! ## Any operations -/

theorem separate_run (config : ChannelConfig) (w : σ) (operations : List (Operation σ)) :
    Separate config (Use.run H config w operations : Use σ F) := by
  suffices general : ∀ u : Use σ F, Separate config u →
      Separate config (operations.foldl (Use.perform H) u) from
    general (.ofConfig config w) ⟨Channel.sound_ofConfig config, rfl, .nil,
      .ofConfig config, rfl, rfl, .refl _⟩
  induction operations with
  | nil => exact fun _ h => h
  | cons operation rest ih => exact fun u h => ih _ (separate_perform h operation)

/-- A channel after any operations, on any host. What it handed out on each connection comes first
in the reference entries of the bytes read on that connection, whatever was left of the connections
before; and as long as the stream is open, the rest of these entries waits. -/
theorem entries_of_connection (config : ChannelConfig) (w : σ) (operations : List (Operation σ)) :
    let u : Use σ F := Use.run H config w operations
    let limit := max config.maxMessageBytes 1
    (u.channel, u.world.world) = Channel.run H config w operations ∧
    List.Forall₂ (fun returned bytes => returned <+: reference limit bytes)
      (u.earlier ++ [u.current]) (connections u.world.trace) ∧
    (u.channel.stream.isSome → ∀ bytes, (connections u.world.trace).getLast? = some bytes →
      u.current ++ u.channel.lines.ready = reference limit bytes) := by
  intro u limit
  have separate : Separate config u := separate_run config w operations
  refine ⟨link_run config w operations, ?_, fun isOpen bytes last => ?_⟩
  · rw [connections_eq]
    exact List.rel_append separate.earlier (.cons separate.isPrefix_current .nil)
  · rw [connections_eq, List.getLast?_concat] at last
    obtain rfl := Option.some.inj last
    exact separate.current_append_ready isOpen

end DetectionLink
