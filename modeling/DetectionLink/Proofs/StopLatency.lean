import DetectionLink.Proofs.Delivery
import DetectionLink.Proofs.SessionTrace

/-!
# How soon a stop is honoured

A poll hands out one command, and a command that is ignored still lets the session take its next
frame. So a stop that was received already waits for one iteration per command in front of it;
lines that are no commands cost nothing.

* `Client.wait_queue`: a wait takes the first command that is in the buffer;
* `queued`, `ahead`: the commands that wait, and how many stand before the first stop;
* `polled_queued`: a poll takes the first command that waits;
* `pull_cases`: what taking a frame does to the counts and the channel, on any host;
* `stop_within_one_frame_iff`: when a stop is honoured within one frame.
-/

namespace DetectionLink

def Command.isStop : Command → Bool
  | .stop => true
  | .start _ | .unknown _ => false

variable {σ S F : Type} {H : Host σ}

/-! ## Waiting commands -/

/-- A wait takes the first command that is in the buffer, over the lines that are none. -/
theorem waitUntil_ready (deadline : Option Instant) {bad rest : List LineEntry} {line : Bytes}
    {command : Command} (skipped : ∀ entry ∈ bad, commandOf? entry = none)
    (read : Command.ofLine line = .ok command) {b : Inbox} {c : Channel} {w : σ}
    (ready : c.lines.ready = bad ++ .ok line :: rest) :
    ∃ b' w', b.waitUntil H deadline c w =
      (.command command, b', { c with lines := { c.lines with ready := rest } }, w') := by
  -- no read happens: every receive of the wait finds an entry
  induction bad generalizing b c w with
  | nil =>
    have next : c.lines.next? = some (.ok line, { c.lines with ready := rest }) := by
      rw [LineBuffer.next?, ready]
      rfl
    have got : c.receiveUntil H deadline w =
        (.line line, { c with lines := { c.lines with ready := rest } }, w) :=
      Channel.receiveUntil_entry next
    exact ⟨_, _, (Inbox.waitUntil_command (congrArg (·.1) got) read).trans (by rw [got])⟩
  | cons entry bad ih =>
    have next : c.lines.next? =
        some (entry, { c.lines with ready := bad ++ .ok line :: rest }) := by
      rw [LineBuffer.next?, ready]
      rfl
    have got : c.receiveUntil H deadline w = (.ofEntry entry,
        { c with lines := { c.lines with ready := bad ++ .ok line :: rest } }, w) :=
      Channel.receiveUntil_entry next
    have skipped' : ∀ entry ∈ bad, commandOf? entry = none :=
      fun entry mem => skipped entry (List.mem_cons_of_mem _ mem)
    cases entry with
    | error e =>
      rw [Inbox.waitUntil_rejected (congrArg (·.1) got), got]
      exact ih skipped' rfl
    | ok text =>
      have none := skipped (.ok text) List.mem_cons_self
      cases fault : Command.ofLine text with
      | ok command =>
        rw [commandOf?_ok fault] at none
        exact absurd none (Option.some_ne_none command)
      | error e =>
        rw [Inbox.waitUntil_skipped (congrArg (·.1) got) fault, got]
        exact ih skipped' rfl

namespace Client

/-- The commands received and not yet taken. -/
def queue (k : Client) : List Command := k.channel.lines.ready.filterMap commandOf?

/-- A wait takes the first of them, and leaves the connection as it is. -/
theorem wait_queue (timeout : Option Duration) {k : Client} {command : Command}
    {rest : List Command} (waiting : k.queue = command :: rest) (w : σ) :
    ∃ k' w', k.wait H timeout w = (.command command, k', w') ∧ k'.queue = rest ∧
      k'.isConnected = k.isConnected := by
  -- the entries in front of the first command are skipped within the same wait
  obtain ⟨bad, entry, after, ready, skipped, isCommand, others⟩ :=
    List.filterMap_eq_cons_iff.mp waiting
  cases entry with
  | error e => exact absurd isCommand nofun
  | ok line =>
    have read : Command.ofLine line = .ok command := by
      cases h : Command.ofLine line with
      | error e =>
        rw [commandOf?_error h] at isCommand
        exact absurd isCommand nofun
      | ok other =>
        rw [commandOf?_ok h] at isCommand
        rw [Option.some.inj isCommand]
    obtain ⟨b', w', waited⟩ := waitUntil_ready (H := H) (timeout.map (H.now w).after) skipped read
      (b := { k.inbox with state := .waiting }) (w := w) ready
    refine ⟨{ k with
      inbox := b'
      channel := { k.channel with lines := { k.channel.lines with ready := after } } }, w', ?_,
      others, rfl⟩
    rw [Client.wait, Inbox.wait, waited]

end Client

namespace Session

/-- The commands received and not yet taken. -/
def queued (r : Running σ S) : List Command :=
  r.client.channel.lines.ready.filterMap commandOf?

/-- How many of them stand before the first stop. -/
def ahead (r : Running σ S) : Nat := ((queued r).takeWhile fun command => !command.isStop).length

/-- A poll takes the first of them, and leaves the session otherwise as it is. -/
theorem polled_queued {r : Running σ S} {command : Command} {rest : List Command}
    (waiting : queued r = command :: rest) :
    ∃ taken : Running σ S, polled H r = (.command command, taken) ∧ queued taken = rest ∧
      taken.client.isConnected = r.client.isConnected ∧ taken.counts = r.counts := by
  obtain ⟨k', w', brought, others, connected⟩ :=
    Client.wait_queue (H := H) (some r.client.inbox.pollTimeout) waiting r.world
  refine ⟨{ r with client := k', world := w' }, ?_, others, connected, rfl⟩
  rw [polled, Client.poll, brought]

/-! ## Frames -/

section Frames

variable (M : Media H S F) (D : Detector H F) (plan : Plan)

/-- What taking a frame comes to on any host: one more frame or one more loop, on the same channel,
or an end that is no stop. -/
inductive Advanced (r : Running σ S) : Step σ S → Prop
  | frame {r' : Running σ S} (channel : r'.client.channel = r.client.channel)
      (frames : r'.counts.framesRead = r.counts.framesRead + 1)
      (loops : r'.counts.loopsCompleted = r.counts.loopsCompleted) : Advanced r (.goOn r')
  | rewound {r' : Running σ S} (channel : r'.client.channel = r.client.channel)
      (looping : plan.start.loop = true)
      (frames : r'.counts.framesRead = r.counts.framesRead)
      (loops : r'.counts.loopsCompleted = r.counts.loopsCompleted + 1) : Advanced r (.goOn r')
  | ended {ending : SessionEnd} {r' : Running σ S} (notStopped : ending ≠ .stopped)
      (frames : r'.counts.framesRead ≤ r.counts.framesRead + 1) :
      Advanced r (.finished ending r')

theorem advanced_atEnd {r pulled : Running σ S} (client : pulled.client = r.client)
    (counts : pulled.counts = r.counts) : Advanced plan r (atEnd M plan pulled) := by
  have channel := congrArg Client.channel client
  have frames := congrArg SessionCounts.framesRead counts
  have loops := congrArg SessionCounts.loopsCompleted counts
  have atMost := Nat.le_succ_of_le (Nat.le_of_eq frames)
  unfold atEnd
  split
  · exact .ended (by decide) atMost
  · next looping =>
    split
    · exact .ended (by decide) atMost
    · dsimp only
      split
      · exact .ended (by decide) atMost
      · exact .rewound channel (by simpa using looping) frames (congrArg (· + 1) loops)

theorem advanced_analyze {r pulled : Running σ S} (frame : F) (client : pulled.client = r.client)
    (counts : pulled.counts = { r.counts with framesRead := r.counts.framesRead + 1 }) :
    Advanced plan r (analyze M D plan frame pulled) := by
  have channel := congrArg Client.channel client
  have frames := congrArg SessionCounts.framesRead counts
  have loops := congrArg SessionCounts.loopsCompleted counts
  have sent := Client.sendDetections_cases (H := H)
    (frameTimestampMs (M.position pulled.source) pulled.index plan.fps)
    (D.detect frame pulled.world).1 pulled.client (D.detect frame pulled.world).2
  unfold analyze report
  dsimp only
  rcases sent with ⟨sent, kept⟩ | ⟨e, refused, soft, kept⟩ | ⟨e, failed, lost, _⟩
  · rw [sent, kept]
    exact .frame channel frames loops
  · rw [refused, kept]
    simp only [conclude, soft, Bool.false_eq_true, if_false]
    exact .frame channel frames loops
  · rw [failed]
    simp only [conclude, lost, if_true]
    exact .ended (by decide) (Nat.le_of_eq frames)

theorem advanced_pull (r : Running σ S) : Advanced plan r (pull M D plan r) := by
  unfold pull
  dsimp only
  split
  · exact advanced_atEnd M plan rfl rfl
  · next frame _ =>
    split
    · exact advanced_analyze M D plan frame rfl rfl
    · exact .frame rfl rfl rfl

/-! ## Iterations before the stop -/

/-- The session after some iterations, if all of them go on. -/
def after : Nat → Running σ S → Option (Running σ S)
  | 0, r => some r
  | n + 1, r =>
    match iterate M D plan r with
    | .goOn r' => after n r'
    | .finished _ _ => none

variable {M D plan} {r : Running σ S}

theorem after_goOn {r' : Running σ S} (went : iterate M D plan r = .goOn r') (n : Nat) :
    after M D plan (n + 1) r = after M D plan n r' := by
  rw [after, went]

theorem after_finished {ending : SessionEnd} {r' : Running σ S}
    (last : iterate M D plan r = .finished ending r') (n : Nat) :
    after M D plan (n + 1) r = none := by
  rw [after, last]

variable (M D plan) in
/-- A stop in front ends the session at once. -/
theorem iterate_stop {rest : List Command} (connected : r.client.isConnected = true)
    (waiting : queued r = .stop :: rest) :
    ∃ r', iterate M D plan r = .finished .stopped r' ∧ r'.counts = r.counts := by
  obtain ⟨taken, polled, _, _, counts⟩ := polled_queued (H := H) waiting
  have step : iterate M D plan r = heed M D plan (.command .stop) taken := by
    rw [iterate, if_pos connected, polled]
  exact ⟨_, step, counts⟩

variable (M D plan) in
/-- Any other command in front lets the session take its next frame. -/
theorem iterate_ignored {command : Command} {rest : List Command}
    (connected : r.client.isConnected = true) (waiting : queued r = command :: rest)
    (ignored : command.isStop = false) :
    ∃ heeded, iterate M D plan r = pull M D plan heeded ∧ queued heeded = rest ∧
      heeded.client.isConnected = true ∧ heeded.counts = r.counts := by
  obtain ⟨taken, polled, others, connection, counts⟩ := polled_queued (H := H) waiting
  rw [connected] at connection
  rw [iterate, if_pos connected, polled]
  cases command with
  | stop => exact absurd ignored.symm Bool.false_ne_true
  | start other => exact ⟨_, rfl, others, connection, counts⟩
  | unknown raw => exact ⟨_, rfl, others, connection, counts⟩

/-- How a session goes on that has a stop waiting behind `n` commands: either the `n` iterations
they take all go on and the next one stops, or the session ends before for another reason. -/
inductive Honoured (M : Media H S F) (D : Detector H F) (plan : Plan) (n : Nat)
    (r : Running σ S) : Prop
  | stopped {r' : Running σ S} (went : after M D plan n r = some r')
      (steps : r'.counts.framesRead + r'.counts.loopsCompleted =
        r.counts.framesRead + r.counts.loopsCompleted + n)
      (loops : r.counts.loopsCompleted ≤ r'.counts.loopsCompleted)
      (once : plan.start.loop = false → r'.counts.loopsCompleted = r.counts.loopsCompleted)
      (ending : (runFrom M D plan r).1 = .stopped)
      (counts : (runFrom M D plan r).2.counts = r'.counts)
  | ended (broke : after M D plan n r = none) (ending : (runFrom M D plan r).1 ≠ .stopped)
      (frames : (runFrom M D plan r).2.counts.framesRead ≤ r.counts.framesRead + n)

theorem ahead_stop {rest : List Command} (waiting : queued r = .stop :: rest) : ahead r = 0 := by
  rw [ahead, waiting]
  rfl

theorem ahead_ignored {command : Command} {rest : List Command}
    (waiting : queued r = command :: rest) (ignored : command.isStop = false) :
    ahead r = (rest.takeWhile fun command => !command.isStop).length + 1 := by
  rw [ahead, waiting, List.takeWhile_cons_of_pos (by rw [ignored]; rfl), List.length_cons]

/-- One more iteration in front. -/
theorem Honoured.next {n : Nat} {r' : Running σ S} (h : Honoured M D plan n r')
    (went : iterate M D plan r = .goOn r')
    (steps : r'.counts.framesRead + r'.counts.loopsCompleted =
      r.counts.framesRead + r.counts.loopsCompleted + 1)
    (loops : r.counts.loopsCompleted ≤ r'.counts.loopsCompleted)
    (once : plan.start.loop = false → r'.counts.loopsCompleted = r.counts.loopsCompleted) :
    Honoured M D plan (n + 1) r := by
  have same := runFrom_goOn went
  have first := after_goOn went n
  cases h with
  | stopped went steps' loops' once' ending counts =>
    refine .stopped (first.trans went) ?_ (Nat.le_trans loops loops') ?_ ?_ ?_
    · omega
    · exact fun single => (once' single).trans (once single)
    · rw [same, ending]
    · rw [same, counts]
  | ended broke ending frames =>
    refine .ended (first.trans broke) ?_ ?_
    · rw [same]
      exact ending
    · rw [same]
      omega

theorem stop_or_ignored (command : Command) : command = .stop ∨ command.isStop = false := by
  cases command <;> simp [Command.isStop]

theorem honoured {n : Nat} (connected : r.client.isConnected = true) (waits : .stop ∈ queued r)
    (place : ahead r = n) : Honoured M D plan n r := by
  -- an ignored command takes one iteration, and leaves one command less before the stop
  induction n generalizing r with
  | zero =>
    cases waiting : queued r with
    | nil => simp [waiting] at waits
    | cons command rest =>
      rcases stop_or_ignored command with rfl | ignored
      · obtain ⟨r', last, counts⟩ := iterate_stop M D plan connected waiting
        have ends := runFrom_finished last
        exact .stopped rfl rfl (Nat.le_refl _) (fun _ => rfl) (by rw [ends]) (by rw [ends, counts])
      · rw [ahead_ignored waiting ignored] at place
        exact absurd place (Nat.succ_ne_zero _)
  | succ n ih =>
    cases waiting : queued r with
    | nil => simp [waiting] at waits
    | cons command rest =>
      rcases stop_or_ignored command with rfl | ignored
      · rw [ahead_stop waiting] at place
        exact absurd place.symm (Nat.succ_ne_zero n)
      · obtain ⟨heeded, step, others, connected, counts⟩ :=
          iterate_ignored M D plan connected waiting ignored
        have later : .stop ∈ rest := by
          rw [waiting] at waits
          rcases List.mem_cons.mp waits with rfl | later
          · exact absurd ignored.symm Bool.false_ne_true
          · exact later
        rw [ahead_ignored waiting ignored] at place
        have advanced := advanced_pull M D plan heeded
        rw [← step] at advanced
        generalize result : iterate M D plan r = outcome at advanced
        cases advanced with
        | @frame r' channel frames loops =>
          have queue : queued r' = rest := by rw [queued, channel, ← others, queued]
          have rest := ih (by rw [← connected, Client.isConnected, channel, Client.isConnected])
            (queue ▸ later) (by rw [ahead, queue, Nat.add_right_cancel place])
          rw [counts] at frames loops
          exact rest.next result (by omega) (Nat.le_of_eq loops.symm) fun _ => loops
        | @rewound r' channel looping frames loops =>
          have queue : queued r' = rest := by rw [queued, channel, ← others, queued]
          have rest := ih (by rw [← connected, Client.isConnected, channel, Client.isConnected])
            (queue ▸ later) (by rw [ahead, queue, Nat.add_right_cancel place])
          rw [counts] at frames loops
          refine rest.next result (by omega) (by omega) fun single => ?_
          exact absurd (single.symm.trans looping) Bool.false_ne_true
        | ended notStopped frames =>
          rw [counts] at frames
          refine .ended (after_finished result n) ?_ ?_
          · rw [runFrom_finished result]
            exact notStopped
          · rw [runFrom_finished result]
            exact Nat.le_trans frames (by omega)

/-- A session that does not loop honours a stop within one frame only if at most one command stands
before it. -/
theorem ahead_le_one (once : plan.start.loop = false) (connected : r.client.isConnected = true)
    (waits : .stop ∈ queued r) (stopped : (runFrom M D plan r).1 = .stopped)
    (frames : (runFrom M D plan r).2.counts.framesRead ≤ r.counts.framesRead + 1) :
    ahead r ≤ 1 := by
  have split : Honoured M D plan (ahead r) r := honoured connected waits rfl
  cases split with
  | stopped _ steps _ single _ counts =>
    have loops := single once
    rw [counts] at frames
    omega
  | ended _ ending _ => exact absurd stopped ending

/-- A stop that was received before a poll is honoured within one frame exactly when the iterations
that the commands in front of it take all go on, and all of them but at most one only rewind the
source. However that is, at most one frame is read for each of these commands, so a stop that
stands in front of all others is honoured before another frame is read. -/
theorem stop_within_one_frame_iff (connected : r.client.isConnected = true)
    (waits : .stop ∈ queued r) :
    let done := runFrom M D plan r
    ((done.1 = .stopped ∧ done.2.counts.framesRead ≤ r.counts.framesRead + 1) ↔
      ∃ r', after M D plan (ahead r) r = some r' ∧
        ahead r ≤ r'.counts.loopsCompleted - r.counts.loopsCompleted + 1) ∧
    done.2.counts.framesRead ≤ r.counts.framesRead + ahead r ∧
    (ahead r = 0 → done.1 = .stopped ∧ done.2.counts.framesRead = r.counts.framesRead) := by
  intro done
  have split : Honoured M D plan (ahead r) r := honoured connected waits rfl
  cases split with
  | @stopped r' went steps loops once ending counts =>
    have frames : done.2.counts.framesRead = r'.counts.framesRead :=
      congrArg SessionCounts.framesRead counts
    refine ⟨⟨fun ⟨_, few⟩ => ⟨r', went, by omega⟩, fun ⟨_, went', few⟩ => ⟨ending, ?_⟩⟩, by omega,
      fun front => ⟨ending, ?_⟩⟩
    · obtain rfl := Option.some.inj (went.symm.trans went')
      omega
    · rw [front] at went
      rw [frames, Option.some.inj went]
  | ended broke ending frames =>
    refine ⟨⟨fun ⟨stopped, _⟩ => absurd stopped ending, fun ⟨_, went, _⟩ => ?_⟩, frames,
      fun front => ?_⟩
    · rw [broke] at went
      exact absurd went nofun
    · rw [front] at broke
      exact absurd broke nofun

end Frames

/-- A connected client with two unknown commands and a stop in its buffer. -/
def crowdedClient : Client :=
  { connectedClient with
    channel := { connectedClient.channel with
      lines := { connectedClient.channel.lines with
        ready := [.ok (Utf8.ofString "\x7b\x7d"), .ok (Utf8.ofString "\x7b\x7d"),
          .ok (Utf8.ofString "\x7b\"cmd\":\"stop\"\x7d")] } } }

theorem commands_crowdedClient : crowdedClient.channel.lines.ready.filterMap commandOf? =
    [.unknown (.object []), .unknown (.object []), .stop] := by
  with_unfolding_all rfl

/-- A session that begins with it. -/
def crowdedSession : Running Script SyntheticClip :=
  started Script.host .default (planOf .default everySecond none) (.ofFrames defaultClipFrames)
    crowdedClient ⟨[], []⟩

theorem queued_crowdedSession :
    queued crowdedSession = [.unknown (.object []), .unknown (.object []), .stop] :=
  commands_crowdedClient

theorem stop_mem_queued_crowdedSession : .stop ∈ queued crowdedSession := by
  rw [queued_crowdedSession]
  simp

theorem ahead_crowdedSession : ahead crowdedSession = 2 := by
  rw [ahead, queued_crowdedSession]
  rfl

/-- Not every stop is honoured within one frame: two unknown commands before it let two frames
pass. -/
theorem stop_not_within_one_frame :
    ¬ ∀ (settings : SessionSettings) (start : StartCommand) (source : SyntheticClip) (k : Client)
      (w : Script) (r : Running Script SyntheticClip),
      let M : Media Script.host SyntheticClip Nat := SyntheticClip.media Script.host
      let plan := planOf settings start (M.rate source)
      k.channel.Sound → k.isConnected = true →
      Reaches M blindDetector plan (started Script.host settings plan source k w) r →
      .stop ∈ queued r →
      (runFrom M blindDetector plan r).1 = .stopped ∧
        (runFrom M blindDetector plan r).2.counts.framesRead ≤ r.counts.framesRead + 1 := by
  intro claim
  have sound : crowdedClient.channel.Sound := ⟨rfl, rfl, nofun⟩
  obtain ⟨stopped, frames⟩ := claim .default everySecond (.ofFrames defaultClipFrames)
    crowdedClient ⟨[], []⟩ crowdedSession sound rfl .here stop_mem_queued_crowdedSession
  have once : (planOf .default everySecond none).start.loop = false := rfl
  have connected : crowdedSession.client.isConnected = true := rfl
  have few := ahead_le_one once connected stop_mem_queued_crowdedSession stopped frames
  rw [ahead_crowdedSession] at few
  exact absurd few (by decide)

/-- That stop is honoured after at most two frames. -/
theorem stop_within_two_frames_of_crowdedSession :
    (crowdedSession.client.isConnected = true ∧ .stop ∈ queued crowdedSession) ∧
      (runFrom (SyntheticClip.media Script.host) blindDetector (planOf .default everySecond none)
        crowdedSession).2.counts.framesRead ≤ 2 := by
  obtain ⟨_, frames, _⟩ := stop_within_one_frame_iff (M := SyntheticClip.media Script.host)
    (D := blindDetector) (r := crowdedSession) rfl stop_mem_queued_crowdedSession
  rw [ahead_crowdedSession] at frames
  exact ⟨⟨rfl, stop_mem_queued_crowdedSession⟩, frames⟩

end Session
end DetectionLink
