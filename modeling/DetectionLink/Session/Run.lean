import DetectionLink.Link.Client
import DetectionLink.Session.Media
import DetectionLink.Session.Pacing

/-!
# A session

A session starts on a `start` command and streams one message per analysed frame until a stop,
the end of the media or the loss of the connection. Before every frame the channel is polled, so
a stop is honoured within one frame. Every analysed frame makes exactly one message, empty or not.

* `Session.iterate`: one poll and what follows it, up to one frame;
* `Session.run`: a whole session with its report;
* `run_noMoreLeft`: a session restores neither budget nor entries.
-/

namespace DetectionLink

inductive SessionEnd
  /-- The supervisor sent a stop. -/
  | stopped
  /-- The source ran out: not looping, empty after a rewind, or unable to rewind. -/
  | endOfMedia
  /-- The connection is lost. -/
  | disconnected
  /-- The media could not be opened; one empty message was sent. -/
  | mediaUnavailable
deriving DecidableEq

namespace SessionEnd

def text : SessionEnd → String
  | stopped => "stopped"
  | endOfMedia => "end of media"
  | disconnected => "disconnected"
  | mediaUnavailable => "media unavailable"

end SessionEnd

structure SessionCounts where
  framesRead : Nat
  framesAnalyzed : Nat
  messagesSent : Nat
  loopsCompleted : Nat
deriving DecidableEq

structure SessionReport extends SessionCounts where
  ending : SessionEnd
deriving DecidableEq

namespace Session

/-- What stays fixed during a session. -/
structure Plan where
  start : StartCommand
  fps : Binary64
  interval : Nat

/-- A session under way. -/
structure Running (σ S : Type) where
  counts : SessionCounts
  /-- The place of the next frame in the current pass. -/
  index : Nat
  pace : Pace
  source : S
  client : Client
  world : σ

/-- What one step leads to. -/
inductive Step (σ S : Type)
  | goOn (r : Running σ S)
  | finished (ending : SessionEnd) (r : Running σ S)

namespace Step

/-- The session after a step, finished or not. -/
def running {σ S : Type} : Step σ S → Running σ S
  | goOn r => r
  | finished _ r => r

end Step

variable {σ S F : Type} {H : Host σ} (M : Media H S F) (D : Detector H F) (plan : Plan)

/-- Adds a record to the host's log. -/
def Running.note (H : Host σ) (record : Record) (r : Running σ S) : Running σ S :=
  { r with world := H.note record r.world }

/-! ## The parts of an iteration -/

/-- The frame is done: the next one has its turn when the frame's slot ends. -/
def settle (H : Host σ) (r : Running σ S) : Step σ S :=
  let paced := r.pace.frameDone H r.world
  .goOn { r with index := r.index + 1, pace := paced.1, world := paced.2 }

/-- Detects on a frame and sends what was found. -/
def report (frame : F) (r : Running σ S) : Except LinkError Unit × Running σ S :=
  let found := D.detect frame r.world
  let timestamp := frameTimestampMs (M.position r.source) r.index plan.fps
  let sent := r.client.sendDetections H timestamp found.1 found.2
  let counts := { r.counts with framesAnalyzed := r.counts.framesAnalyzed + 1 }
  (sent.1, { r with counts, client := sent.2.1, world := sent.2.2 })

/-- Goes on after a frame was reported. Detections that make no message are skipped; a message
that could not be sent ends the session. -/
def conclude (H : Host σ) (outcome : Except LinkError Unit) (r : Running σ S) : Step σ S :=
  match outcome with
  | .ok () =>
    settle H
      { r with counts := { r.counts with messagesSent := r.counts.messagesSent + 1 } }
  | .error e =>
    if e.isDisconnect then
      .finished .disconnected
        (r.note H (.error s!"Failed to send detections, ending session: {e.text H.wording}"))
    else
      settle H (r.note H (.warn s!"Skipping detections for frame {r.index}: {e.text H.wording}"))

/-- An analysed frame, from its detections to the end of its slot. -/
def analyze (frame : F) (r : Running σ S) : Step σ S :=
  let reported := report M D plan frame r
  conclude H reported.1 reported.2

/-- The source is at its end: a looping session goes back to the start, unless the pass was empty
or the source cannot. -/
def atEnd (r : Running σ S) : Step σ S :=
  if !plan.start.loop then .finished .endOfMedia r
  else if r.index = 0 then
    .finished .endOfMedia
      (r.note H (.warn s!"Source '{plan.start.videoPath}' has no frames, ending session"))
  else
    let rewound := M.rewind r.source r.world
    let r := { r with source := rewound.2.1, world := rewound.2.2 }
    match rewound.1 with
    | .error e =>
      .finished .endOfMedia
        (r.note H (.warn s!"Cannot loop '{plan.start.videoPath}': {e.text H.wording}"))
    | .ok () =>
      let loops := r.counts.loopsCompleted + 1
      .goOn (({ r with index := 0, counts := { r.counts with loopsCompleted := loops } }).note H
        (.debug s!"Rewound '{plan.start.videoPath}' (loop {loops})"))

/-- Takes the next frame. -/
def pull (r : Running σ S) : Step σ S :=
  let pulled := M.next r.source r.world
  let r := { r with source := pulled.2.1, world := pulled.2.2 }
  match pulled.1 with
  | none => atEnd M plan r
  | some frame =>
    let r := { r with counts := { r.counts with framesRead := r.counts.framesRead + 1 } }
    if shouldAnalyze r.index plan.interval then analyze M D plan frame r
    else settle H r

/-- Acts on what a poll brought. Only a stop and a lost connection end the session; another start
is refused and anything unknown ignored. -/
def heed (event : CommandEvent) (r : Running σ S) : Step σ S :=
  match event with
  | .command .stop => .finished .stopped (r.note H (.info "Stop received during processing"))
  | .command (.start other) =>
    pull M D plan (r.note H
      (.warn s!"Ignoring start for '{other.videoPath}': a session is already running"))
  | .command (.unknown raw) =>
    pull M D plan (r.note H
      (.warn s!"Ignoring unknown command during processing: {raw.text}"))
  | .noCommand => pull M D plan r
  | .disconnected => .finished .disconnected r

/-- The session once a poll has been made. -/
def polled (H : Host σ) (r : Running σ S) : CommandEvent × Running σ S :=
  let done := r.client.poll H r.world
  (done.1, { r with client := done.2.1, world := done.2.2 })

/-- One poll and what follows it. -/
def iterate (r : Running σ S) : Step σ S :=
  if r.client.isConnected then heed M D plan (polled H r).1 (polled H r).2
  else .finished .disconnected r

/-! ## Progress -/

/-- `Client.NoMoreLeft` of two states of a session. -/
def NoMoreLeft (H : Host σ) (r r' : Running σ S) : Prop :=
  Client.NoMoreLeft H r.client r.world r'.client r'.world

/-- `Client.LessLeft` of two states of a session. -/
def LessLeft (H : Host σ) (r r' : Running σ S) : Prop :=
  Client.LessLeft H r.client r.world r'.client r'.world

theorem noMoreLeft_refl (r : Running σ S) : NoMoreLeft H r r :=
  Channel.noMoreLeft_refl r.client.channel r.world

theorem noMoreLeft_trans {a b c : Running σ S} (h : NoMoreLeft H a b) (k : NoMoreLeft H b c) :
    NoMoreLeft H a c :=
  Channel.NoMoreLeft.trans h k

/-- A step that leaves the client alone. -/
theorem noMoreLeft_of_le {a b : Running σ S} (client : b.client = a.client)
    (h : H.budget b.world ≤ H.budget a.world) : NoMoreLeft H a b := by
  unfold NoMoreLeft Client.NoMoreLeft
  rw [client]
  exact Channel.noMoreLeft_of_le _ h

theorem note_noMoreLeft (record : Record) (r : Running σ S) : NoMoreLeft H r (r.note H record) :=
  noMoreLeft_of_le rfl (H.note_le ..)

theorem settle_noMoreLeft (r : Running σ S) : NoMoreLeft H r (settle H r).running :=
  noMoreLeft_of_le rfl (Pace.frameDone_le H ..)

theorem report_noMoreLeft (frame : F) (r : Running σ S) :
    NoMoreLeft H r (report M D plan frame r).2 :=
  noMoreLeft_trans
    (b := { r with world := (D.detect frame r.world).2 })
    (noMoreLeft_of_le rfl (D.detect_le frame r.world))
    (Client.sendDetections_noMoreLeft (H := H) _ _ r.client _)

theorem conclude_noMoreLeft (outcome : Except LinkError Unit) (r : Running σ S) :
    NoMoreLeft H r (conclude H outcome r).running := by
  unfold conclude
  split
  · exact noMoreLeft_trans (noMoreLeft_of_le rfl (Nat.le_refl _)) (settle_noMoreLeft _)
  · split
    · exact note_noMoreLeft _ r
    · exact noMoreLeft_trans (note_noMoreLeft _ r) (settle_noMoreLeft _)

theorem analyze_noMoreLeft (frame : F) (r : Running σ S) :
    NoMoreLeft H r (analyze M D plan frame r).running :=
  noMoreLeft_trans (report_noMoreLeft M D plan frame r) (conclude_noMoreLeft _ _)

theorem atEnd_noMoreLeft (r : Running σ S) : NoMoreLeft H r (atEnd M plan r).running := by
  have rewound : NoMoreLeft H r
      { r with
        source := (M.rewind r.source r.world).2.1
        world := (M.rewind r.source r.world).2.2 } :=
    noMoreLeft_of_le rfl (M.rewind_le r.source r.world)
  unfold atEnd
  split
  · exact noMoreLeft_refl r
  · split
    · exact note_noMoreLeft _ r
    · dsimp only
      split
      · exact noMoreLeft_trans rewound (note_noMoreLeft _ _)
      · exact noMoreLeft_trans rewound (noMoreLeft_of_le rfl (H.note_le ..))

theorem pull_noMoreLeft (r : Running σ S) : NoMoreLeft H r (pull M D plan r).running := by
  have pulled : NoMoreLeft H r
      { r with source := (M.next r.source r.world).2.1, world := (M.next r.source r.world).2.2 } :=
    noMoreLeft_of_le rfl (M.next_le r.source r.world)
  unfold pull
  dsimp only
  split
  · exact noMoreLeft_trans pulled (atEnd_noMoreLeft M plan _)
  · split
    · exact noMoreLeft_trans pulled (analyze_noMoreLeft M D plan _ _)
    · exact noMoreLeft_trans pulled (settle_noMoreLeft _)

theorem heed_noMoreLeft (event : CommandEvent) (r : Running σ S) :
    NoMoreLeft H r (heed M D plan event r).running := by
  unfold heed
  split
  · exact note_noMoreLeft _ r
  · exact noMoreLeft_trans (note_noMoreLeft _ r) (pull_noMoreLeft M D plan _)
  · exact noMoreLeft_trans (note_noMoreLeft _ r) (pull_noMoreLeft M D plan _)
  · exact pull_noMoreLeft M D plan r
  · exact noMoreLeft_refl r

theorem iterate_noMoreLeft (r : Running σ S) :
    NoMoreLeft H r (iterate M D plan r).running := by
  unfold iterate
  split
  · exact noMoreLeft_trans (b := (polled H r).2)
      (Client.wait_noMoreLeft (H := H) _ r.client r.world) (heed_noMoreLeft M D plan _ _)
  · exact noMoreLeft_refl r

/-- An iteration that does not end the session has spent something: its poll left the channel
open. -/
theorem iterate_lessLeft {r r' : Running σ S} (h : iterate M D plan r = .goOn r') :
    LessLeft H r r' := by
  unfold iterate at h
  split at h
  · have rest := heed_noMoreLeft M D plan (polled H r).1 (polled H r).2
    have isOpen : (r.client.poll H r.world).1.isOpen := by
      cases e : (r.client.poll H r.world).1 with
      | disconnected => simp [polled, heed, e] at h
      | command command => rfl
      | noCommand => rfl
    rw [h] at rest
    exact Channel.LessLeft.trans_noMore
      (Client.wait_lessLeft (H := H) _ r.client r.world isOpen) rest
  · simp at h

/-! ## Whole sessions -/

/-- Iterates until the session ends. -/
def runFrom (r : Running σ S) : SessionEnd × Running σ S :=
  match h : iterate M D plan r with
  | .finished ending r' => (ending, r')
  | .goOn r' =>
    have _spent := iterate_lessLeft M D plan h
    runFrom r'
termination_by (H.budget r.world, r.client.channel.lines.pending)
decreasing_by exact Channel.LessLeft.lex _spent

def noCounts : SessionCounts := ⟨0, 0, 0, 0⟩

def unavailableRecord (W : Wording) (start : StartCommand) (e : MediaError) : Record :=
  .error s!"Cannot open video source '{start.videoPath}': {e.text W}"

/-- The session whose media cannot be opened: the supervisor is told by one empty message. -/
def unavailable (H : Host σ) (start : StartCommand) (e : MediaError) (k : Client) (w : σ) :
    SessionReport × Client × σ :=
  let sent := k.sendDetections H 0 []
    (H.note (unavailableRecord H.wording start e) w)
  match sent.1 with
  | .ok () => (⟨{ noCounts with messagesSent := 1 }, .mediaUnavailable⟩, sent.2)
  | .error e =>
    (⟨noCounts, .disconnected⟩, sent.2.1,
      H.note (.warn s!"Failed to report unavailable media: {e.text H.wording}") sent.2.2)

def startedRecord (settings : SessionSettings) (plan : Plan) : Record :=
  .info (s!"Session started: {plan.start.videoPath} @ {twoPlaces plan.fps} fps, " ++
    s!"every {plan.interval} frame(s), loop={plan.start.loop}, realtime={settings.realtime}")

def endedRecord (report : SessionReport) : Record :=
  .info (s!"Session ended ({report.ending.text}): {report.framesRead} frames read, " ++
    s!"{report.framesAnalyzed} analyzed, {report.messagesSent} messages sent, " ++
    s!"{report.loopsCompleted} loop(s)")

/-- The plan of a session on a source of the given rate. -/
def planOf (settings : SessionSettings) (start : StartCommand) (rate : Option Binary64) : Plan where
  start := start
  fps := effectiveFps rate start.fps settings.defaultFps
  interval := start.intervalOr settings.defaultFrameInterval

/-- A session on an open source. -/
def runSource (settings : SessionSettings) (start : StartCommand) (source : S) (k : Client)
    (w : σ) : SessionReport × Client × σ :=
  let plan := planOf settings start (M.rate source)
  let pace := Pace.start H plan.fps settings.realtime w
  let done := runFrom M D plan {
    counts := noCounts
    index := 0
    pace
    source
    client := k
    world := H.note (startedRecord settings plan) w }
  let report : SessionReport := ⟨done.2.counts, done.1⟩
  (report, done.2.client, H.note (endedRecord report) done.2.world)

/-- A whole session. -/
def run (settings : SessionSettings) (start : StartCommand) (k : Client) (w : σ) :
    SessionReport × Client × σ :=
  let opened := M.opening start w
  match opened.1 with
  | .ok source => runSource M D settings start source k opened.2
  | .error e => unavailable H start e k opened.2

theorem runFrom_noMoreLeft (r : Running σ S) : NoMoreLeft H r (runFrom M D plan r).2 := by
  induction r using runFrom.induct M D plan with
  | case1 r ending r' h =>
    rw [runFrom.eq_def]
    have step := iterate_noMoreLeft M D plan r
    rw [h] at step
    split
    · simp_all [Step.running]
    · simp_all
  | case2 r r' h spent ih =>
    rw [runFrom.eq_def]
    split
    · simp_all
    · next r'' h' =>
      obtain rfl : r' = r'' := by simpa [h] using h'
      exact Channel.NoMoreLeft.trans (Channel.LessLeft.noMore spent) ih

theorem run_noMoreLeft (settings : SessionSettings) (start : StartCommand) (k : Client) (w : σ) :
    Client.NoMoreLeft H k w (run M D settings start k w).2.1
      (run M D settings start k w).2.2 := by
  have opened := M.opening_le start w
  unfold run
  simp only
  split
  · unfold runSource
    simp only
    refine Channel.NoMoreLeft.trans ?_ (Channel.noMoreLeft_of_le _ (H.note_le ..))
    exact Channel.NoMoreLeft.trans
      (Channel.noMoreLeft_of_le _ (Nat.le_trans (H.note_le ..) opened))
      (runFrom_noMoreLeft M D _ _)
  · unfold unavailable
    simp only
    have sent := Channel.NoMoreLeft.trans
      (Channel.noMoreLeft_of_le k.channel (Nat.le_trans
        (H.note_le (unavailableRecord H.wording start ‹MediaError›) _) opened))
      (Client.sendDetections_noMoreLeft (H := H) 0 [] k _)
    split
    · exact sent
    · exact Channel.NoMoreLeft.trans sent (Channel.noMoreLeft_of_le _ (H.note_le ..))

end Session
end DetectionLink
