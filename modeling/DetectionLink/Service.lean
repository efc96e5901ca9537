import DetectionLink.Session.Run

/-!
# Serving a supervisor

The outermost loop of a connection: wait for a command, run a session for every start, and go on
until the supervisor goes away. A stop while nothing runs and commands nobody knows are logged and
ignored.

* `Service.serve`: a whole connection with its report.
-/

namespace DetectionLink

/-- Totals over one connection. -/
structure ServiceReport where
  sessions : Nat
  messagesSent : Nat
  unknownCommands : Nat
deriving DecidableEq

namespace Service

variable {σ S F : Type} {H : Host σ} (M : Media H S F) (D : Detector H F)
  (settings : SessionSettings)

/-- The connection between two waits. -/
structure Serving (σ : Type) where
  report : ServiceReport
  client : Client
  world : σ

def startRecord (start : StartCommand) : Record :=
  let interval := match start.frameInterval with
    | some n => s!"Some({n})"
    | none => "None"
  .info (s!"Start: video_path='{start.videoPath}' duration_sec={plain.text start.durationSec} " ++
    s!"fps={plain.text start.fps} loop={start.loop} frame_interval={interval}")

/-- Runs the session of a start command and adds it to the totals. -/
def runSession (start : StartCommand) (s : Serving σ) : Serving σ :=
  let done := Session.run M D settings start s.client (H.note (startRecord start) s.world)
  let report := { s.report with
    sessions := s.report.sessions + 1
    messagesSent := s.report.messagesSent + done.1.messagesSent }
  let finished := s!"Session {report.sessions} finished ({done.1.ending.text}), " ++
    s!"{report.messagesSent} messages total"
  ⟨report, done.2.1, H.note (.info finished) done.2.2⟩

/-- Acts on a command, or on a wait that brought none. -/
def act (event : CommandEvent) (s : Serving σ) : Serving σ :=
  match event with
  | .command (.start start) => runSession M D settings start s
  | .command .stop =>
    { s with world := H.note (.info "Stop received while idle, nothing to do") s.world }
  | .command (.unknown raw) =>
    { s with
      report := { s.report with unknownCommands := s.report.unknownCommands + 1 }
      world := H.note (.warn s!"Unknown command: {raw.text}") s.world }
  | .noCommand =>
    { s with world := H.note (.debug "Command wait returned without a command") s.world }
  | .disconnected => s

theorem act_noMoreLeft (event : CommandEvent) (s : Serving σ) :
    Client.NoMoreLeft H s.client s.world (act M D settings event s).client
      (act M D settings event s).world := by
  unfold act
  split
  · unfold runSession
    simp only
    refine Channel.NoMoreLeft.trans ?_ (Channel.noMoreLeft_of_le _ (H.note_le ..))
    exact Channel.NoMoreLeft.trans (Channel.noMoreLeft_of_le _ (H.note_le ..))
      (Session.run_noMoreLeft M D settings _ s.client _)
  · exact Channel.noMoreLeft_of_le _ (H.note_le ..)
  · exact Channel.noMoreLeft_of_le _ (H.note_le ..)
  · exact Channel.noMoreLeft_of_le _ (H.note_le ..)
  · exact Channel.noMoreLeft_refl _ _

/-- The connection once a wait is over. -/
def waited (H : Host σ) (s : Serving σ) : CommandEvent × Serving σ :=
  let done := s.client.wait H none s.world
  (done.1, { s with client := done.2.1, world := done.2.2 })

/-- A wait that left the channel open has spent something. -/
theorem waited_lessLeft (s : Serving σ) (isOpen : (waited H s).1.isOpen) :
    Client.LessLeft H s.client s.world
      (act M D settings (waited H s).1 (waited H s).2).client
      (act M D settings (waited H s).1 (waited H s).2).world :=
  Channel.LessLeft.trans_noMore (Client.wait_lessLeft (H := H) none s.client s.world isOpen)
    (act_noMoreLeft M D settings (waited H s).1 (waited H s).2)

/-- Waits and acts until the connection is gone. -/
def serveFrom (s : Serving σ) : Serving σ :=
  if s.client.isConnected then
    if isOpen : (waited H s).1.isOpen then
      have _spent := waited_lessLeft M D settings s isOpen
      serveFrom (act M D settings (waited H s).1 (waited H s).2)
    else (waited H s).2
  else s
termination_by (H.budget s.world, s.client.channel.lines.pending)
decreasing_by exact Channel.LessLeft.lex _spent

/-- Serves commands until the supervisor goes away. The channel is closed at the end. -/
def serve (k : Client) (w : σ) : ServiceReport × Client × σ :=
  let done := serveFrom M D settings ⟨⟨0, 0, 0⟩, k, H.note (.info "Waiting for commands") w⟩
  let closed := done.client.close H done.world
  let farewell := s!"Supervisor disconnected after {done.report.sessions} session(s), " ++
    s!"{done.report.messagesSent} messages sent"
  (done.report, closed.1, H.note (.info farewell) closed.2)

end Service
end DetectionLink
