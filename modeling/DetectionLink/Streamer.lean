import DetectionLink.Journal
import DetectionLink.Service
import DetectionLink.Settings.Startup
import DetectionLink.Simulation.Clip
import DetectionLink.Simulation.Detections

/-!
# The streamer

The whole program: it sets up its log, takes its settings from the environment, connects to the
supervisor and serves it with synthetic clips and simulated detections until it goes away.

* `Streamer.stream`: from the settings to the end of the connection;
* `Streamer.run`: a whole run;
* `Streamer.farewell`: what a failed run leaves on standard error.
-/

namespace DetectionLink.Streamer

variable {σ : Type} (H : Host σ)

def finishedRecord (report : ServiceReport) : Record :=
  .info (s!"Streamer finished: {report.sessions} session(s), " ++
    s!"{report.messagesSent} detection messages, {report.unknownCommands} unknown command(s)")

/-- Serves a connected client. -/
def serveClient (settings : Settings) (seed : UInt64) (patience : Nat) (k : Client) (w : σ) : σ :=
  let served := Service.serve (SyntheticClip.media H)
    (SimulatedDetector.detector H ⟨seed, settings.detector.confidenceThreshold, patience⟩)
    settings.session k w
  H.note (finishedRecord served.1) served.2.2

/-- Connects and serves. Settings that were validated have a channel. -/
def stream (settings : Settings) (seed : UInt64) (patience : Nat) (w : σ) :
    Except FatalError Unit × σ :=
  match ChannelConfig.ofSettings settings.link with
  | .error fault => (.error (Journal.setupFault fault.text), w)
  | .ok config =>
    let connected := (Client.ofConfig config settings.link.pollTimeout).connect H w
    match connected.1 with
    | .error e =>
      (.error (.ofClient H.wording (.link e)), (connected.2.1.close H connected.2.2).2)
    | .ok () => (.ok (), serveClient H settings seed patience connected.2.1 connected.2.2)

/-- The fault of a process that can open no more files. -/
def noRuntime : FatalError :=
  Journal.setupFault s!"Failed to build async runtime: {FileFault.tooManyOpen.text}"

/-- From the environment to the end of the connection. -/
def start (D : UserDirectories) (f : Files) (working : Place) (env : Environment)
    (seed : UInt64) (patience : Nat) (w : σ) : Except FatalError Unit × σ :=
  match Settings.fromEnvironment H.wording D f working env with
  | .error unsettable => (.error (.crash unsettable.text), w)
  | .ok startup =>
    let w := H.noteAll startup.records w
    match startup.outcome with
    | .error e => (.error (.ofClient H.wording (.settings e)), w)
    | .ok settings =>
      if f.canOpen then stream H settings seed patience w else (.error noRuntime, w)

/-- A failure ends up in the log, unless the process was stopped before. -/
def report (ended : Except FatalError Unit × σ) : Except FatalError Unit × σ :=
  match ended.1 with
  | .ok () | .error (.crash _) => ended
  | .error e => (ended.1, H.note (.error (e.text H.wording)) ended.2)

/-- A whole run: how it ended, the journal as it was set up, and the host with the records for
it. -/
def run (stamp : String) (D : UserDirectories) (f : Files) (working : Place) (env : Environment)
    (seed : UInt64) (patience : Nat) (w : σ) : Except FatalError Unit × Journal × σ :=
  let directory := Journal.directory D env
  let opened := (Journal.ofFiles f).setUp stamp working env directory
  match opened.1 with
  | .error e => (.error e, opened.2, H.note (.error (e.text H.wording)) w)
  | .ok () =>
    let w := H.note (.info s!"Detection streamer starting, logs in {Utf8.display directory}") w
    let ended := report H (start H D opened.2.files working env seed patience w)
    (ended.1, opened.2, ended.2)

/-- What a run leaves on standard error. -/
def farewell (W : Wording) : Except FatalError Unit → String
  | .ok () => ""
  | .error (.crash message) => s!"{message}\n"
  | .error e => s!"detection-streamer: {e.text W}\n"

/-- The exit code of a run. -/
def exitCode : Except FatalError Unit → Nat
  | .ok () => 0
  | .error (.crash _) => 101
  | .error _ => 1

end DetectionLink.Streamer
