import DetectionLink.Rehearsal.Program

/-!
# The command line

Runs the streamer against a supervisor that speaks through the standard streams: its commands are
read from standard input, and the lines it receives go to standard output. The settings and the
environment are those of the process; the console log goes to standard error, the file log where
the environment says. The clock is that of a rehearsal, so nothing is waited for.
-/

namespace DetectionLink.CommandLine

/-- The variables that the program looks at. -/
def watchedVariables : List String :=
  [Variable.config, Variable.socketPath, Variable.realtime, Variable.confidenceThreshold,
    Variable.logDirectory, Variable.logLevel, "HOME", "XDG_CONFIG_HOME", "XDG_DATA_HOME", "TMPDIR"]

def readEnvironment : IO Environment := do
  let read ← watchedVariables.mapM fun name => do
    pure ((← IO.getEnv name).map fun value => (name, Utf8.ofString value))
  pure (read.filterMap id)

/-- Takes in what stands at a path, if anything does. -/
def takeIn (working : Place) (files : Files) (path : Bytes) : IO Files := do
  let text := Utf8.display path
  match files.locate working path with
  | .error _ => pure files
  | .ok place =>
    try
      let content ← IO.FS.readBinFile text
      pure (files.put place (.file content.toList))
    catch _ => pure files

/-- The files a run looks at: those of variables, the settings and the log. -/
def readFiles (working : Place) (env : Environment) : IO Files := do
  let directories := (List.range (working.length + 1)).map working.take
  let known := directories.foldl (fun f place => f.put place .directory) Files.empty
  let variableFiles := directories.map fun place =>
    Path.join (place.flatMap fun name => Path.slash :: name) DotFile.fileName
  let known ← variableFiles.foldlM (takeIn []) known
  match Settings.loadVariables known working env with
  | .ok taken =>
    (Settings.path? Rehearsal.directories taken.1).toList.foldlM (takeIn working) known
  | .error _ => pure known

/-- The socket of the settings, or a place of no consequence when there are none. -/
def socketPlace (files : Files) (working : Place) (env : Environment) : Place :=
  match Settings.fromEnvironment Rehearsal.wording Rehearsal.directories files working env with
  | .ok ⟨.ok settings, _, _⟩ => ((files.locate working settings.link.socketPath).toOption).getD []
  | .ok _ | .error _ => []

/-- A stage whose socket stands where the settings say. -/
def stageOf (files : Files) (working socket : Place) (input : Bytes) : Rehearsal.Stage :=
  (Rehearsal.Stage.initial files working socket (socket ≠ [])).withInput input

def readInput : IO Bytes := do
  let stream ← IO.getStdin
  let content ← stream.readToEnd
  pure (Utf8.ofString content)

/-- Adds what the run wrote to the log file. -/
def writeLog (journal : Journal) : IO Unit := do
  match journal.sink with
  | .installed _ place =>
    match journal.files.node? place with
    | some (.file content) =>
      let path := Utf8.display (place.flatMap fun name => Path.slash :: name)
      let directory := Utf8.display (place.dropLast.flatMap fun name => Path.slash :: name)
      IO.FS.createDirAll directory
      let handle ← IO.FS.Handle.mk path IO.FS.Mode.append
      handle.putStr (Utf8.display content)
    | _ => pure ()
  | .nowhere | .foreign => pure ()

def stamp : String := "1970-01-01T00:00:00.000Z"

/-- The seed of the simulated detections. -/
def seed : UInt64 := 0

def run : IO UInt32 := do
  let env ← readEnvironment
  let directory ← IO.currentDir
  let working := (Path.names (Utf8.ofString directory.toString)).filter (· ≠ [])
  let files ← readFiles working env
  let stage := stageOf files working (socketPlace files working env) (← readInput)
  let done := Rehearsal.rehearse stamp env seed stage
  for r in done.journal.console.reverse do
    IO.eprintln r.consoleText
  IO.eprint (Streamer.farewell Rehearsal.wording done.ended)
  IO.print (Utf8.display done.wire)
  writeLog done.journal
  pure (Streamer.exitCode done.ended).toUInt32

end DetectionLink.CommandLine

def main : IO UInt32 := DetectionLink.CommandLine.run
