import DetectionLink.Rehearsal.Host
import DetectionLink.Streamer

/-!
# A rehearsed run of the streamer

The streamer run against a scripted supervisor, with what it leaves behind.

* `Round`: what a supervisor sends, and how many lines it waits for before it goes on;
* `Stage.withRounds`, `Stage.withInput`: supervisors that are not scripted by hand;
* `rehearse`: a whole run on a stage.
-/

namespace DetectionLink.Rehearsal

structure Round where
  send : Bytes
  /-- Lines to receive before the next round. -/
  lines : Nat

/-- The deeds of rounds: each round is sent once the lines of those before it are received, and the
supervisor hangs up after the last. -/
def roundCues (received : Nat) : List Round → List (Cue × List Deed)
  | [] => [(.received received, [.close])]
  | round :: rest =>
    (.received received, [.send round.send]) :: roundCues (received + round.lines) rest

namespace Stage

def withRounds (rounds : List Round) (s : Stage) : Stage :=
  { s with cued := s.cued ++ roundCues 0 rounds }

/-- How long a supervisor without rounds stays, in milliseconds. -/
def stay : Nat := 3600000

/-- A supervisor that sends all it has to say at once and stays for an hour. -/
def withInput (input : Bytes) (s : Stage) : Stage :=
  { s with cued := s.cued ++ [(Cue.received 0, [Deed.send input])] }.plan stay [.close]

end Stage

/-- The directories of a user whose account names no home. -/
def directories : UserDirectories := .ofAccount none

/-- What a run leaves behind. -/
structure Rehearsed where
  ended : Except FatalError Unit
  journal : Journal
  /-- All that the supervisor received. -/
  wire : Bytes

/-- Runs the streamer on a stage, with the stage's files, as a user whose account names no home
directory. -/
def rehearse (stamp : String) (env : Environment) (seed : UInt64) (s : Stage) : Rehearsed :=
  let done :=
    Streamer.run host stamp directories s.files s.working env seed fullPatience (ofStage s)
  let stage := done.2.2.stage
  ⟨done.1, stage.records.reverse.foldl (Journal.note stamp) done.2.1, stage.collect.1⟩

end DetectionLink.Rehearsal
