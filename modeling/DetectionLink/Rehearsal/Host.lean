import DetectionLink.Rehearsal.Stage

/-!
# A rehearsal stage as a host

The stage answers like the sockets and the clock of a real system. Patience bounds how often it
can still be read from or asked to try again.

* `Rehearsal.host`: the host;
* `Stage.attempt`, `Stage.read`, `Stage.write`: what its operations do.
-/

namespace DetectionLink.Rehearsal

namespace Stage

/-- The first whole millisecond that is not before an instant. -/
def millisOf (t : Instant) : Nat :=
  (t.nanos + (Duration.nanosPerMilli - 1)) / Duration.nanosPerMilli

def instant (s : Stage) : Instant := ⟨Duration.nanosPerMilli * s.now⟩

/-- The first length of time that a timer cannot be set for: `2 ^ 63` seconds. -/
def timerLimit : Duration := ⟨Duration.nanosPerSecond * 0x8000000000000000⟩

/-- What a timer is set for instead: thirty years of 365 days. -/
def longestTimer : Duration := ⟨Duration.nanosPerSecond * (86400 * 365 * 30)⟩

def timerFor (d : Duration) : Duration := if d.nanos < timerLimit.nanos then d else longestTimer

/-- The millisecond in which a timer that is set now goes off. -/
def timeAfter (d : Duration) (s : Stage) : Nat := millisOf (s.instant.after (timerFor d))

def note (r : Record) (s : Stage) : Stage := { s with records := r :: s.records }

def sleep (d : Duration) (s : Stage) : Stage := s.advance (s.timeAfter d)

/-! ## Connecting -/

/-- A socket address holds paths below this length. -/
def addressLength : Nat := 108

/-- What a connection attempt finds at a path, the stream aside. A path ends at a zero byte, and
one that starts with it names no file at all. -/
def target (path : Bytes) (s : Stage) : AttemptOutcome :=
  match path with
  | [] => .failed "Invalid argument (os error 22)"
  | 0 :: _ => if addressLength < path.length then tooLong else .refused
  | _ =>
    if addressLength ≤ path.length then tooLong
    else
      match s.files.lookup s.working (path.takeWhile (· ≠ 0)) with
      | .ok (.socket true) => .opened s.upcoming
      | .ok _ => .refused
      | .error .missing => .notFound
      | .error e => .failed e.text
where
  tooLong : AttemptOutcome := .failed "path must be shorter than SUN_LEN"

def attempt (path : Bytes) (s : Stage) : AttemptOutcome × Stage :=
  match s.target path with
  | .opened handle =>
    let accepted :=
      { s with connection := some (.ofHandle handle), upcoming := s.upcoming + 1 }
    (.opened handle, accepted.cue (.received s.received))
  | other => (other, s)

/-! ## Reading and writing -/

/-- The first bytes of what waits, as one read delivers them. -/
def chunk? (bytes : Bytes) : Option Chunk :=
  match h : bytes with
  | [] => none
  | b :: rest => some {
      bytes := (b :: rest).take readSize
      ne_nil := by simp [readSize]
      length_le := List.length_take_le readSize (b :: rest) }

/-- What a read answers now. -/
def readNow (handle : Nat) (s : Stage) : ReadOutcome × Stage :=
  match s.connection? handle with
  | none => (.ended, s)
  | some c =>
    match chunk? c.inbound with
    | some chunk =>
      (.chunk chunk, { s with connection := some { c with inbound := c.inbound.drop readSize } })
    | none =>
      if c.reset then
        (.failed "Connection reset by peer (os error 104)",
          { s with connection := some { c with reset := false } })
      else if !c.sending then (.ended, s)
      else (.expired, s)

def read (handle : Nat) (deadline : Option Instant) (s : Stage) : ReadOutcome × Stage :=
  (s.await (readable handle) (deadline.map millisOf)).readNow handle

/-- What a write does right now: the bytes that go out, none when nobody is there, and the stage
with them. -/
def writeSome (handle : Nat) (bytes : Bytes) (s : Stage) : Option Nat × Stage :=
  match s.connection? handle with
  | none => (none, s)
  | some c =>
    if !c.isOpen then (none, s)
    else
      let out := bytes.take (writeCapacity - c.outbound.size)
      (some out.length, { s with connection := some { c with outbound := c.outbound.push out } })

/-- The stage once a whole line has been written. -/
def lineWritten (s : Stage) : Stage :=
  let counted := { s with received := s.received + 1 }
  counted.cue (.received counted.received)

/-- Writes on whenever the supervisor takes what was written, until all is out, nobody is there or
the deadline has passed. -/
def writeWith (handle deadline written : Nat) (bytes : Bytes) (s : Stage)
    (planned : List (Nat × List Deed)) : WriteOutcome × Stage :=
  match s.writeSome handle bytes with
  | (none, s) => (.failed written "Broken pipe (os error 32)", { s with timed := planned })
  | (some out, s) =>
    if out = bytes.length then (.complete, { s with timed := planned }.lineWritten)
    else
      match planned with
      | [] => (.expired (written + out), { s with timed := [], now := max s.now deadline })
      | (time, deeds) :: rest =>
        if time < deadline then
          ({ s with now := max s.now time }.act deeds).writeWith handle deadline (written + out)
            (bytes.drop out) rest
        else
          (.expired (written + out), { s with timed := planned, now := max s.now deadline })

def write (handle : Nat) (bytes : Bytes) (timeout : Duration) (s : Stage) :
    WriteOutcome × Stage :=
  s.writeWith handle (s.timeAfter timeout) 0 bytes s.timed

def release (handle : Nat) (s : Stage) : Stage :=
  s.updateConnection fun c => if c.handle = handle then { c with clientOpen := false } else c

end Stage
end Rehearsal

/-- A stage and how often it can still be read from or asked to try again. -/
structure Rehearsal where
  stage : Rehearsal.Stage
  patience : Nat

namespace Rehearsal

/-- More than any rehearsal needs. -/
def fullPatience : Nat := 0x1000000

def ofStage (stage : Stage) : Rehearsal := ⟨stage, fullPatience⟩

/-- An operation that costs no patience. -/
def onStage (change : Stage → Stage) (r : Rehearsal) : Rehearsal :=
  { r with stage := change r.stage }

/-- An operation with an answer that costs no patience. -/
def askStage {α : Type} (ask : Stage → α × Stage) (r : Rehearsal) : α × Rehearsal :=
  ((ask r.stage).1, { r with stage := (ask r.stage).2 })

/-- A read costs patience; without any left a connection has ended. -/
def read (handle : Nat) (deadline : Option Instant) (r : Rehearsal) : ReadOutcome × Rehearsal :=
  match r.patience with
  | 0 => (.ended, r)
  | n + 1 => ((r.stage.read handle deadline).1, ⟨(r.stage.read handle deadline).2, n⟩)

/-- Another attempt costs patience. Attempts themselves take the least time there is, so that an
interval as long as the time allowed leaves no second one. -/
def pause (interval timeout : Duration) (r : Rehearsal) : Option Duration × Rehearsal :=
  match r.patience with
  | 0 => (none, r)
  | n + 1 => (Host.constantPause ⟨1⟩ interval timeout ⟨0, by decide⟩, { r with patience := n })

theorem read_le (handle : Nat) (deadline : Option Instant) (r : Rehearsal) :
    (r.read handle deadline).2.patience ≤ r.patience := by
  unfold read; split <;> simp_all

theorem read_lt (handle : Nat) (deadline : Option Instant) (r : Rehearsal)
    (isOpen : (r.read handle deadline).1.isOpen) :
    (r.read handle deadline).2.patience < r.patience := by
  unfold read at isOpen ⊢
  split
  · simp_all [ReadOutcome.isOpen]
  · simp_all

theorem pause_le (interval timeout : Duration) (r : Rehearsal) :
    (r.pause interval timeout).2.patience ≤ r.patience := by
  unfold pause; split <;> simp_all

theorem pause_lt (interval timeout : Duration) (r : Rehearsal)
    (again : (r.pause interval timeout).1.isSome) :
    (r.pause interval timeout).2.patience < r.patience := by
  unfold pause at again ⊢
  split
  · simp_all
  · simp_all

/-- What other libraries say is masked, so that two rehearsals can be compared. -/
def wording : Wording := ⟨fun _ => "<json>", fun _ => "<toml>", "[LOC]"⟩

def host : Host Rehearsal where
  wording := wording
  now r := r.stage.instant
  sleep d := onStage (·.sleep d)
  note record := onStage (·.note record)
  attempt path _ := askStage (·.attempt path)
  pause := pause
  read := read
  write handle bytes timeout := askStage (·.write handle bytes timeout)
  release handle := onStage (·.release handle)
  budget := patience
  sleep_le _ _ := Nat.le_refl _
  note_le _ _ := Nat.le_refl _
  attempt_le _ _ _ := Nat.le_refl _
  pause_le := pause_le
  pause_lt := pause_lt
  read_le := read_le
  read_lt := read_lt
  write_le _ _ _ _ := Nat.le_refl _
  release_le _ _ := Nat.le_refl _

end Rehearsal
end DetectionLink
