import DetectionLink.Error
import DetectionLink.Record

/-!
# Lines of the supervisor's stream

Bytes arrive in chunks cut anywhere. The buffer holds back the unfinished line and queues every
finished one without its terminator. A line longer than the limit is dropped as a whole and
leaves one report in its place, so that no peer can make the buffer grow.

* `LineBuffer.absorb`: the effect of a chunk;
* `LineBuffer.next?`: the oldest entry;
* `LineBuffer.clear`: an empty buffer of the same limit.
-/

namespace DetectionLink

def lineTerminator : UInt8 := 10

/-- A line, or the report of one that was dropped. -/
abbrev LineEntry := Except LinkError Bytes

/-- The report of a line that is longer than the limit. -/
def oversizedLine (limit : Nat) : LinkError :=
  .raised .frame s!"Line exceeds {limit} bytes and was discarded"

structure LineBuffer where
  /-- The longest line that is kept, at least one byte. -/
  limit : Nat
  /-- The bytes after the last terminator. -/
  held : Bytes
  /-- Entries not yet taken, oldest first. -/
  ready : List LineEntry
  /-- Inside a dropped line: its remaining bytes go too. -/
  discarding : Bool

namespace LineBuffer

def ofLimit (limit : Nat) : LineBuffer := ⟨max limit 1, [], [], false⟩

def clear (b : LineBuffer) : LineBuffer := { b with held := [], ready := [], discarding := false }

/-- Entries waiting to be taken. -/
def pending (b : LineBuffer) : Nat := b.ready.length

/-- Bytes of the unfinished line that are held back. -/
def heldBytes (b : LineBuffer) : Nat := b.held.length

/-- The oldest entry and the buffer without it. -/
def next? (b : LineBuffer) : Option (LineEntry × LineBuffer) :=
  match b.ready with
  | [] => none
  | entry :: rest => some (entry, { b with ready := rest })

/-! ## Absorbing a chunk -/

/-- A chunk being scanned: the buffer's state, and what the chunk completed so far. -/
structure Scan where
  held : Bytes
  discarding : Bool
  /-- Entries completed, latest first. -/
  completed : List LineEntry
  /-- For every dropped line the bytes gathered when it was dropped, latest first. -/
  dropped : List Nat

namespace Scan

/-- A line is too long: it is reported and what is held of it goes. -/
def drop (limit length : Nat) (discarding : Bool) (s : Scan) : Scan where
  held := []
  discarding := discarding
  completed := .error (oversizedLine limit) :: s.completed
  dropped := length :: s.dropped

/-- A terminator after `segment`: the line ends, or the dropped line does. -/
def endLine (limit : Nat) (segment : Bytes) (s : Scan) : Scan :=
  if s.discarding then { s with discarding := false }
  else
    let line := s.held ++ segment
    if limit < line.length then s.drop limit line.length false
    else { s with held := [], completed := .ok line :: s.completed }

/-- The end of the chunk after `segment`, which no terminator followed. -/
def endChunk (limit : Nat) (segment : Bytes) (s : Scan) : Scan :=
  if s.discarding then s
  else
    let line := s.held ++ segment
    if limit < line.length then s.drop limit line.length true
    else { s with held := line }

/-- Scans the rest of a chunk; `segment` is what came since the last terminator, latest first. -/
def run (limit : Nat) (s : Scan) (segment : Bytes) : Bytes → Scan
  | [] => s.endChunk limit segment.reverse
  | b :: rest =>
    if b = lineTerminator then (s.endLine limit segment.reverse).run limit [] rest
    else s.run limit (b :: segment) rest

end Scan

def scan (b : LineBuffer) (chunk : Bytes) : Scan :=
  Scan.run b.limit ⟨b.held, b.discarding, [], []⟩ [] chunk

/-- The buffer after a scan of a chunk. -/
def ofScan (b : LineBuffer) (s : Scan) : LineBuffer :=
  { b with held := s.held, discarding := s.discarding, ready := b.ready ++ s.completed.reverse }

/-- The log records of a scan: the dropped lines, then what the chunk brought. -/
def scanRecords (b : LineBuffer) (size : Nat) (s : Scan) : List Record :=
  s.dropped.reverse.map (fun length =>
    Record.warn s!"Discarding inbound line of {length}+ bytes (limit {b.limit})")
  ++ [Record.trace (s!"Fed {size} bytes, {s.completed.length} line(s) ready, " ++
    s!"{s.held.length} byte(s) pending")]

/-- The buffer after a chunk, and the log records of it. -/
def absorb (b : LineBuffer) (chunk : Bytes) : LineBuffer × List Record :=
  let s := b.scan chunk
  (b.ofScan s, b.scanRecords chunk.length s)

/-- How many entries a chunk completes. -/
def completedBy (b : LineBuffer) (chunk : Bytes) : Nat := (b.absorb chunk).1.pending - b.pending

/-! ## Small facts -/

theorem pending_of_next? {b b' : LineBuffer} {entry : LineEntry}
    (h : b.next? = some (entry, b')) : b'.pending + 1 = b.pending := by
  cases hr : b.ready with
  | nil => simp [next?, hr] at h
  | cons e rest =>
    simp only [next?, hr, Option.some.injEq, Prod.mk.injEq] at h
    obtain ⟨_, rfl⟩ := h
    simp [pending, hr]

theorem limit_of_next? {b b' : LineBuffer} {entry : LineEntry}
    (h : b.next? = some (entry, b')) : b'.limit = b.limit := by
  cases hr : b.ready with
  | nil => simp [next?, hr] at h
  | cons e rest =>
    simp only [next?, hr, Option.some.injEq, Prod.mk.injEq] at h
    obtain ⟨_, rfl⟩ := h
    rfl

theorem pending_absorb (b : LineBuffer) (chunk : Bytes) :
    (b.absorb chunk).1.pending = b.pending + b.completedBy chunk := by
  have : (b.absorb chunk).1.pending = b.pending + (b.scan chunk).completed.length := by
    simp [absorb, ofScan, pending]
  rw [completedBy]
  omega

theorem ready_of_next?_none {b : LineBuffer} (h : b.next? = none) : b.ready = [] := by
  cases hr : b.ready with
  | nil => rfl
  | cons e rest => simp [next?, hr] at h

end LineBuffer
end DetectionLink
