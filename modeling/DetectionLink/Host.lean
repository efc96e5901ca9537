import DetectionLink.Error
import DetectionLink.Record
import DetectionLink.Time

/-!
# The host

What a link needs from outside: stream sockets, a clock, a place for log records, and words that
stand in them. A host is given by pure functions on a state of its own, so that one definition of
the link runs against a scripted supervisor as well as against any sequence of outcomes.

A host has a *budget*: a bound on how often it can still be read from, or asked to try again.
Reading spends it, nothing restores it, and a stream whose budget is gone is at its end. So every
loop of the link ends.
-/

namespace DetectionLink

/-- The size of a single read. -/
def readSize : Nat := 4096

/-- What one read delivers: at least one byte and at most `readSize`. -/
structure Chunk where
  bytes : Bytes
  ne_nil : bytes ≠ []
  length_le : bytes.length ≤ readSize

inductive ReadOutcome
  | chunk (received : Chunk)
  /-- The deadline passed first. -/
  | expired
  | interrupted
  /-- The supervisor closed its side. -/
  | ended
  | failed (reason : String)

namespace ReadOutcome

/-- Whether the stream can be read from again. -/
def isOpen : ReadOutcome → Bool
  | chunk _ | expired | interrupted => true
  | ended | failed _ => false

end ReadOutcome

/-- How a write ends. Unless it is complete, `written` bytes of it went out first. -/
inductive WriteOutcome
  | complete
  | failed (written : Nat) (reason : String)
  | expired (written : Nat)

/-- How one attempt to connect ends. A stream that opens has a handle. -/
inductive AttemptOutcome
  | opened (handle : Nat)
  | notFound
  | refused
  | failed (reason : String)

structure Host (σ : Type) where
  wording : Wording
  now : σ → Instant
  sleep : Duration → σ → σ
  note : Record → σ → σ
  /-- One attempt to connect to a path with a send buffer of the size asked for. -/
  attempt : Bytes → Nat → σ → AttemptOutcome × σ
  /-- How long to wait before the next attempt, none to give up; asked with the interval between
  attempts and the time allowed in all. -/
  pause : Duration → Duration → σ → Option Duration × σ
  /-- One read, ending at the deadline if there is one. -/
  read : Nat → Option Instant → σ → ReadOutcome × σ
  /-- One write of all the bytes, within the time allowed. -/
  write : Nat → Bytes → Duration → σ → WriteOutcome × σ
  release : Nat → σ → σ
  budget : σ → Nat
  sleep_le : ∀ d w, budget (sleep d w) ≤ budget w
  note_le : ∀ r w, budget (note r w) ≤ budget w
  attempt_le : ∀ path size w, budget (attempt path size w).2 ≤ budget w
  pause_le : ∀ interval timeout w, budget (pause interval timeout w).2 ≤ budget w
  pause_lt : ∀ interval timeout w, (pause interval timeout w).1.isSome →
    budget (pause interval timeout w).2 < budget w
  read_le : ∀ handle deadline w, budget (read handle deadline w).2 ≤ budget w
  read_lt : ∀ handle deadline w, (read handle deadline w).1.isOpen →
    budget (read handle deadline w).2 < budget w
  write_le : ∀ handle bytes timeout w, budget (write handle bytes timeout w).2 ≤ budget w
  release_le : ∀ handle w, budget (release handle w) ≤ budget w

namespace Host

variable {σ : Type} (H : Host σ)

/-- Notes records in order. -/
def noteAll (records : List Record) (w : σ) : σ := records.foldl (fun w r => H.note r w) w

theorem noteAll_le (records : List Record) (w : σ) :
    H.budget (H.noteAll records w) ≤ H.budget w := by
  induction records generalizing w with
  | nil => exact Nat.le_refl _
  | cons r rest ih => exact Nat.le_trans (ih (H.note r w)) (H.note_le r w)

/-- Waiting the same interval between attempts for as long as the time allowed lasts: there is no
further attempt once it has passed, or would have passed by then. The interval is kept in a
double, and a part of a nanosecond, drawn anew each time, is added to it. -/
def constantPause (elapsed interval timeout : Duration) (part : Fin Duration.partsPerNano) :
    Option Duration :=
  let wait := interval.inDouble part
  if timeout.nanos < elapsed.nanos + wait.nanos then none else some wait

end Host
end DetectionLink
