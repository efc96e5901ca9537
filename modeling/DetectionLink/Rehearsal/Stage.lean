import DetectionLink.Files
import DetectionLink.Host

/-!
# A rehearsal stage

A scripted supervisor on a clock that only waiting moves. Everything the supervisor does is a list
of deeds, done at a time of the clock, at a call of the media, or right away; computing takes no
time. A stage keeps what a test can ask for afterwards: the lines the supervisor received, the log
records, and the calls of the media.

* `Stage.perform`: the effect of one deed;
* `Stage.act`: what the script has for one moment;
* `Stage.advance`: time passes, and with it what the script has for it;
* `Stage.await`: time passes until a connection has something to read.
-/

namespace DetectionLink.Rehearsal

/-- One thing a supervisor does. -/
inductive Deed
  | send (bytes : Bytes)
  /-- Takes what the client wrote and sends no more; later lines are still taken. -/
  | shutdown
  /-- Takes what the client wrote and hangs up. -/
  | close
  /-- Hangs up on what the client wrote. -/
  | abort
  /-- Listens at the socket's place. -/
  | bind
  /-- Listens no longer; a socket that is there stays or goes. -/
  | deafen (unlink : Bool)
deriving DecidableEq

/-- What deeds can wait for: a call of the media, by its number over the whole rehearsal, or a
number of lines received, none being received when the connection is accepted. -/
inductive Cue
  | opening (n : Nat)
  | pull (n : Nat)
  | rewind (n : Nat)
  | received (lines : Nat)
deriving DecidableEq

/-- A call of the media or the detector. -/
inductive Call
  | opening (path : String)
  | pull (frame : Option Nat)
  | detect (frame : Nat)
  | rewind
deriving DecidableEq

/-- What the client wrote, up to now or since somebody looked. -/
structure Backlog where
  /-- The writes, latest first. -/
  writes : List Bytes
  /-- How many bytes they hold together. -/
  size : Nat

namespace Backlog

def empty : Backlog := ⟨[], 0⟩

def push (bytes : Bytes) (b : Backlog) : Backlog := ⟨bytes :: b.writes, b.size + bytes.length⟩

/-- What was written after `earlier`, behind it. -/
def append (earlier later : Backlog) : Backlog :=
  ⟨later.writes ++ earlier.writes, earlier.size + later.size⟩

def bytes (b : Backlog) : Bytes := b.writes.reverse.flatten

end Backlog

/-- The connection accepted last, as the supervisor sees it. -/
structure Connection where
  handle : Nat
  /-- Sent and not yet read by the client. -/
  inbound : Bytes
  /-- Written by the client and not yet taken by the supervisor. -/
  outbound : Backlog
  /-- The supervisor may still send. -/
  sending : Bool
  /-- The supervisor has not hung up. -/
  isOpen : Bool
  /-- The supervisor hung up on lines it had not taken, and the client does not know yet. -/
  reset : Bool
  /-- The client has not closed its end. -/
  clientOpen : Bool

structure Stage where
  /-- The clock, in whole milliseconds. -/
  now : Nat
  files : Files
  /-- Where the client looks up paths that do not start at the root. -/
  working : Place
  /-- Where the supervisor's socket stands when it is bound. -/
  socket : Place
  connection : Option Connection
  /-- The handle of the next connection. -/
  upcoming : Nat
  /-- Deeds with their times, in order. -/
  timed : List (Nat × List Deed)
  cued : List (Cue × List Deed)
  opened : Nat
  pulled : Nat
  rewound : Nat
  /-- Lines received on any connection. -/
  received : Nat
  /-- What the supervisor took on any connection and nobody looked at. -/
  heard : Backlog
  /-- Calls with their times, latest first. -/
  calls : List (Call × Nat)
  /-- Log records, latest first. -/
  records : List Record

/-- How many bytes the client can write before the supervisor has to read some. -/
def writeCapacity : Nat := 1024 * 1024

namespace Connection

def ofHandle (handle : Nat) : Connection := ⟨handle, [], .empty, true, true, false, true⟩

/-- Whether the supervisor can send. -/
def canSend (c : Connection) : Bool := c.sending && c.isOpen && c.clientOpen

def hangUp (reset : Bool) (c : Connection) : Connection :=
  { c with outbound := .empty, sending := false, isOpen := false, reset := c.reset || reset }

end Connection

namespace Stage

/-- A stage at time zero with a socket that is bound or not. -/
def initial (files : Files) (working socket : Place) (listening : Bool) : Stage where
  now := 0
  files := if listening then files.put socket (.socket true) else files
  working := working
  socket := socket
  connection := none
  upcoming := 0
  timed := []
  cued := []
  opened := 0
  pulled := 0
  rewound := 0
  received := 0
  heard := .empty
  calls := []
  records := []

/-! ## Deeds -/

def updateConnection (change : Connection → Connection) (s : Stage) : Stage :=
  { s with connection := s.connection.map change }

/-- Whether the supervisor can send right now. -/
def canSend (s : Stage) : Bool := s.connection.any Connection.canSend

/-- The supervisor takes what the client wrote. -/
def listen (s : Stage) : Stage :=
  match s.connection with
  | some c => { s with
      connection := some { c with outbound := .empty }
      heard := s.heard.append c.outbound }
  | none => s

def perform (s : Stage) : Deed → Stage
  | .send bytes =>
    s.updateConnection fun c => if c.canSend then { c with inbound := c.inbound ++ bytes } else c
  | .shutdown => s.listen.updateConnection fun c => { c with sending := false }
  | .close => s.listen.updateConnection fun c => if c.isOpen then c.hangUp false else c
  | .abort => s.updateConnection fun c => if c.isOpen then c.hangUp (0 < c.outbound.size) else c
  | .bind => { s with files := s.files.put s.socket (.socket true) }
  | .deafen true => { s with files := s.files.remove s.socket }
  | .deafen false =>
    match s.files.node? s.socket with
    | some (.socket _) => { s with files := s.files.put s.socket (.socket false) }
    | _ => s

/-- Does what the script has for one moment. The supervisor listens before it does anything. -/
def act (s : Stage) (deeds : List Deed) : Stage :=
  if deeds = [] then s else deeds.foldl perform s.listen

/-- Deeds planned for a time stand behind those of the same time. -/
def insertTimed (time : Nat) (deeds : List Deed) :
    List (Nat × List Deed) → List (Nat × List Deed)
  | [] => [(time, deeds)]
  | entry :: rest =>
    if time < entry.1 then (time, deeds) :: entry :: rest
    else entry :: insertTimed time deeds rest

def plan (time : Nat) (deeds : List Deed) (s : Stage) : Stage :=
  { s with timed := insertTimed time deeds s.timed }

/-- Does what the script has for a cue. -/
def cue (c : Cue) (s : Stage) : Stage :=
  s.act ((s.cued.filter fun entry => entry.1 = c).flatMap Prod.snd)

/-- Adds a call to the trace. -/
def trace (call : Call) (s : Stage) : Stage := { s with calls := (call, s.now) :: s.calls }

/-- All that the supervisor received and nobody looked at, and the stage without it. -/
def collect (s : Stage) : Bytes × Stage :=
  (s.listen.heard.bytes, { s.listen with heard := .empty })

/-! ## Time -/

/-- Does all that is planned before `limit`, each at its time. -/
def passBefore (limit : Nat) (s : Stage) : List (Nat × List Deed) → Stage
  | [] => { s with timed := [] }
  | (time, deeds) :: rest =>
    if time < limit then ({ s with now := max s.now time }.act deeds).passBefore limit rest
    else { s with timed := (time, deeds) :: rest }

/-- The clock goes on to `time`, unless it is past that. What is planned for `time` itself comes
after the client's turn. -/
def advance (time : Nat) (s : Stage) : Stage :=
  let passed := s.passBefore time s.timed
  { passed with now := max passed.now time }

/-- The connection of a handle, if it is still the current one. -/
def connection? (handle : Nat) (s : Stage) : Option Connection :=
  s.connection.filter fun c => c.handle = handle

/-- Whether a read of the connection would answer at once. -/
def readable (handle : Nat) (s : Stage) : Bool :=
  match s.connection? handle with
  | some c => c.inbound ≠ [] || c.reset || !c.sending
  | none => true

/-- Does what is planned before the deadline until the stage meets a condition; a wait without a
deadline ends with the script. -/
def awaitWith (ready : Stage → Bool) (deadline : Option Nat) (s : Stage) :
    List (Nat × List Deed) → Stage
  | [] => { s with timed := [] }
  | (time, deeds) :: rest =>
    if ready s then { s with timed := (time, deeds) :: rest }
    else if deadline.all (time < ·) then
      ({ s with now := max s.now time }.act deeds).awaitWith ready deadline rest
    else { s with timed := (time, deeds) :: rest }

/-- How long a wait without a deadline lasts when nothing is planned any more. -/
def longWait : Nat := 3600000

/-- Waits for a condition. The clock ends at the deadline if it was not met before. -/
def await (ready : Stage → Bool) (deadline : Option Nat) (s : Stage) : Stage :=
  let waited := s.awaitWith ready deadline s.timed
  if ready waited then waited
  else { waited with now := max waited.now (deadline.getD (waited.now + longWait)) }

end Stage
end DetectionLink.Rehearsal
