import DetectionLink.Session.Media

/-!
# Hosts that keep a trace

A host, its media and its detector can be made to write down every call they answer, with the
outcome, and to answer as before otherwise. What a run did to the world is then read off the
trace.

* `Host.traced`, `Media.traced`, `Detector.traced`: the same world, with a trace;
* `received`: the bytes that reads brought;
* `noteAll_traced`: what a list of records adds;
* `Happened`: what came on top of a trace, link traffic aside;
* `Script`: a world whose reads and writes are written down beforehand.
-/

namespace DetectionLink

/-- One call and its outcome. -/
inductive Event (F : Type)
  | slept (length : Duration)
  | noted (record : Record)
  | attempted (outcome : AttemptOutcome)
  | paused (wait : Option Duration)
  | read (handle : Nat) (outcome : ReadOutcome)
  | wrote (handle : Nat) (bytes : Bytes) (outcome : WriteOutcome)
  | released (handle : Nat)
  | opened (start : StartCommand) (succeeded : Bool)
  /-- A frame, or none, and the position of the source after it. -/
  | pulled (frame : Option F) (position : Option Binary64)
  | rewound (succeeded : Bool)
  | detected (frame : F) (found : List RawDetection)

/-- A world and what happened to it so far, oldest first. -/
structure Traced (σ F : Type) where
  world : σ
  trace : List (Event F)

variable {σ S F : Type}

def Traced.start (w : σ) : Traced σ F := ⟨w, []⟩

def Traced.log (t : Traced σ F) (event : Event F) (w : σ) : Traced σ F := ⟨w, t.trace ++ [event]⟩

def Host.traced (H : Host σ) (F : Type) : Host (Traced σ F) where
  wording := H.wording
  now t := H.now t.world
  sleep d t := t.log (.slept d) (H.sleep d t.world)
  note r t := t.log (.noted r) (H.note r t.world)
  attempt path size t :=
    let tried := H.attempt path size t.world
    (tried.1, t.log (.attempted tried.1) tried.2)
  pause interval timeout t :=
    let asked := H.pause interval timeout t.world
    (asked.1, t.log (.paused asked.1) asked.2)
  read handle deadline t :=
    let got := H.read handle deadline t.world
    (got.1, t.log (.read handle got.1) got.2)
  write handle bytes timeout t :=
    let wrote := H.write handle bytes timeout t.world
    (wrote.1, t.log (.wrote handle bytes wrote.1) wrote.2)
  release handle t := t.log (.released handle) (H.release handle t.world)
  budget t := H.budget t.world
  sleep_le d t := H.sleep_le d t.world
  note_le r t := H.note_le r t.world
  attempt_le path size t := H.attempt_le path size t.world
  pause_le interval timeout t := H.pause_le interval timeout t.world
  pause_lt interval timeout t := H.pause_lt interval timeout t.world
  read_le handle deadline t := H.read_le handle deadline t.world
  read_lt handle deadline t := H.read_lt handle deadline t.world
  write_le handle bytes timeout t := H.write_le handle bytes timeout t.world
  release_le handle t := H.release_le handle t.world

def Media.traced {H : Host σ} (M : Media H S F) : Media (H.traced F) S F where
  opening start t :=
    let opened := M.opening start t.world
    (opened.1, t.log (.opened start opened.1.isOk) opened.2)
  next s t :=
    let pulled := M.next s t.world
    (pulled.1, pulled.2.1, t.log (.pulled pulled.1 (M.position pulled.2.1)) pulled.2.2)
  rewind s t :=
    let rewound := M.rewind s t.world
    (rewound.1, rewound.2.1, t.log (.rewound rewound.1.isOk) rewound.2.2)
  position := M.position
  rate := M.rate
  opening_le start t := M.opening_le start t.world
  next_le s t := M.next_le s t.world
  rewind_le s t := M.rewind_le s t.world

def Detector.traced {H : Host σ} (D : Detector H F) : Detector (H.traced F) F where
  detect frame t :=
    let found := D.detect frame t.world
    (found.1, t.log (.detected frame found.1) found.2)
  detect_le frame t := D.detect_le frame t.world

/-! ## Log records -/

theorem noteAll_traced (H : Host σ) (records : List Record) (t : Traced σ F) :
    ((H.traced F).noteAll records t).trace = t.trace ++ records.map .noted := by
  induction records generalizing t with
  | nil => simp [Host.noteAll]
  | cons r rest ih =>
    rw [Host.noteAll, List.foldl_cons]
    have := ih ((H.traced F).note r t)
    rw [Host.noteAll] at this
    rw [this]
    simp [Host.traced, Traced.log]

/-! ## Bytes read -/

namespace Event

/-- The bytes an event brought to the client. -/
def bytes : Event F → Bytes
  | .read _ (.chunk received) => received.bytes
  | _ => []

end Event

/-- The bytes that were read, in order. -/
def received (trace : List (Event F)) : Bytes := trace.flatMap Event.bytes

theorem received_append (a b : List (Event F)) : received (a ++ b) = received a ++ received b :=
  List.flatMap_append

theorem received_log (t : Traced σ F) (event : Event F) (w : σ) :
    received (t.log event w).trace = received t.trace ++ event.bytes := by
  simp [Traced.log, received]

/-! Only a read brings bytes. -/

section Calls

variable (H : Host σ) (t : Traced σ F)

theorem received_read (handle : Nat) (deadline : Option Instant) :
    received ((H.traced F).read handle deadline t).2.trace = received t.trace ++
      (Event.read handle ((H.traced F).read handle deadline t).1 : Event F).bytes :=
  received_log ..

@[simp] theorem received_note (r : Record) :
    received ((H.traced F).note r t).trace = received t.trace :=
  (received_log ..).trans (List.append_nil _)

@[simp] theorem received_sleep (d : Duration) :
    received ((H.traced F).sleep d t).trace = received t.trace :=
  (received_log ..).trans (List.append_nil _)

@[simp] theorem received_attempt (path : Bytes) (size : Nat) :
    received ((H.traced F).attempt path size t).2.trace = received t.trace :=
  (received_log ..).trans (List.append_nil _)

@[simp] theorem received_pause (interval timeout : Duration) :
    received ((H.traced F).pause interval timeout t).2.trace = received t.trace :=
  (received_log ..).trans (List.append_nil _)

@[simp] theorem received_write (handle : Nat) (bytes : Bytes) (timeout : Duration) :
    received ((H.traced F).write handle bytes timeout t).2.trace = received t.trace :=
  (received_log ..).trans (List.append_nil _)

@[simp] theorem received_release (handle : Nat) :
    received ((H.traced F).release handle t).trace = received t.trace :=
  (received_log ..).trans (List.append_nil _)

@[simp] theorem received_noteAll (records : List Record) :
    received ((H.traced F).noteAll records t).trace = received t.trace := by
  rw [noteAll_traced, received_append]
  simp [received, List.flatMap_map, Event.bytes]

end Calls

/-! ## What happened in between -/

namespace Event

/-- Waiting, reading and logging; everything but media, detector and lines written. -/
def isQuiet : Event F → Bool
  | .slept _ | .noted _ | .attempted _ | .paused _ | .read _ _ | .released _ => true
  | .wrote _ _ _ | .opened _ _ | .pulled _ _ | .rewound _ | .detected _ _ => false

end Event

/-- The events that are not quiet. -/
def deeds (trace : List (Event F)) : List (Event F) := trace.filter fun event => !event.isQuiet

theorem deeds_append (a b : List (Event F)) : deeds (a ++ b) = deeds a ++ deeds b :=
  List.filter_append a b

/-- Between two states of the world these deeds happened, and nothing else but quiet events. -/
def Happened (done : List (Event F)) (t t' : Traced σ F) : Prop :=
  ∃ added, t'.trace = t.trace ++ added ∧ deeds added = done

namespace Happened

variable {a b : List (Event F)} {t t' t'' : Traced σ F}

theorem refl (t : Traced σ F) : Happened [] t t := ⟨[], (List.append_nil _).symm, rfl⟩

theorem trans (h : Happened a t t') (k : Happened b t' t'') : Happened (a ++ b) t t'' := by
  obtain ⟨added, grown, done⟩ := h
  obtain ⟨more, grown', done'⟩ := k
  refine ⟨added ++ more, ?_, ?_⟩
  · rw [grown', grown, List.append_assoc]
  · rw [deeds_append, done, done']

/-- Quiet events on top. -/
theorem quiet (h : Happened a t t') (k : Happened [] t' t'') : Happened a t t'' :=
  List.append_nil a ▸ h.trans k

theorem log (t : Traced σ F) (event : Event F) (w : σ) :
    Happened (deeds [event]) t (t.log event w) :=
  ⟨[event], rfl, rfl⟩

theorem deeds_eq (h : Happened a t t') : deeds t'.trace = deeds t.trace ++ a := by
  obtain ⟨added, grown, done⟩ := h
  rw [grown, deeds_append, done]

end Happened

section Calls

variable (H : Host σ) (t : Traced σ F)

theorem happened_note (r : Record) : Happened [] t ((H.traced F).note r t) := .log ..

theorem happened_sleep (d : Duration) : Happened [] t ((H.traced F).sleep d t) := .log ..

theorem happened_read (handle : Nat) (deadline : Option Instant) :
    Happened [] t ((H.traced F).read handle deadline t).2 := .log ..

theorem happened_release (handle : Nat) : Happened [] t ((H.traced F).release handle t) := .log ..

theorem happened_write (handle : Nat) (bytes : Bytes) (timeout : Duration) :
    Happened [.wrote handle bytes ((H.traced F).write handle bytes timeout t).1] t
      ((H.traced F).write handle bytes timeout t).2 := .log ..

theorem happened_noteAll (records : List Record) :
    Happened [] t ((H.traced F).noteAll records t) := by
  refine ⟨records.map .noted, noteAll_traced H records t, ?_⟩
  simp [deeds, List.filter_map, Event.isQuiet, Function.comp_def]

variable {H} (M : Media H S F) (D : Detector H F)

theorem happened_next (s : S) :
    Happened [.pulled (M.traced.next s t).1 (M.position (M.traced.next s t).2.1)] t
      (M.traced.next s t).2.2 := .log ..

theorem happened_rewind (s : S) :
    Happened [.rewound (M.traced.rewind s t).1.isOk] t (M.traced.rewind s t).2.2 := .log ..

theorem happened_detect (frame : F) :
    Happened [.detected frame (D.traced.detect frame t).1] t (D.traced.detect frame t).2 := .log ..

end Calls

/-! ## Scripts -/

/-- Outcomes to come, in order. A stream is at its end when there are no reads left, and writes are
complete when nothing else is said. -/
structure Script where
  reads : List ReadOutcome
  writes : List WriteOutcome

namespace Script

def read (s : Script) : ReadOutcome × Script :=
  match s.reads with
  | outcome :: reads => (outcome, { s with reads })
  | [] => (.ended, s)

def write (s : Script) : WriteOutcome × Script :=
  match s.writes with
  | outcome :: writes => (outcome, { s with writes })
  | [] => (.complete, s)

theorem length_read (s : Script) : s.read.2.reads.length ≤ s.reads.length ∧
    (s.read.1.isOpen → s.read.2.reads.length < s.reads.length) := by
  unfold read
  cases reads : s.reads with
  | nil => simp [reads, ReadOutcome.isOpen]
  | cons outcome rest => simp

theorem reads_write (s : Script) : s.write.2.reads = s.reads := by
  unfold write
  split <;> rfl

/-- What a reader that has met the end inside a string says of a line: in which column it stands,
by a counter of 64 bits. -/
def wording : Wording where
  json line := s!"EOF while parsing a string at line 1 column {line.length % UInt64.size}"
  toml _ := "TOML parse error"
  place := "[here]"

/-- Connecting succeeds at once, time stands still, and the rest is as written. -/
def host : Host Script where
  wording := wording
  now _ := ⟨0⟩
  sleep _ s := s
  note _ s := s
  attempt _ _ s := (.opened 0, s)
  pause _ _ s := (none, s)
  read _ _ s := s.read
  write _ _ _ s := s.write
  release _ s := s
  budget s := s.reads.length
  sleep_le _ _ := Nat.le_refl _
  note_le _ _ := Nat.le_refl _
  attempt_le _ _ _ := Nat.le_refl _
  pause_le _ _ _ := Nat.le_refl _
  pause_lt _ _ _ again := absurd again nofun
  read_le _ _ s := s.length_read.1
  read_lt _ _ s := s.length_read.2
  write_le _ _ _ s := Nat.le_of_eq (congrArg List.length s.reads_write)
  release_le _ _ := Nat.le_refl _

end Script
end DetectionLink
