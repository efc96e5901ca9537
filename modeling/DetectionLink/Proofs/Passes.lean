import DetectionLink.Detection.Wire
import DetectionLink.Proofs.Trace
import DetectionLink.Session.Run

/-!
# Passes

A pass is the run of frames between two successful rewinds. The passes of a session, the frames
given to its detector and the lines it wrote are read off its trace; so is what should have been
given and written, by the places of the frames in their passes.

* `passes`, `handed`, `wires`, `completeLines`: what a trace shows;
* `Passes.due`, `messages`: what it should show;
* `Exact`: the two agree;
* `SilentAfterFailure`, `BrokenOff`: a write that fails is the last deed.
-/

namespace DetectionLink

variable {σ F : Type}

/-- A frame, with the position of the source behind it. -/
structure Shot (F : Type) where
  frame : F
  position : Option Binary64

structure Passes (F : Type) where
  /-- The passes that a rewind ended. -/
  finished : List (List (Shot F))
  /-- The pass under way. -/
  current : List (Shot F)

namespace Passes

def empty : Passes F := ⟨[], []⟩

def add (p : Passes F) : Event F → Passes F
  | .pulled (some frame) position => { p with current := p.current ++ [⟨frame, position⟩] }
  | .rewound true => ⟨p.finished ++ [p.current], []⟩
  | _ => p

def all (p : Passes F) : List (List (Shot F)) := p.finished ++ [p.current]

/-- The frames of a pass at a place that the interval divides, with their places. -/
def dueIn (interval : Nat) (pass : List (Shot F)) : List (Shot F × Nat) :=
  pass.zipIdx.filter fun shot => interval ∣ shot.2

/-- The frames to analyse, pass by pass. -/
def due (interval : Nat) (p : Passes F) : List (Shot F × Nat) := p.all.flatMap (dueIn interval)

theorem due_rewound (interval : Nat) (p : Passes F) :
    (p.add (.rewound true)).due interval = p.due interval := by
  simp [due, all, add, dueIn]

theorem dueIn_concat (interval : Nat) (pass : List (Shot F)) (shot : Shot F) :
    dueIn interval (pass ++ [shot]) =
      dueIn interval pass ++ if interval ∣ pass.length then [(shot, pass.length)] else [] := by
  simp only [dueIn, List.zipIdx_append, List.filter_append, List.zipIdx_singleton, Nat.zero_add,
    List.filter_cons, List.filter_nil, decide_eq_true_eq]

theorem due_pulled (interval : Nat) (p : Passes F) (frame : F) (position : Option Binary64) :
    (p.add (.pulled (some frame) position)).due interval = p.due interval ++
      if interval ∣ p.current.length then [(⟨frame, position⟩, p.current.length)] else [] := by
  simp only [due, all, add, List.flatMap_append, List.flatMap_singleton, dueIn_concat,
    List.append_assoc]

/-- A frame that is taken is the last of the pass under way. -/
theorem length_current_pulled {frame : F} {position : Option Binary64} (p : Passes F) :
    (p.add (.pulled (some frame) position)).current.length = p.current.length + 1 := by
  rw [Passes.add, List.length_append]
  rfl

end Passes

/-! ## What a trace shows -/

def passes (trace : List (Event F)) : Passes F := trace.foldl Passes.add .empty

def handed? : Event F → Option (F × List RawDetection)
  | .detected frame found => some (frame, found)
  | _ => none

/-- The frames given to the detector, with what it found. -/
def handed (trace : List (Event F)) : List (F × List RawDetection) := trace.filterMap handed?

def wire? : Event F → Option (Bytes × WriteOutcome)
  | .wrote _ bytes outcome => some (bytes, outcome)
  | _ => none

/-- The writes, with their outcomes. -/
def wires (trace : List (Event F)) : List (Bytes × WriteOutcome) := trace.filterMap wire?

def completeLine? : Event F → Option Bytes
  | .wrote _ bytes .complete => some bytes
  | _ => none

/-- The writes that are complete. -/
def completeLines (trace : List (Event F)) : List Bytes := trace.filterMap completeLine?

theorem completeLines_append (a b : List (Event F)) :
    completeLines (a ++ b) = completeLines a ++ completeLines b :=
  List.filterMap_append

/-- Writes that were all complete are complete lines. -/
theorem completeLines_of_complete {trace : List (Event F)}
    (complete : ∀ wire ∈ wires trace, wire.2 = .complete) :
    completeLines trace = (wires trace).map (·.1) := by
  induction trace with
  | nil => rfl
  | cons event rest ih =>
    have later : (wires rest).Sublist (wires (event :: rest)) :=
      (List.sublist_cons_self event rest).filterMap wire?
    have others : completeLines rest = (wires rest).map (·.1) :=
      ih fun wire mem => complete wire (later.mem mem)
    cases event with
    | wrote handle bytes outcome =>
      obtain rfl : outcome = .complete := complete (bytes, outcome) List.mem_cons_self
      exact congrArg (bytes :: ·) others
    | _ => exact others

/-! Quiet events show nothing of this. -/

section Growth

theorem foldl_deeds {α : Type} {add : α → Event F → α}
    (quiet : ∀ event, event.isQuiet = true → ∀ a, add a event = a) (trace : List (Event F))
    (a : α) : trace.foldl add a = (deeds trace).foldl add a := by
  induction trace generalizing a with
  | nil => rfl
  | cons event rest ih =>
    rw [List.foldl_cons, ih]
    cases isQuiet : event.isQuiet with
    | true =>
      have skipped : deeds (event :: rest) = deeds rest := by simp [deeds, isQuiet]
      rw [skipped, quiet event isQuiet]
    | false =>
      have kept : deeds (event :: rest) = event :: deeds rest := by simp [deeds, isQuiet]
      rw [kept, List.foldl_cons]

theorem filterMap_deeds {α : Type} {shown : Event F → Option α}
    (quiet : ∀ event, event.isQuiet = true → shown event = none) (trace : List (Event F)) :
    trace.filterMap shown = (deeds trace).filterMap shown := by
  induction trace with
  | nil => rfl
  | cons event rest ih =>
    cases isQuiet : event.isQuiet with
    | true =>
      have skipped : deeds (event :: rest) = deeds rest := by simp [deeds, isQuiet]
      rw [skipped, List.filterMap_cons_none (quiet event isQuiet), ih]
    | false =>
      have kept : deeds (event :: rest) = event :: deeds rest := by simp [deeds, isQuiet]
      rw [kept, List.filterMap_cons, List.filterMap_cons, ih]

theorem Passes.add_quiet (event : Event F) (quiet : event.isQuiet = true) (p : Passes F) :
    p.add event = p := by
  cases event <;> first | rfl | exact absurd quiet nofun

theorem handed?_quiet (event : Event F) (quiet : event.isQuiet = true) : handed? event = none := by
  cases event <;> first | rfl | exact absurd quiet nofun

theorem wire?_quiet (event : Event F) (quiet : event.isQuiet = true) : wire? event = none := by
  cases event <;> first | rfl | exact absurd quiet nofun

theorem completeLine?_quiet (event : Event F) (quiet : event.isQuiet = true) :
    completeLine? event = none := by
  cases event <;> first | rfl | exact absurd quiet nofun

variable {done : List (Event F)} {t t' : Traced σ F}

theorem passes_happened (h : Happened done t t') :
    passes t'.trace = done.foldl Passes.add (passes t.trace) := by
  obtain ⟨added, grown, rfl⟩ := h
  rw [grown, passes, List.foldl_append, foldl_deeds Passes.add_quiet added]
  rfl

/-- What a trace shows event by event grows by what the deeds show. -/
theorem filterMap_happened {α : Type} {shown : Event F → Option α}
    (quiet : ∀ event, event.isQuiet = true → shown event = none) (h : Happened done t t') :
    t'.trace.filterMap shown = t.trace.filterMap shown ++ done.filterMap shown := by
  obtain ⟨added, grown, rfl⟩ := h
  rw [grown, List.filterMap_append, filterMap_deeds quiet added]

theorem handed_happened (h : Happened done t t') :
    handed t'.trace = handed t.trace ++ handed done :=
  filterMap_happened handed?_quiet h

theorem wires_happened (h : Happened done t t') : wires t'.trace = wires t.trace ++ wires done :=
  filterMap_happened wire?_quiet h

theorem completeLines_happened (h : Happened done t t') :
    completeLines t'.trace = completeLines t.trace ++ completeLines done :=
  filterMap_happened completeLine?_quiet h

end Growth

/-! ## What it should show -/

/-- The line of one analysed frame, if what was found makes a message. -/
def message (fps : Binary64) (shot : Shot F × Nat) (found : List RawDetection) : Option Bytes :=
  (encodeDetections (frameTimestampMs shot.1.position shot.2 fps) found).toOption.map
    (· ++ [lineTerminator])

/-- The lines of the frames that are due, given what was found on them. -/
def messages (plan : Session.Plan) (trace : List (Event F)) : List Bytes :=
  (List.zipWith (message plan.fps) ((passes trace).due plan.interval)
    ((handed trace).map (·.2))).filterMap id

theorem filterMap_id_singleton {α : Type} (x : Option α) : [x].filterMap id = x.toList := by
  cases x <;> rfl

/-- The frames given to the detector are those that are due, and each line of theirs was written
once, in order. -/
structure Exact (plan : Session.Plan) (trace : List (Event F)) : Prop where
  handed_eq : (handed trace).map (·.1) = ((passes trace).due plan.interval).map (·.1.frame)
  wires_eq : (wires trace).map (·.1) = messages plan trace

namespace Exact

variable {plan : Session.Plan} {done : List (Event F)} {t t' : Traced σ F}

/-- Nothing was analysed or written, and no frame was due. -/
theorem idle (h : Exact plan t.trace) (happened : Happened done t t')
    (nothingDue : (done.foldl Passes.add (passes t.trace)).due plan.interval =
      (passes t.trace).due plan.interval)
    (nothingHanded : handed done = []) (nothingWritten : wires done = []) :
    Exact plan t'.trace := by
  have due := congrArg (Passes.due plan.interval) (passes_happened happened)
  have found := handed_happened happened
  have written := wires_happened happened
  rw [nothingDue] at due
  rw [nothingHanded, List.append_nil] at found
  rw [nothingWritten, List.append_nil] at written
  refine ⟨?_, ?_⟩
  · rw [found, due, h.handed_eq]
  · rw [written, h.wires_eq, messages, messages, found, due]

/-- A frame that was due was analysed, and its line written, if it has one. -/
theorem analysed {frame : F} {position : Option Binary64} {found : List RawDetection}
    (h : Exact plan t.trace) (writes : List (Event F))
    (happened : Happened ([.pulled (some frame) position, .detected frame found] ++ writes) t t')
    (isDue : plan.interval ∣ (passes t.trace).current.length)
    (keptPasses : ∀ p : Passes F, writes.foldl Passes.add p = p) (noneHanded : handed writes = [])
    (written : (wires writes).map (·.1) =
      (message plan.fps (⟨frame, position⟩, (passes t.trace).current.length) found).toList) :
    Exact plan t'.trace := by
  have due := congrArg (Passes.due plan.interval) (passes_happened happened)
  rw [List.foldl_append, keptPasses] at due
  replace due := due.trans (Passes.due_pulled plan.interval (passes t.trace) frame position)
  rw [if_pos isDue] at due
  have seen := handed_happened happened
  have shown : handed ([.pulled (some frame) position, .detected frame found] ++ writes) =
      [(frame, found)] := by
    rw [handed, List.filterMap_append]
    exact congrArg ([(frame, found)] ++ ·) noneHanded
  rw [shown] at seen
  have sent := wires_happened happened
  have same : wires ([.pulled (some frame) position, .detected frame found] ++ writes) =
      wires writes := by
    rw [wires, List.filterMap_append]
    rfl
  rw [same] at sent
  -- one verdict of the detector for each frame that was due: the new pair is zipped at the end
  have aligned : ((passes t.trace).due plan.interval).length =
      ((handed t.trace).map (·.2)).length := by
    have lengths := congrArg List.length h.handed_eq
    simpa using lengths.symm
  refine ⟨?_, ?_⟩
  · rw [seen, due, List.map_append, List.map_append, h.handed_eq]
    rfl
  · rw [sent, List.map_append, h.wires_eq, written, messages, messages, due, seen, List.map_append,
      List.zipWith_append aligned, List.filterMap_append]
    exact congrArg (_ ++ ·) (filterMap_id_singleton _).symm

end Exact

/-! ## Writes that fail -/

/-- A write that is not complete is the last deed. -/
def SilentAfterFailure (trace : List (Event F)) : Prop :=
  ∀ before handle bytes outcome after,
    deeds trace = before ++ .wrote handle bytes outcome :: after → outcome ≠ .complete → after = []

theorem wires_deeds (trace : List (Event F)) : wires trace = wires (deeds trace) :=
  filterMap_deeds wire?_quiet trace

/-- Writes that were all complete show as such. -/
theorem complete_of_mem {trace : List (Event F)} {bytes : Bytes} {outcome : WriteOutcome}
    (complete : ∀ wire ∈ wires trace, wire.2 = .complete)
    (written : .wrote handle bytes outcome ∈ trace) : outcome = .complete :=
  complete (bytes, outcome) (List.mem_filterMap.mpr ⟨_, written, rfl⟩)

/-- Without a failed write there is nothing to be silent after. -/
theorem silent_of_complete {trace : List (Event F)}
    (complete : ∀ wire ∈ wires trace, wire.2 = .complete) : SilentAfterFailure trace := by
  intro before handle bytes outcome after shape incomplete
  rw [wires_deeds] at complete
  have written : .wrote handle bytes outcome ∈ deeds trace := by simp [shape]
  exact absurd (complete_of_mem complete written) incomplete

theorem silent_of_last {trace earlier : List (Event F)} {last : Event F}
    (ends : deeds trace = earlier ++ [last])
    (complete : ∀ wire ∈ wires earlier, wire.2 = .complete) : SilentAfterFailure trace := by
  intro before handle bytes outcome after shape incomplete
  rcases List.eq_nil_or_concat after with none | ⟨front, e, some⟩
  · exact none
  · -- such a write would stand before the last deed, where every write is complete
    rw [some, List.concat_eq_append, ← List.cons_append, ← List.append_assoc, ends] at shape
    obtain ⟨earlier_eq, _⟩ := List.append_inj' shape rfl
    have written : .wrote handle bytes outcome ∈ earlier := by simp [earlier_eq]
    exact absurd (complete_of_mem complete written) incomplete

theorem exists_wrote_of_mem_wires {trace : List (Event F)} {wire : Bytes × WriteOutcome}
    (mem : wire ∈ wires trace) : ∃ handle, .wrote handle wire.1 wire.2 ∈ trace := by
  obtain ⟨event, member, shown⟩ := List.mem_filterMap.mp mem
  cases event with
  | wrote handle bytes outcome =>
    obtain rfl := Option.some.inj shown
    exact ⟨handle, member⟩
  | _ => exact absurd shown nofun

theorem completeLine?_eq_none {handle : Nat} {bytes : Bytes} {outcome : WriteOutcome}
    (incomplete : outcome ≠ .complete) :
    completeLine? (.wrote handle bytes outcome : Event F) = none := by
  cases outcome with
  | complete => exact absurd rfl incomplete
  | failed _ _ => rfl
  | expired _ => rfl

/-- A trace whose last deed is a write that was not complete. -/
def BrokenOff (trace : List (Event F)) : Prop :=
  ∃ earlier handle bytes outcome,
    deeds trace = earlier ++ [.wrote handle bytes outcome] ∧ outcome ≠ .complete

theorem not_brokenOff_of_complete {trace : List (Event F)}
    (complete : ∀ wire ∈ wires trace, wire.2 = .complete) : ¬ BrokenOff trace := by
  rintro ⟨earlier, handle, bytes, outcome, shape, incomplete⟩
  rw [wires_deeds] at complete
  have written : .wrote handle bytes outcome ∈ deeds trace := by simp [shape]
  exact incomplete (complete_of_mem complete written)

theorem brokenOff_of_happened (before : List (Event F)) {target : Nat} {bytes : Bytes}
    {outcome : WriteOutcome} {t t' : Traced σ F}
    (happened : Happened (before ++ [.wrote target bytes outcome]) t t')
    (incomplete : outcome ≠ .complete) : BrokenOff t'.trace := by
  refine ⟨deeds t.trace ++ before, target, bytes, outcome, ?_, incomplete⟩
  rw [happened.deeds_eq, List.append_assoc]

/-- Either all writes are complete, or the trace is broken off and all writes but the last are. -/
theorem complete_or_brokenOff {trace : List (Event F)} (silent : SilentAfterFailure trace) :
    (∀ wire ∈ wires trace, wire.2 = .complete) ∨
      BrokenOff trace ∧ ∃ lost, (wires trace).map (·.1) = completeLines trace ++ [lost] := by
  by_cases complete : ∀ wire ∈ wires trace, wire.2 = .complete
  · exact .inl complete
  simp only [Classical.not_forall] at complete
  obtain ⟨⟨bytes, outcome⟩, mem, incomplete⟩ := complete
  rw [wires_deeds] at mem
  obtain ⟨handle, written⟩ := exists_wrote_of_mem_wires mem
  obtain ⟨before, after, shape⟩ := List.append_of_mem written
  obtain rfl := silent before handle bytes outcome after shape incomplete
  have earlier : ∀ wire ∈ wires before, wire.2 = .complete := by
    -- an earlier write that is not complete would have been the last deed itself
    intro wire mem
    obtain ⟨handle', written⟩ := exists_wrote_of_mem_wires mem
    obtain ⟨front, middle, rfl⟩ := List.append_of_mem written
    refine Classical.byContradiction fun incomplete => ?_
    rw [List.append_assoc, List.cons_append] at shape
    exact absurd (silent _ _ _ _ _ shape incomplete) (by simp)
  have lines : completeLines trace = completeLines before := by
    rw [completeLines, filterMap_deeds completeLine?_quiet, shape, List.filterMap_append,
      List.filterMap_cons_none (completeLine?_eq_none incomplete)]
    exact List.append_nil _
  refine .inr ⟨⟨before, handle, bytes, outcome, shape, incomplete⟩, bytes, ?_⟩
  rw [lines, completeLines_of_complete earlier, wires_deeds trace, shape, wires,
    List.filterMap_append, List.map_append]
  rfl

/-- Of the writes at most the last is no complete line. -/
theorem completeLines_of_silent {trace : List (Event F)} (silent : SilentAfterFailure trace) :
    completeLines trace = (wires trace).map (·.1) ∨
      ∃ lost, (wires trace).map (·.1) = completeLines trace ++ [lost] := by
  rcases complete_or_brokenOff silent with complete | ⟨_, lost⟩
  · exact .inl (completeLines_of_complete complete)
  · exact .inr lost

end DetectionLink
