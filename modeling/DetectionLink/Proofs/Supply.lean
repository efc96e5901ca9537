import DetectionLink.Detection.Builder

/-!
# What a builder is supplied with

Timestamps and detections reach a builder by any calls in any order. Two things count in the end:
the timestamp that was set last, and the detections of all calls in the order of supply. The fault
that is reported is that of the first detection that has one.

* `MessageBuilder.Call`, `ofCalls`: calls, and the builder after them;
* `lastTimestamp?`, `suppliedBy`, `ofCalls_eq`: what counts of them;
* `RawDetection.Valid`, `RawDetection.Faulty`, `BlamesFirst`: detections and their faults;
* `firstFault?_eq_none_iff`, `firstFault?_eq_some_iff`: what the builder finds.
-/

namespace DetectionLink

/-! ## Calls -/

namespace MessageBuilder

/-- A call on a builder. -/
inductive Call
  | timestamp (timestampMs : UInt64)
  | detection (d : RawDetection)
  | detections (found : List RawDetection)

/-- The builder after one more call. -/
def call (b : MessageBuilder) : Call → MessageBuilder
  | .timestamp timestampMs => b.withTimestamp timestampMs
  | .detection d => b.withDetection d
  | .detections found => b.withDetections found

/-- A new builder after a sequence of calls. -/
def ofCalls (calls : List Call) : MessageBuilder := calls.foldl call .empty

namespace Call

def timestamp? : Call → Option UInt64
  | .timestamp timestampMs => some timestampMs
  | .detection _ | .detections _ => none

def supplied : Call → List RawDetection
  | .timestamp _ => []
  | .detection d => [d]
  | .detections found => found

end Call

/-- The timestamp set last, if one was set. -/
def lastTimestamp? (calls : List Call) : Option UInt64 :=
  (calls.filterMap Call.timestamp?).getLast?

/-- The detections of all calls, in the order of supply. -/
def suppliedBy (calls : List Call) : List RawDetection := calls.flatMap Call.supplied

theorem call_eq (b : MessageBuilder) (c : Call) :
    b.call c = ⟨c.timestamp?.or b.timestampMs, b.supplied ++ c.supplied⟩ := by
  cases c with
  | timestamp timestampMs => simp [call, withTimestamp, Call.timestamp?, Call.supplied]
  | detection d => rfl
  | detections found => rfl

theorem ofCalls_eq (calls : List Call) :
    ofCalls calls = ⟨lastTimestamp? calls, suppliedBy calls⟩ := by
  suffices general : ∀ b : MessageBuilder, calls.foldl call b =
      ⟨(lastTimestamp? calls).or b.timestampMs, b.supplied ++ suppliedBy calls⟩ by
    simpa [ofCalls, empty] using general .empty
  induction calls with
  | nil => exact fun b => by simp [lastTimestamp?, suppliedBy]
  | cons c rest ih =>
    intro b
    rw [List.foldl_cons, ih, call_eq]
    cases set : c.timestamp? with
    | none => simp [lastTimestamp?, suppliedBy, set]
    | some timestampMs =>
      cases later : (rest.filterMap Call.timestamp?).getLast? <;>
        simp [lastTimestamp?, suppliedBy, set, List.getLast?_cons, later]

end MessageBuilder

/-! ## Faults -/

/-- The confidence is a number, and the class has a name. -/
def RawDetection.Valid (d : RawDetection) : Prop := d.confidence.isFinite = true ∧ d.label ≠ ""

/-- What is wrong with the detection at an index of the supply. Of two faults the confidence
counts. -/
inductive RawDetection.Faulty (d : RawDetection) (index : Nat) : BuildFault → Prop
  | confidence (infinite : d.confidence.isFinite = false) :
      Faulty d index (.nonFiniteConfidence index d.confidence)
  | label (finite : d.confidence.isFinite = true) (nameless : d.label = "") :
      Faulty d index (.emptyClass index)

/-- The fault is that of the first detection that has one; the detections are counted from zero in
the order of supply. -/
def BlamesFirst (supplied : List RawDetection) (fault : BuildFault) : Prop :=
  ∃ before d after, supplied = before ++ d :: after ∧ (∀ earlier ∈ before, earlier.Valid) ∧
    d.Faulty before.length fault

namespace MessageBuilder

theorem faultOf?_eq_none_iff (index : Nat) (d : RawDetection) :
    faultOf? index d = none ↔ d.Valid := by
  unfold faultOf? RawDetection.Valid
  cases d.confidence.isFinite <;> by_cases named : d.label = "" <;> simp [named]

theorem faultOf?_eq_some_iff (index : Nat) (d : RawDetection) (fault : BuildFault) :
    faultOf? index d = some fault ↔ d.Faulty index fault := by
  unfold faultOf?
  constructor
  · intro found
    split at found
    · next infinite =>
      obtain rfl := Option.some.inj found
      exact .confidence (by simpa using infinite)
    · next finite =>
      split at found
      · next nameless =>
        obtain rfl := Option.some.inj found
        exact .label (by simpa using finite) nameless
      · cases found
  · rintro (infinite | ⟨finite, nameless⟩)
    · simp [infinite]
    · simp [finite, nameless]

theorem firstFault?_eq_none_iff (index : Nat) (supplied : List RawDetection) :
    firstFault? index supplied = none ↔ ∀ d ∈ supplied, d.Valid := by
  induction supplied generalizing index with
  | nil => simp [firstFault?]
  | cons d rest ih =>
    rw [List.forall_mem_cons, ← faultOf?_eq_none_iff index d, ← ih (index + 1), firstFault?]
    cases faultOf? index d with
    | none => simp
    | some fault => simp

/-- Valid detections in front are passed over. -/
theorem firstFault?_append {before : List RawDetection} (valid : ∀ d ∈ before, d.Valid)
    (index : Nat) (rest : List RawDetection) :
    firstFault? index (before ++ rest) = firstFault? (index + before.length) rest := by
  induction before generalizing index with
  | nil => rfl
  | cons d before ih =>
    obtain ⟨first, others⟩ := List.forall_mem_cons.mp valid
    have next : index + 1 + before.length = index + (before.length + 1) := by omega
    rw [List.cons_append, firstFault?, (faultOf?_eq_none_iff index d).mpr first]
    show firstFault? (index + 1) (before ++ rest) = _
    rw [ih others, next, List.length_cons]

theorem exists_of_firstFault? {index : Nat} {supplied : List RawDetection} {fault : BuildFault}
    (found : firstFault? index supplied = some fault) :
    ∃ before d after, supplied = before ++ d :: after ∧ (∀ earlier ∈ before, earlier.Valid) ∧
      d.Faulty (index + before.length) fault := by
  induction supplied generalizing index with
  | nil => cases found
  | cons d rest ih =>
    rw [firstFault?] at found
    cases here : faultOf? index d with
    | some first =>
      rw [here] at found
      obtain rfl := Option.some.inj found
      exact ⟨[], d, rest, rfl, List.forall_mem_nil _, (faultOf?_eq_some_iff index d first).mp here⟩
    | none =>
      rw [here] at found
      obtain ⟨before, culprit, after, rfl, earlier, faulty⟩ := ih found
      have valid := (faultOf?_eq_none_iff index d).mp here
      refine ⟨d :: before, culprit, after, rfl, List.forall_mem_cons.mpr ⟨valid, earlier⟩, ?_⟩
      rwa [List.length_cons, Nat.add_comm before.length, ← Nat.add_assoc]

theorem firstFault?_eq_some_iff (supplied : List RawDetection) (fault : BuildFault) :
    firstFault? 0 supplied = some fault ↔ BlamesFirst supplied fault := by
  constructor
  · intro found
    obtain ⟨before, d, after, split, earlier, faulty⟩ := exists_of_firstFault? found
    exact ⟨before, d, after, split, earlier, Nat.zero_add before.length ▸ faulty⟩
  · rintro ⟨before, d, after, rfl, earlier, faulty⟩
    rw [firstFault?_append earlier, firstFault?, Nat.zero_add,
      (faultOf?_eq_some_iff _ d fault).mpr faulty]

end MessageBuilder
end DetectionLink
