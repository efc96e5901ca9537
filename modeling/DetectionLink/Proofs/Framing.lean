import DetectionLink.Link.LineBuffer
import DetectionLink.Proofs.Split

/-!
# Framing agrees with splitting the whole stream

The line buffer sees a stream in chunks. Here the whole stream is split at once, by the library's
`List.splitOnP`, and each line is judged by its length alone; the buffer is shown to agree with
that, wherever the chunks are cut and whenever entries are taken.

* `reference`: the entries of a whole stream;
* `Framed`: what the buffer's three fields are after a stream, computed from the stream;
* `framed_run`: a chunk takes the state of the stream before to the state of the stream with it;
* `entries_eq_reference`: every sequence of calls on a buffer.
-/

namespace DetectionLink.Framing

/-! ## Whole streams -/

def isTerminator (b : UInt8) : Bool := b = lineTerminator

/-- The lines of a stream that a terminator ended. -/
def ended (stream : Bytes) : List Bytes := parts isTerminator stream

/-- The unfinished line of a stream. -/
def tail (stream : Bytes) : Bytes := lastPart isTerminator stream

/-- What becomes of a line that ended. -/
def verdict (limit : Nat) (line : Bytes) : LineEntry :=
  if line.length ≤ limit then .ok line else .error (oversizedLine limit)

/-- The report of an unfinished line. It is made as soon as the line is too long, and the line's
verdict, once it ends, is that same report. -/
def tailReport (limit : Nat) (stream : Bytes) : List LineEntry :=
  if (tail stream).length ≤ limit then [] else [.error (oversizedLine limit)]

/-- The entries of a stream: the verdicts on its lines, and the report of a tail that is too long
already. -/
def reference (limit : Nat) (stream : Bytes) : List LineEntry :=
  (ended stream).map (verdict limit) ++ tailReport limit stream

/-- What is held back of a stream. -/
def heldOf (limit : Nat) (stream : Bytes) : Bytes :=
  if (tail stream).length ≤ limit then tail stream else []

section Growth

variable {limit : Nat} {stream segment : Bytes}

theorem isTerminator_of_not_mem (free : lineTerminator ∉ segment) :
    ∀ b ∈ segment, isTerminator b = false := by
  intro b hb
  have : b ≠ lineTerminator := fun h => free (h ▸ hb)
  simpa [isTerminator] using this

theorem tail_append (free : lineTerminator ∉ segment) :
    tail (stream ++ segment) = tail stream ++ segment :=
  lastPart_append isTerminator (isTerminator_of_not_mem free)

theorem ended_append (free : lineTerminator ∉ segment) :
    ended (stream ++ segment) = ended stream :=
  parts_append isTerminator (isTerminator_of_not_mem free)

theorem tail_terminated : tail (stream ++ [lineTerminator]) = [] :=
  lastPart_concat isTerminator rfl

theorem ended_terminated : ended (stream ++ [lineTerminator]) = ended stream ++ [tail stream] :=
  parts_concat isTerminator rfl

theorem reference_nil (limit : Nat) : reference limit [] = [] := by
  simp [reference, tailReport, ended, tail, parts_nil, lastPart_nil]

/-- Within the limit a stream has one entry for each of its lines. -/
theorem reference_of_le (short : (tail stream).length ≤ limit) :
    reference limit stream = (ended stream).map (verdict limit) := by
  rw [reference, tailReport, if_pos short, List.append_nil]

theorem reference_of_lt (long : limit < (tail stream).length) :
    reference limit stream =
      (ended stream).map (verdict limit) ++ [.error (oversizedLine limit)] := by
  rw [reference, tailReport, if_neg (Nat.not_le.mpr long)]

theorem reference_terminated (limit : Nat) (stream : Bytes) :
    reference limit (stream ++ [lineTerminator]) =
      (ended stream).map (verdict limit) ++ [verdict limit (tail stream)] := by
  rw [reference_of_le (by simp [tail_terminated]), ended_terminated, List.map_append]
  rfl

end Growth

/-! ## The state after a stream -/

/-- The state of a buffer once it has been fed a stream: what it holds back, whether it is inside
a dropped line, and the entries it made. -/
structure Framed (limit : Nat) (stream held : Bytes) (discarding : Bool)
    (entries : List LineEntry) : Prop where
  held_eq : held = heldOf limit stream
  discarding_iff : discarding = true ↔ limit < (tail stream).length
  entries_eq : entries = reference limit stream

theorem framed_nil (limit : Nat) : Framed limit [] [] false [] where
  held_eq := by simp [heldOf, tail, lastPart_nil]
  discarding_iff := by simp [tail, lastPart_nil]
  entries_eq := (reference_nil limit).symm

/-- Behind a terminator nothing is held back. -/
theorem framed_fresh {limit : Nat} {stream : Bytes} {entries : List LineEntry}
    (fresh : tail stream = []) (h : entries = reference limit stream) :
    Framed limit stream [] false entries where
  held_eq := by rw [heldOf, fresh, ite_self]
  discarding_iff := by simp [fresh]
  entries_eq := h

section Scanning

variable {limit : Nat} {stream segment : Bytes} {before : List LineEntry} {s : LineBuffer.Scan}

/-- The state of a scan; `before` are the entries made before the chunk. -/
def ScanFramed (limit : Nat) (stream : Bytes) (before : List LineEntry) (s : LineBuffer.Scan) :
    Prop :=
  Framed limit stream s.held s.discarding (before ++ s.completed.reverse)

theorem framed_endLine (free : lineTerminator ∉ segment) (h : ScanFramed limit stream before s) :
    ScanFramed limit (stream ++ segment ++ [lineTerminator]) before (s.endLine limit segment) := by
  obtain ⟨held, discarding, entries⟩ := h
  have fresh : tail (stream ++ segment ++ [lineTerminator]) = [] := tail_terminated
  have reached := reference_terminated limit (stream ++ segment)
  rw [ended_append free, tail_append free] at reached
  unfold LineBuffer.Scan.endLine
  split
  · -- the dropped line ends: its report is among the entries already
    next dropped =>
    have long := discarding.mp dropped
    have longer : ¬ (tail stream ++ segment).length ≤ limit := by
      rw [List.length_append]; omega
    rw [heldOf, if_neg (Nat.not_le.mpr long)] at held
    rw [reference_of_lt long] at entries
    rw [verdict, if_neg longer, ← entries] at reached
    rw [ScanFramed, held]
    exact framed_fresh fresh reached.symm
  · next kept =>
    have short : (tail stream).length ≤ limit :=
      Nat.not_lt.mp fun long => kept (discarding.mpr long)
    rw [heldOf, if_pos short] at held
    rw [reference_of_le short] at entries
    rw [← entries, List.append_assoc] at reached
    simp only [held]
    split
    · next long =>
      rw [verdict, if_neg (Nat.not_le.mpr long)] at reached
      exact framed_fresh fresh (by simp [LineBuffer.Scan.drop, reached])
    · next fits =>
      rw [verdict, if_pos (Nat.not_lt.mp fits)] at reached
      rw [ScanFramed, Bool.not_eq_true s.discarding |>.mp kept]
      exact framed_fresh fresh (by simp [reached])

theorem framed_endChunk (free : lineTerminator ∉ segment) (h : ScanFramed limit stream before s) :
    ScanFramed limit (stream ++ segment) before (s.endChunk limit segment) := by
  obtain ⟨held, discarding, entries⟩ := h
  have line : tail (stream ++ segment) = tail stream ++ segment := tail_append free
  have lines : ended (stream ++ segment) = ended stream := ended_append free
  unfold LineBuffer.Scan.endChunk
  split
  · -- what is dropped only grows, and was reported when it became too long
    next dropped =>
    have long := discarding.mp dropped
    have longer : limit < (tail (stream ++ segment)).length := by
      rw [line, List.length_append]; omega
    refine ⟨?_, by simp [dropped, longer], ?_⟩
    · rw [held, heldOf, heldOf, if_neg (Nat.not_le.mpr long), if_neg (Nat.not_le.mpr longer)]
    · rw [entries, reference_of_lt long, reference_of_lt longer, lines]
  · next kept =>
    have short : (tail stream).length ≤ limit :=
      Nat.not_lt.mp fun long => kept (discarding.mpr long)
    rw [heldOf, if_pos short] at held
    rw [reference_of_le short, ← lines] at entries
    simp only [held, ← line]
    split
    · -- the line becomes too long here: it is reported before it ends
      next long =>
      refine ⟨?_, by simp [LineBuffer.Scan.drop, long], ?_⟩
      · rw [heldOf, if_neg (Nat.not_le.mpr long)]
        rfl
      · rw [reference_of_lt long, ← entries]
        simp [LineBuffer.Scan.drop]
    · next fits =>
      have fits := Nat.not_lt.mp fits
      refine ⟨by rw [heldOf, if_pos fits], by simp [kept, fits], ?_⟩
      rw [reference_of_le fits]
      exact entries

/-- The rest of a chunk; `segment` is what the scan holds of the line it is in, latest first. -/
theorem framed_run (chunk : Bytes) (free : lineTerminator ∉ segment)
    (h : ScanFramed limit stream before s) :
    ScanFramed limit (stream ++ segment.reverse ++ chunk) before (s.run limit segment chunk) := by
  -- the segment holds no terminator: one that comes moves it over to the stream
  induction chunk generalizing stream segment s with
  | nil =>
    rw [List.append_nil]
    exact framed_endChunk (by simpa using free) h
  | cons b rest ih =>
    rw [LineBuffer.Scan.run]
    split
    · next terminator =>
      have free : lineTerminator ∉ segment.reverse := by simpa using free
      have ended := ih List.not_mem_nil (framed_endLine free h)
      simpa [terminator] using ended
    · next inside =>
      have free : lineTerminator ∉ b :: segment := by simp [free, Ne.symm inside]
      have longer := ih free h
      simpa using longer

end Scanning

/-! ## Buffers -/

/-- A buffer that was fed a stream, of whose entries some were taken. -/
def BufferFramed (b : LineBuffer) (stream : Bytes) (taken : List LineEntry) : Prop :=
  Framed b.limit stream b.held b.discarding (taken ++ b.ready)

theorem framed_clear (b : LineBuffer) : BufferFramed b.clear [] [] := framed_nil b.limit

theorem framed_absorb {b : LineBuffer} {stream : Bytes} {taken : List LineEntry}
    (h : BufferFramed b stream taken) (chunk : Bytes) :
    BufferFramed (b.absorb chunk).1 (stream ++ chunk) taken := by
  have scanned : ScanFramed b.limit (stream ++ chunk) (taken ++ b.ready) (b.scan chunk) := by
    have start : ScanFramed b.limit stream (taken ++ b.ready) ⟨b.held, b.discarding, [], []⟩ := by
      rw [ScanFramed, List.reverse_nil, List.append_nil]
      exact h
    simpa [LineBuffer.scan] using framed_run chunk List.not_mem_nil start
  rw [ScanFramed, List.append_assoc] at scanned
  exact scanned

theorem framed_next {b rest : LineBuffer} {stream : Bytes} {taken : List LineEntry}
    {entry : LineEntry} (h : BufferFramed b stream taken) (next : b.next? = some (entry, rest)) :
    BufferFramed rest stream (taken ++ [entry]) := by
  cases ready : b.ready with
  | nil => simp [LineBuffer.next?, ready] at next
  | cons e es =>
    simp only [LineBuffer.next?, ready, Option.some.injEq, Prod.mk.injEq] at next
    obtain ⟨rfl, rfl⟩ := next
    rw [BufferFramed, ready] at h
    simpa [BufferFramed] using h

/-- A chunk completes as many entries as it adds to the reference. -/
theorem length_reference_absorb {b : LineBuffer} {stream : Bytes} {taken : List LineEntry}
    (h : BufferFramed b stream taken) (chunk : Bytes) :
    (reference b.limit stream).length + b.completedBy chunk =
      (reference b.limit (stream ++ chunk)).length := by
  have now := congrArg List.length h.entries_eq
  have after := congrArg List.length (framed_absorb h chunk).entries_eq
  have same : (b.absorb chunk).1.limit = b.limit := rfl
  have grown := LineBuffer.pending_absorb b chunk
  rw [same] at after
  simp only [List.length_append, LineBuffer.pending] at now after grown
  omega

/-! ## Sequences of calls -/

/-- What can be asked of a buffer. -/
inductive Call
  | absorb (chunk : Bytes)
  | next
  | clear

/-- A buffer in use, with what it was fed and what was taken from it since it was last cleared. -/
structure Usage where
  buffer : LineBuffer
  fed : Bytes
  taken : List LineEntry

namespace Usage

def ofLimit (maxMessageBytes : Nat) : Usage := ⟨.ofLimit maxMessageBytes, [], []⟩

def call (u : Usage) : Call → Usage
  | .absorb chunk => ⟨(u.buffer.absorb chunk).1, u.fed ++ chunk, u.taken⟩
  | .next =>
    match u.buffer.next? with
    | some (entry, buffer) => ⟨buffer, u.fed, u.taken ++ [entry]⟩
    | none => u
  | .clear => ⟨u.buffer.clear, [], []⟩

/-- A new buffer after a sequence of calls. -/
def run (maxMessageBytes : Nat) (calls : List Call) : Usage :=
  calls.foldl call (ofLimit maxMessageBytes)

end Usage

/-- One call keeps the buffer's limit, and its state is that of the stream it was fed. -/
theorem framed_call {u : Usage} (h : BufferFramed u.buffer u.fed u.taken) (call : Call) :
    (u.call call).buffer.limit = u.buffer.limit ∧
      BufferFramed (u.call call).buffer (u.call call).fed (u.call call).taken := by
  cases call with
  | absorb chunk => exact ⟨rfl, framed_absorb h chunk⟩
  | next =>
    unfold Usage.call
    cases next : u.buffer.next? with
    | none => exact ⟨rfl, h⟩
    | some taken => exact ⟨LineBuffer.limit_of_next? next, framed_next h next⟩
  | clear => exact ⟨rfl, framed_clear u.buffer⟩

theorem framed_calls (maxMessageBytes : Nat) (calls : List Call) :
    let u := Usage.run maxMessageBytes calls
    u.buffer.limit = max maxMessageBytes 1 ∧ BufferFramed u.buffer u.fed u.taken := by
  suffices general : ∀ u : Usage, BufferFramed u.buffer u.fed u.taken →
      (calls.foldl Usage.call u).buffer.limit = u.buffer.limit ∧
        BufferFramed (calls.foldl Usage.call u).buffer (calls.foldl Usage.call u).fed
          (calls.foldl Usage.call u).taken from
    general (.ofLimit maxMessageBytes) (framed_nil _)
  induction calls with
  | nil => exact fun u h => ⟨rfl, h⟩
  | cons call rest ih =>
    intro u h
    obtain ⟨limit, framed⟩ := framed_call h call
    obtain ⟨limit', framed'⟩ := ih (u.call call) framed
    exact ⟨limit'.trans limit, framed'⟩

/-- The buffer after any calls: the entries taken and those waiting are the reference entries of
what was fed since the last clear, wherever it was cut; so many bytes of the unfinished line are
held back; and a chunk completes as many entries as it adds to the reference. -/
theorem entries_eq_reference (maxMessageBytes : Nat) (calls : List Call) :
    let limit := max maxMessageBytes 1
    let u := Usage.run maxMessageBytes calls
    u.taken ++ u.buffer.ready = reference limit u.fed ∧
    u.buffer.heldBytes =
      (if (tail u.fed).length ≤ limit then (tail u.fed).length else 0) ∧
    ∀ chunk, (reference limit u.fed).length + u.buffer.completedBy chunk =
      (reference limit (u.fed ++ chunk)).length := by
  intro limit u
  obtain ⟨same, framed⟩ := framed_calls maxMessageBytes calls
  have same : u.buffer.limit = limit := same
  refine ⟨same ▸ framed.entries_eq, ?_, fun chunk => ?_⟩
  · rw [LineBuffer.heldBytes, framed.held_eq, heldOf, same]
    split <;> rfl
  · rw [← same]
    exact length_reference_absorb framed chunk

end DetectionLink.Framing
