import DetectionLink.Service

/-!
# Log records about streams

Two records are about the stream of a link: one tells that it was opened, the other that it was
closed. Every other record of the link is told from these by its level or by its first words,
whatever paths and messages it goes on with.

* `Record.reportsOpened`, `reportsClosed`, `reportsStream`: the two kinds of records;
* `openedRecord`, `closedRecord`: the records themselves;
* `reportsStream_info`: only the first words of informational records matter;
* `reportsStream_of_absorb`, `reportsStream_attempt`: records of the line buffer and of failed
  attempts.
-/

namespace DetectionLink

namespace Record

/-- The record tells that a stream was opened. -/
def reportsOpened (r : Record) : Bool :=
  r.level = .info && "Connected to ".toList.isPrefixOf r.message.toList

/-- The record tells that a stream was closed. -/
def reportsClosed (r : Record) : Bool :=
  r.level = .info && "Closed connection to ".toList.isPrefixOf r.message.toList

/-- The record tells what became of a stream. -/
def reportsStream (r : Record) : Bool := r.reportsOpened || r.reportsClosed

theorem reportsStream_info (message : String) :
    (info message).reportsStream =
      ("Connected to ".toList.isPrefixOf message.toList ||
        "Closed connection to ".toList.isPrefixOf message.toList) := rfl

end Record

/-- The record of a stream that was opened at some attempt. -/
def openedRecord (path : String) (attempts : Nat) : Record :=
  .info s!"Connected to {path} (attempt {attempts})"

/-- The record of a stream that was closed. -/
def closedRecord (path : String) : Record := .info s!"Closed connection to {path}"

theorem reportsOpened_openedRecord (path : String) (attempts : Nat) :
    (openedRecord path attempts).reportsOpened = true := by
  simp [openedRecord, Record.reportsOpened, Record.info, toString]

theorem reportsClosed_closedRecord (path : String) :
    (closedRecord path).reportsClosed = true := by
  simp [closedRecord, Record.reportsClosed, Record.info, toString]

theorem reportsStream_openedRecord (path : String) (attempts : Nat) :
    (openedRecord path attempts).reportsStream = true := by
  rw [Record.reportsStream, reportsOpened_openedRecord, Bool.true_or]

theorem reportsStream_closedRecord (path : String) :
    (closedRecord path).reportsStream = true := by
  rw [Record.reportsStream, reportsClosed_closedRecord, Bool.or_true]

/-! ## Other records -/

theorem reportsStream_attemptRecord (interval : Duration) (outcome : AttemptOutcome) :
    (Channel.attemptRecord interval outcome).reportsStream = false := by
  cases outcome <;> rfl

theorem LineBuffer.reportsStream_of_absorb {b : LineBuffer} {chunk : Bytes} {r : Record}
    (mem : r ∈ (b.absorb chunk).2) : r.reportsStream = false := by
  rcases List.mem_append.mp mem with dropped | fed
  · obtain ⟨length, -, rfl⟩ := List.mem_map.mp dropped
    rfl
  · rw [List.mem_singleton.mp fed]
    rfl

theorem reportsStream_connecting (path : String) :
    (Record.info s!"Connecting to {path}").reportsStream = false := by
  simp [Record.reportsStream_info, toString, List.isPrefixOf]

theorem Session.reportsStream_startedRecord (settings : SessionSettings) (plan : Plan) :
    (startedRecord settings plan).reportsStream = false := by
  simp [startedRecord, Record.reportsStream_info, toString, List.isPrefixOf]

theorem Session.reportsStream_endedRecord (report : SessionReport) :
    (endedRecord report).reportsStream = false := by
  simp [endedRecord, Record.reportsStream_info, toString, List.isPrefixOf]

theorem Service.reportsStream_startRecord (start : StartCommand) :
    (startRecord start).reportsStream = false := by
  simp [startRecord, Record.reportsStream_info, toString, List.isPrefixOf]

end DetectionLink
