import DetectionLink.Proofs.Delivery
import DetectionLink.Proofs.Traffic

/-!
# What is taken from the line buffer

Chunks go into a line buffer and entries come out of it, each at its own time. The order of the two
does not matter: whatever chunks were read and whatever entries were taken, the buffer is that of
all the chunks without the entries. So nothing that was read and not taken is lost as long as the
stream is open.

* `chunksRead`: the chunks of a trace; `Elapsed`: chunks and deeds between two states of the world;
* `LineBuffer.absorbAll`, `putBack`: chunks going in, entries that came out put back in front;
* `Took`: what an open channel, a lost one and a closed one have taken;
* `drawn_receiveUntil`, `heard_waitUntil`: one receive, one wait.
-/

namespace DetectionLink

open Framing

variable {σ F : Type}

/-! ## Chunks read -/

namespace Event

def chunk? : Event F → Option Bytes
  | .read _ (.chunk received) => some received.bytes
  | _ => none

end Event

/-- The chunks that were read, in order. -/
def chunksRead (trace : List (Event F)) : List Bytes := trace.filterMap Event.chunk?

theorem chunksRead_append (a b : List (Event F)) :
    chunksRead (a ++ b) = chunksRead a ++ chunksRead b :=
  List.filterMap_append

/-- No chunk is empty, so that without a byte there is no chunk. -/
theorem chunksRead_eq_nil {trace : List (Event F)} (nothing : received trace = []) :
    chunksRead trace = [] := by
  refine List.filterMap_eq_nil_iff.mpr fun event mem => ?_
  have none : event.bytes = [] := List.flatMap_eq_nil_iff.mp nothing event mem
  cases event with
  | read handle outcome =>
    cases outcome with
    | chunk brought => exact absurd none brought.ne_nil
    | _ => rfl
  | _ => rfl

/-- The bytes read are those of the chunks. -/
theorem received_eq_flatten (trace : List (Event F)) :
    received trace = (chunksRead trace).flatten := by
  induction trace with
  | nil => rfl
  | cons event rest ih =>
    have first : received (event :: rest) = event.bytes ++ received rest := rfl
    rw [first, ih]
    cases event with
    | read handle outcome => cases outcome <;> rfl
    | _ => rfl

/-- Between two states of the world these chunks were read, these deeds happened, and there was
nothing else but quiet events. -/
def Elapsed (chunks : List Bytes) (done : List (Event F)) (t t' : Traced σ F) : Prop :=
  ∃ added, t'.trace = t.trace ++ added ∧ chunksRead added = chunks ∧ deeds added = done

namespace Elapsed

variable {chunks more : List Bytes} {a b : List (Event F)} {t t' t'' : Traced σ F}

theorem refl (t : Traced σ F) : Elapsed [] [] t t := ⟨[], (List.append_nil _).symm, rfl, rfl⟩

theorem trans (h : Elapsed chunks a t t') (k : Elapsed more b t' t'') :
    Elapsed (chunks ++ more) (a ++ b) t t'' := by
  obtain ⟨added, grown, read, done⟩ := h
  obtain ⟨later, grown', read', done'⟩ := k
  refine ⟨added ++ later, ?_, ?_, ?_⟩
  · rw [grown', grown, List.append_assoc]
  · rw [chunksRead_append, read, read']
  · rw [deeds_append, done, done']

/-- Quiet events that brought nothing, on top. -/
theorem quiet (h : Elapsed chunks a t t') (k : Elapsed [] [] t' t'') : Elapsed chunks a t t'' :=
  List.append_nil chunks ▸ List.append_nil a ▸ h.trans k

/-- What brought no byte. -/
theorem of_happened (h : Happened a t t') (same : received t'.trace = received t.trace) :
    Elapsed [] a t t' := by
  obtain ⟨added, grown, done⟩ := h
  rw [grown, received_append] at same
  exact ⟨added, grown, chunksRead_eq_nil (List.append_right_eq_self.mp same), done⟩

/-- A log record on top. -/
theorem note (h : Elapsed chunks a t t') (H : Host σ) (record : Record) :
    Elapsed chunks a t ((H.traced F).note record t') :=
  h.quiet ⟨[.noted record], rfl, rfl, rfl⟩

/-- All that a whole run did is in its trace. -/
theorem of_start {w : σ} (h : Elapsed chunks a (.start w) t) :
    chunksRead t.trace = chunks ∧ deeds t.trace = a := by
  obtain ⟨added, grown, read, done⟩ := h
  rw [grown]
  exact ⟨read, done⟩

end Elapsed

/-! ## Chunks in, entries out -/

namespace LineBuffer

/-- The buffer after chunks that follow each other. -/
def absorbAll (b : LineBuffer) (chunks : List Bytes) : LineBuffer :=
  chunks.foldl (fun b chunk => (b.absorb chunk).1) b

/-- The buffer with entries in front of those that wait. -/
def putBack (taken : List LineEntry) (b : LineBuffer) : LineBuffer :=
  { b with ready := taken ++ b.ready }

theorem absorbAll_append (b : LineBuffer) (chunks more : List Bytes) :
    b.absorbAll (chunks ++ more) = (b.absorbAll chunks).absorbAll more :=
  List.foldl_append

/-- A chunk is appended to what waits, whatever that is. -/
theorem absorb_putBack (taken : List LineEntry) (b : LineBuffer) (chunk : Bytes) :
    ((b.putBack taken).absorb chunk).1 = (b.absorb chunk).1.putBack taken := by
  simp [absorb, ofScan, scan, putBack]

theorem absorbAll_putBack (taken : List LineEntry) (b : LineBuffer) (chunks : List Bytes) :
    (b.putBack taken).absorbAll chunks = (b.absorbAll chunks).putBack taken := by
  induction chunks generalizing b with
  | nil => rfl
  | cons chunk rest ih =>
    show ((b.putBack taken).absorb chunk).1.absorbAll rest = _
    rw [absorb_putBack, ih]
    rfl

theorem limit_absorbAll (b : LineBuffer) (chunks : List Bytes) :
    (b.absorbAll chunks).limit = b.limit := by
  induction chunks generalizing b with
  | nil => rfl
  | cons chunk rest ih => exact ih (b.absorb chunk).1

/-- Chunks are framed one after another. -/
theorem framed_absorbAll {b : LineBuffer} {stream : Bytes} {taken : List LineEntry}
    (h : BufferFramed b stream taken) (chunks : List Bytes) :
    BufferFramed (b.absorbAll chunks) (stream ++ chunks.flatten) taken := by
  induction chunks generalizing b stream with
  | nil =>
    rw [List.flatten_nil, List.append_nil]
    exact h
  | cons chunk rest ih =>
    rw [List.flatten_cons, ← List.append_assoc]
    exact ih (framed_absorb h chunk)

theorem putBack_putBack (taken more : List LineEntry) (b : LineBuffer) :
    (b.putBack more).putBack taken = b.putBack (taken ++ more) := by
  simp [putBack]

theorem putBack_of_next? {b rest : LineBuffer} {entry : LineEntry}
    (next : b.next? = some (entry, rest)) : rest.putBack [entry] = b := by
  cases ready : b.ready with
  | nil => simp [next?, ready] at next
  | cons first others =>
    simp only [next?, ready, Option.some.injEq, Prod.mk.injEq] at next
    obtain ⟨rfl, rfl⟩ := next
    exact congrArg (fun ready => { b with ready }) ready.symm

end LineBuffer

/-! ## Channels -/

/-- What became of a channel that read `chunks` and handed out `taken`. An open channel has the
rest of what it read; one that lost its stream has nothing, and what it handed out came first; one
without a stream reads nothing and hands out nothing. -/
inductive Took : List Bytes → List LineEntry → Channel → Channel → Prop
  | live {chunks : List Bytes} {taken : List LineEntry} {c c' : Channel}
      (isOpen : c.stream.isSome) (stream : c'.stream = c.stream)
      (lines : c.lines.absorbAll chunks = c'.lines.putBack taken) : Took chunks taken c c'
  | lost {chunks : List Bytes} {taken : List LineEntry} {c c' : Channel}
      (wasOpen : c.stream.isSome) (gone : c'.stream = none) (clear : c'.lines.IsClear)
      (first : taken <+: (c.lines.absorbAll chunks).ready) : Took chunks taken c c'
  | closed {c c' : Channel} (gone : c.stream = none) (stream : c'.stream = none)
      (lines : c'.lines = c.lines) : Took [] [] c c'

namespace Took

variable {chunks chunks' : List Bytes} {taken taken' : List LineEntry} {c c' c'' : Channel}

/-- A channel with the same stream and the same lines. -/
theorem unchanged (stream : c'.stream = c.stream) (lines : c'.lines = c.lines) :
    Took [] [] c c' := by
  cases handle : c.stream with
  | none => exact .closed handle (stream.trans handle) lines
  | some _ => exact .live (handle ▸ rfl) stream lines.symm

theorem refl (c : Channel) : Took [] [] c c := unchanged rfl rfl

/-- Closing an open channel. -/
theorem close (isOpen : c.stream.isSome) : Took [] [] c c.closed :=
  .lost isOpen rfl rfl List.nil_prefix

theorem trans (h : Took chunks taken c c') (k : Took chunks' taken' c' c'') :
    Took (chunks ++ chunks') (taken ++ taken') c c'' := by
  cases h with
  | live isOpen stream lines =>
    cases k with
    | live _ stream' lines' =>
      refine .live isOpen (stream'.trans stream) ?_
      rw [LineBuffer.absorbAll_append, lines, LineBuffer.absorbAll_putBack, lines',
        LineBuffer.putBack_putBack]
    | lost _ gone clear first =>
      refine .lost isOpen gone clear ?_
      rw [LineBuffer.absorbAll_append, lines, LineBuffer.absorbAll_putBack]
      exact (List.prefix_append_right_inj taken).mpr first
    | closed gone _ _ => simp [← stream, gone] at isOpen
  | lost wasOpen gone clear first =>
    -- without a stream nothing more is read or taken
    cases k with
    | live isOpen _ _ => simp [gone] at isOpen
    | lost isOpen _ _ _ => simp [gone] at isOpen
    | closed _ gone' lines =>
      rw [List.append_nil, List.append_nil]
      exact .lost wasOpen gone' (lines ▸ clear) first
  | closed gone stream lines =>
    cases k with
    | live isOpen _ _ => simp [stream] at isOpen
    | lost isOpen _ _ _ => simp [stream] at isOpen
    | closed _ stream' lines' => exact .closed gone stream' (lines'.trans lines)

/-- Whatever happened to the channel, the entries were taken in the order of their arrival. -/
theorem isPrefix (h : Took chunks taken c c') : taken <+: (c.lines.absorbAll chunks).ready := by
  cases h with
  | live _ _ lines =>
    rw [lines]
    exact List.prefix_append taken _
  | lost _ _ _ first => exact first
  | closed _ _ _ => exact List.nil_prefix

/-- A channel that still has its stream has all that was read and not taken. -/
theorem lines_eq (h : Took chunks taken c c') (isOpen : c'.stream.isSome) :
    c.lines.absorbAll chunks = c'.lines.putBack taken := by
  cases h with
  | live _ _ lines => exact lines
  | lost _ gone _ _ => simp [gone] at isOpen
  | closed _ gone _ => simp [gone] at isOpen

end Took

/-- Closing a channel, whether it is open or not. -/
theorem took_closed {c : Channel} (sound : c.Sound) : Took [] [] c c.closed := by
  cases stream : c.stream with
  | none => exact .closed stream rfl (sound.clear_of_closed stream).symm
  | some handle => exact .close (stream ▸ rfl)

/-! ## Receives -/

variable {H : Host σ}

/-- What a receive took, and what it says of the stream. -/
structure Drawn (c : Channel) (t : Traced σ F) (r : Inbound × Channel × Traced σ F) : Prop where
  took : ∃ chunks, Elapsed chunks [] t r.2.2 ∧ Took chunks r.1.entries c r.2.1
  gone : r.1 = .disconnected → r.2.1.stream = none

/-- The stream ends or fails. -/
theorem drawn_close {c : Channel} {t t' : Traced σ F} {handle : Nat}
    (stream : c.stream = some handle) (elapsed : Elapsed [] [] t t') :
    Drawn c t (.disconnected, c.close (H.traced F) t') where
  took := by
    have closing : Elapsed [] [] t' (c.close (H.traced F) t').2 :=
      .of_happened (happened_close c t') (received_close c t')
    rw [Channel.close_fst]
    exact ⟨_, elapsed.quiet closing, .close (stream ▸ rfl)⟩
  gone _ := by
    rw [Channel.close_fst]
    rfl

theorem drawn_receiveUntil (deadline : Option Instant) {c : Channel} {t : Traced σ F}
    (sound : c.Sound) : Drawn c t (c.receiveUntil (H.traced F) deadline t) := by
  induction c, t using Channel.receiveUntil.induct (H.traced F) deadline with
  | case1 c t entry lines next =>
    rw [Channel.receiveUntil_entry next]
    have entries := Inbound.entries_ofEntry entry
    refine ⟨⟨[], .refl t, ?_⟩, ?_⟩
    · rw [entries]
      exact .live (sound.isSome_of_next next) rfl (LineBuffer.putBack_of_next? next).symm
    · intro lost
      have lost : Inbound.ofEntry entry = .disconnected := lost
      rw [lost] at entries
      cases entries
  | case2 c t next stream =>
    rw [Channel.receiveUntil_noStream next stream]
    exact ⟨⟨[], .refl t, .refl c⟩, fun _ => stream⟩
  | case3 c t next handle stream got chunk brought spent absorbed ih =>
    rw [Channel.receiveUntil_chunk next stream brought]
    have isOpen : c.stream.isSome := stream ▸ rfl
    obtain ⟨⟨chunks, elapsed, took⟩, gone⟩ := ih (Channel.sound_lines sound isOpen rfl)
    have read : Elapsed [chunk.bytes] [] t got.2 := by
      refine ⟨[.read handle got.1], rfl, ?_, rfl⟩
      rw [brought]
      rfl
    have noted : Elapsed [] [] got.2 ((H.traced F).noteAll absorbed.2 got.2) :=
      .of_happened (happened_noteAll H _ _) (received_noteAll H _ _)
    have absorb : Took [chunk.bytes] [] c { c with lines := absorbed.1 } := .live isOpen rfl rfl
    exact ⟨⟨_, (read.quiet noted).trans elapsed, absorb.trans took⟩, gone⟩
  | case4 c t next handle stream got interrupted spent ih =>
    rw [Channel.receiveUntil_interrupted next stream interrupted]
    have read := Elapsed.of_happened (happened_read H t handle deadline)
      (received_read_quiet (F := F) interrupted rfl)
    obtain ⟨⟨chunks, elapsed, took⟩, gone⟩ := ih sound
    exact ⟨⟨_, read.trans elapsed, took⟩, gone⟩
  | case5 c t next handle stream got expired =>
    rw [Channel.receiveUntil_expired next stream expired]
    have read := Elapsed.of_happened (happened_read H t handle deadline)
      (received_read_quiet (F := F) expired rfl)
    exact ⟨⟨_, read, .refl c⟩, Inbound.noConfusion⟩
  | case6 c t next handle stream got ended =>
    rw [Channel.receiveUntil_ended next stream ended]
    have read := Elapsed.of_happened (happened_read H t handle deadline)
      (received_read_quiet (F := F) ended rfl)
    exact drawn_close stream (read.note H _)
  | case7 c t next handle stream got reason failed =>
    rw [Channel.receiveUntil_failed next stream failed]
    have read := Elapsed.of_happened (happened_read H t handle deadline)
      (received_read_quiet (F := F) failed rfl)
    exact drawn_close stream (read.note H _)

/-! ## Waits -/

/-- What a wait took: every entry is the command it hands out, or was counted as skipped. -/
structure Heard (b : Inbox) (c : Channel) (t : Traced σ F) (chunks : List Bytes)
    (taken : List LineEntry) (r : CommandEvent × Inbox × Channel × Traced σ F) : Prop where
  elapsed : Elapsed chunks [] t r.2.2.2
  took : Took chunks taken c r.2.2.1
  commands_eq : taken.filterMap commandOf? = r.1.commands
  dispatched_eq : r.2.1.dispatched = b.dispatched + r.1.commands.length
  discarded_eq : r.2.1.discarded = b.discarded + taken.countP isSkipped
  gone : r.1 = .disconnected → r.2.2.1.stream = none

/-- An entry that is skipped, in front of the rest of a wait. -/
theorem Heard.skip {b : Inbox} {c c' : Channel} {t t' : Traced σ F} {chunks more : List Bytes}
    {taken : List LineEntry} {entry : LineEntry} {r : CommandEvent × Inbox × Channel × Traced σ F}
    (rest : Heard b.discard c' t' more taken r) (elapsed : Elapsed chunks [] t t')
    (took : Took chunks [entry] c c') (skipped : commandOf? entry = none) :
    Heard b c t (chunks ++ more) (entry :: taken) r where
  elapsed := elapsed.trans rest.elapsed
  took := took.trans rest.took
  commands_eq := (List.filterMap_cons_none skipped).trans rest.commands_eq
  dispatched_eq := rest.dispatched_eq
  discarded_eq := by
    have isSkip : isSkipped entry = true := by rw [isSkipped, skipped]; rfl
    rw [rest.discarded_eq, List.countP_cons_of_pos isSkip, Inbox.discard, Nat.add_right_comm,
      Nat.add_assoc]
  gone := rest.gone

theorem heard_waitUntil (deadline : Option Instant) {b : Inbox} {c : Channel} {t : Traced σ F}
    (sound : c.Sound) :
    ∃ chunks taken, Heard b c t chunks taken (b.waitUntil (H.traced F) deadline c t) := by
  -- the induction is over the skipped lines
  induction b, c, t using Inbox.waitUntil.induct (H.traced F) deadline with
  | case1 b c t got line brought command read =>
    rw [Inbox.waitUntil_command brought read]
    obtain ⟨⟨chunks, elapsed, took⟩, -⟩ := drawn_receiveUntil (H := H) deadline (t := t) sound
    rw [brought] at took
    have isCommand := commandOf?_ok read
    refine ⟨chunks, [.ok line], elapsed.note H _, took, ?_, rfl, ?_, CommandEvent.noConfusion⟩
    · exact List.filterMap_cons_some isCommand
    · rw [List.countP_cons_of_neg (by simp [isSkipped, isCommand])]
      rfl
  | case2 b c t got line brought e read spent ih =>
    rw [Inbox.waitUntil_skipped brought read]
    obtain ⟨⟨chunks, elapsed, took⟩, -⟩ := drawn_receiveUntil (H := H) deadline (t := t) sound
    rw [brought] at took
    obtain ⟨more, taken, rest⟩ := ih (Channel.sound_receiveUntil sound)
    exact ⟨_, _, rest.skip (elapsed.note H _) took (commandOf?_error read)⟩
  | case3 b c t got e brought spent ih =>
    rw [Inbox.waitUntil_rejected brought]
    obtain ⟨⟨chunks, elapsed, took⟩, -⟩ := drawn_receiveUntil (H := H) deadline (t := t) sound
    rw [brought] at took
    obtain ⟨more, taken, rest⟩ := ih (Channel.sound_receiveUntil sound)
    exact ⟨_, _, rest.skip (elapsed.note H _) took rfl⟩
  | case4 b c t got brought =>
    rw [Inbox.waitUntil_noMessage brought]
    obtain ⟨⟨chunks, elapsed, took⟩, -⟩ := drawn_receiveUntil (H := H) deadline (t := t) sound
    rw [brought] at took
    exact ⟨chunks, [], elapsed, took, rfl, rfl, rfl, CommandEvent.noConfusion⟩
  | case5 b c t got brought =>
    rw [Inbox.waitUntil_disconnected brought]
    obtain ⟨⟨chunks, elapsed, took⟩, gone⟩ := drawn_receiveUntil (H := H) deadline (t := t) sound
    rw [brought] at took
    exact ⟨chunks, [], elapsed.note H _, took, rfl, rfl, rfl, fun _ => gone brought⟩

end DetectionLink
