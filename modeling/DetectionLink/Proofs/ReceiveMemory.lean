import DetectionLink.Proofs.ClientRuns
import Mathlib.Algebra.GroupWithZero.Nat
import Mathlib.Data.List.Induction

/-!
# A peer cannot grow the receive memory

What a client holds of its peer's stream is bounded. The line buffer alone bounds the unfinished
line, but queues whatever a chunk completes; it is only because a channel reads when no entry waits
that all it holds comes from one unfinished line and one chunk.

* `reference_line`: the lines of a stream are short and free of terminators;
* `bytesHeld_absorb`, `pending_absorb_le`: what a chunk adds;
* `Channel.Frugal`, `kept_frugal`: the bounds as an invariant of channels;
* `receive_memory_bounded`: the bounds after any actions of a client.
-/

namespace DetectionLink

/-! ## Lines of a stream -/

namespace Framing

theorem terminator_not_mem_tail (stream : Bytes) :
    lineTerminator ∉ tail stream ∧ ∀ line ∈ ended stream, lineTerminator ∉ line := by
  -- a byte that ends no line joins the unfinished one, a terminator moves that to the ended ones
  induction stream using List.reverseRecOn with
  | nil => exact ⟨List.not_mem_nil, nofun⟩
  | append_singleton stream b ih =>
    obtain ⟨unfinished, lines⟩ := ih
    by_cases terminator : b = lineTerminator
    · rw [terminator, tail_terminated, ended_terminated]
      refine ⟨List.not_mem_nil, fun line mem => ?_⟩
      rcases List.mem_append.mp mem with earlier | last
      · exact lines line earlier
      · rw [List.mem_singleton.mp last]
        exact unfinished
    · have free : lineTerminator ∉ [b] := by simpa using Ne.symm terminator
      rw [tail_append free, ended_append free]
      refine ⟨fun mem => ?_, lines⟩
      rcases List.mem_append.mp mem with earlier | last
      · exact unfinished earlier
      · exact free last

/-- A line among the entries of a stream is within the limit and free of terminators. -/
theorem reference_line {limit : Nat} {stream line : Bytes}
    (mem : .ok line ∈ reference limit stream) :
    line.length ≤ limit ∧ lineTerminator ∉ line := by
  rw [reference] at mem
  rcases List.mem_append.mp mem with whole | report
  · obtain ⟨text, text_mem, judged⟩ := List.mem_map.mp whole
    unfold verdict at judged
    split at judged
    · next short =>
      obtain rfl := Except.ok.inj judged
      exact ⟨short, (terminator_not_mem_tail stream).2 text text_mem⟩
    · cases judged
  · unfold tailReport at report
    split at report
    · cases report
    · cases List.mem_singleton.mp report

theorem length_heldOf_le (limit : Nat) (stream : Bytes) : (heldOf limit stream).length ≤ limit := by
  unfold heldOf
  split
  · assumption
  · exact Nat.zero_le _

theorem terminator_not_mem_heldOf (limit : Nat) (stream : Bytes) :
    lineTerminator ∉ heldOf limit stream := by
  unfold heldOf
  split
  · exact (terminator_not_mem_tail stream).1
  · exact List.not_mem_nil

end Framing

/-! ## What a chunk adds -/

namespace LineBuffer

/-- The bytes of an entry that waits. A report has none. -/
def entryBytes : LineEntry → Nat
  | .ok line => line.length
  | .error _ => 0

/-- All bytes held: those of the lines that wait and those of the unfinished line. -/
def bytesHeld (b : LineBuffer) : Nat := (b.ready.map entryBytes).sum + b.held.length

namespace Scan

def bytesHeld (s : Scan) : Nat := (s.completed.map entryBytes).sum + s.held.length

variable {limit : Nat} {s : Scan}

theorem bytesHeld_endLine (limit : Nat) (segment : Bytes) (s : Scan) :
    (s.endLine limit segment).bytesHeld ≤ s.bytesHeld + segment.length := by
  unfold endLine
  split
  · exact Nat.le_add_right _ _
  · dsimp only
    split <;> simp [bytesHeld, drop, entryBytes] <;> omega

theorem bytesHeld_endChunk (limit : Nat) (segment : Bytes) (s : Scan) :
    (s.endChunk limit segment).bytesHeld ≤ s.bytesHeld + segment.length := by
  unfold endChunk
  split
  · exact Nat.le_add_right _ _
  · dsimp only
    split <;> simp [bytesHeld, drop, entryBytes] <;> omega

/-- Bytes that a scan goes over are held once, or dropped. -/
theorem bytesHeld_run (limit : Nat) (s : Scan) (segment chunk : Bytes) :
    (s.run limit segment chunk).bytesHeld ≤ s.bytesHeld + segment.length + chunk.length := by
  induction chunk generalizing s segment with
  | nil =>
    have last := bytesHeld_endChunk limit segment.reverse s
    rw [List.length_reverse] at last
    exact last
  | cons b rest ih =>
    rw [run]
    split
    · have line := bytesHeld_endLine limit segment.reverse s
      have others := ih (s.endLine limit segment.reverse) []
      simp only [List.length_reverse, List.length_nil, List.length_cons] at *
      omega
    · have longer := ih s (b :: segment)
      simp only [List.length_cons] at *
      omega

theorem held_endLine (segment : Bytes) (fits : s.held.length ≤ limit) :
    (s.endLine limit segment).held.length ≤ limit := by
  unfold endLine
  split
  · exact fits
  · dsimp only
    split <;> exact Nat.zero_le _

theorem completed_endLine (limit : Nat) (segment : Bytes) (s : Scan) :
    (s.endLine limit segment).completed.length ≤ s.completed.length + 1 := by
  unfold endLine
  split
  · exact Nat.le_succ _
  · dsimp only
    split <;> exact Nat.le_refl _

/-- The unfinished line is reported only if the chunk made it too long. -/
theorem completed_endChunk (segment : Bytes) (fits : s.held.length ≤ limit) :
    (s.endChunk limit segment).completed.length ≤ s.completed.length + segment.length := by
  unfold endChunk
  split
  · exact Nat.le_add_right _ _
  · dsimp only
    split
    · next long =>
      rw [List.length_append] at long
      simp only [drop, List.length_cons]
      omega
    · exact Nat.le_add_right _ _

/-- Every entry that a scan completes costs it a byte. -/
theorem completed_run (segment chunk : Bytes) (fits : s.held.length ≤ limit) :
    (s.run limit segment chunk).completed.length ≤
      s.completed.length + segment.length + chunk.length := by
  induction chunk generalizing s segment with
  | nil =>
    have last := completed_endChunk segment.reverse fits
    rw [List.length_reverse] at last
    exact last
  | cons b rest ih =>
    rw [run]
    split
    · have line := completed_endLine limit segment.reverse s
      have others := ih [] (held_endLine segment.reverse fits)
      simp only [List.length_nil, List.length_cons] at *
      omega
    · have longer := ih (b :: segment) fits
      simp only [List.length_cons] at *
      omega

end Scan

theorem bytesHeld_absorb (b : LineBuffer) (chunk : Bytes) :
    (b.absorb chunk).1.bytesHeld ≤ b.bytesHeld + chunk.length := by
  have scanned := Scan.bytesHeld_run b.limit ⟨b.held, b.discarding, [], []⟩ [] chunk
  have absorbed : (b.absorb chunk).1.bytesHeld =
      (b.ready.map entryBytes).sum + (b.scan chunk).bytesHeld := by
    simp only [bytesHeld, Scan.bytesHeld, absorb, ofScan, List.map_append, List.sum_append,
      List.map_reverse, List.sum_reverse, Nat.add_assoc]
  rw [absorbed, bytesHeld]
  simp only [Scan.bytesHeld, List.map_nil, List.sum_nil, List.length_nil] at scanned
  unfold scan Scan.bytesHeld
  omega

theorem pending_absorb_le {b : LineBuffer} (fits : b.held.length ≤ b.limit) (chunk : Bytes) :
    (b.absorb chunk).1.pending ≤ b.pending + chunk.length := by
  have scanned := Scan.completed_run (s := ⟨b.held, b.discarding, [], []⟩) [] chunk fits
  have absorbed : (b.absorb chunk).1.pending =
      b.pending + (b.scan chunk).completed.length := by
    simp [absorb, ofScan, pending]
  simp only [List.length_nil, Nat.zero_add, Nat.add_zero] at scanned
  rw [absorbed]
  exact Nat.add_le_add_left scanned _

/-- Taking an entry leaves less. -/
theorem bytesHeld_next {b rest : LineBuffer} {entry : LineEntry}
    (next : b.next? = some (entry, rest)) : rest.bytesHeld ≤ b.bytesHeld := by
  cases ready : b.ready with
  | nil => simp [next?, ready] at next
  | cons first others =>
    simp only [next?, ready, Option.some.injEq, Prod.mk.injEq] at next
    obtain ⟨-, rfl⟩ := next
    simp only [bytesHeld, ready, List.map_cons, List.sum_cons]
    omega

end LineBuffer

/-! ## Channels -/

namespace Channel

open Framing

namespace Orderly

variable {c : Channel}

theorem held_le (h : c.Orderly) : c.lines.held.length ≤ c.lines.limit := by
  obtain ⟨stream, taken, framed⟩ := h.framed
  rw [framed.held_eq]
  exact length_heldOf_le _ _

theorem terminator_not_mem_held (h : c.Orderly) : lineTerminator ∉ c.lines.held := by
  obtain ⟨stream, taken, framed⟩ := h.framed
  rw [framed.held_eq]
  exact terminator_not_mem_heldOf _ _

theorem line_of_mem (h : c.Orderly) {line : Bytes} (mem : .ok line ∈ c.lines.ready) :
    line.length ≤ c.lines.limit ∧ lineTerminator ∉ line := by
  obtain ⟨stream, taken, framed⟩ := h.framed
  have waits : .ok line ∈ reference c.lines.limit stream := by
    rw [← framed.entries_eq]
    exact List.mem_append_right taken mem
  exact reference_line waits

end Orderly

/-- The bounds on what a channel holds, besides those that its buffer keeps by itself. -/
structure Frugal (c : Channel) : Prop where
  orderly : c.Orderly
  bytes_le : c.lines.bytesHeld ≤ c.lines.limit + readSize
  pending_le : c.lines.pending ≤ readSize

theorem frugal_clear {c : Channel} (orderly : c.Orderly) (clear : c.lines.IsClear) : c.Frugal := by
  refine ⟨orderly, ?_, ?_⟩ <;> rw [clear] <;> exact Nat.zero_le _

theorem kept_frugal : Kept Frugal where
  next h next := by
    have less := LineBuffer.bytesHeld_next next
    have fewer := LineBuffer.pending_of_next? next
    have limit := LineBuffer.limit_of_next? next
    have bytes := h.bytes_le
    have entries := h.pending_le
    refine ⟨kept_orderly.next h.orderly next, ?_, ?_⟩ <;> dsimp only <;> omega
  absorb {c} chunk h empty isOpen := by
    -- no entry waits, so that all there is are the unfinished line and the chunk
    have none := LineBuffer.ready_of_next?_none empty
    have fits := h.orderly.held_le
    have bytes := LineBuffer.bytesHeld_absorb c.lines chunk.bytes
    have entries := LineBuffer.pending_absorb_le fits chunk.bytes
    have size := chunk.length_le
    have only : c.lines.bytesHeld = c.lines.held.length := by simp [LineBuffer.bytesHeld, none]
    have nothing : c.lines.pending = 0 := congrArg List.length none
    have limit : (c.lines.absorb chunk.bytes).1.limit = c.lines.limit := rfl
    refine ⟨kept_orderly.absorb chunk h.orderly empty isOpen, ?_, ?_⟩ <;> dsimp only <;> omega
  close h := frugal_clear (kept_orderly.close h.orderly) rfl
  opened handle h idle := frugal_clear (kept_orderly.opened handle h.orderly idle) rfl
  gaveUp h idle := frugal_clear (kept_orderly.gaveUp h.orderly idle) rfl

theorem kept_config (config : ChannelConfig) : Kept fun c => c.config = config where
  next h _ := h
  absorb _ h _ _ := h
  close h := h
  opened _ h _ := h
  gaveUp h _ := h

variable {σ : Type} {H : Host σ}

/-- A line that a receive hands out. -/
theorem line_of_receiveUntil {deadline : Option Instant} {c : Channel} {w : σ} {line : Bytes}
    (h : c.Orderly) (brought : (c.receiveUntil H deadline w).1 = .line line) :
    line.length ≤ c.lines.limit ∧ lineTerminator ∉ line := by
  induction c, w using receiveUntil.induct H deadline with
  | case1 c w entry lines next =>
    rw [receiveUntil_entry next] at brought
    cases entry with
    | error e => cases brought
    | ok first =>
      obtain rfl := Inbound.line.inj brought
      refine h.line_of_mem ?_
      cases ready : c.lines.ready with
      | nil => simp [LineBuffer.next?, ready] at next
      | cons entry others =>
        simp only [LineBuffer.next?, ready, Option.some.injEq, Prod.mk.injEq] at next
        exact next.1 ▸ List.mem_cons_self
  | case2 c w next stream =>
    rw [receiveUntil_noStream next stream] at brought
    cases brought
  | case3 c w next handle stream got chunk read spent absorbed ih =>
    rw [receiveUntil_chunk next stream read] at brought
    exact ih (kept_orderly.absorb chunk h next (stream ▸ rfl)) brought
  | case4 c w next handle stream got interrupted spent ih =>
    rw [receiveUntil_interrupted next stream interrupted] at brought
    exact ih h brought
  | case5 c w next handle stream got expired =>
    rw [receiveUntil_expired next stream expired] at brought
    cases brought
  | case6 c w next handle stream got ended =>
    rw [receiveUntil_ended next stream ended] at brought
    cases brought
  | case7 c w next handle stream got reason failed =>
    rw [receiveUntil_failed next stream failed] at brought
    cases brought

variable (H) in
/-- A wait takes this line from the channel, to hand out its command or to skip it. -/
inductive Takes (deadline : Option Instant) : Channel → σ → Bytes → Prop
  | next {c : Channel} {w : σ} {line : Bytes}
      (brought : (c.receiveUntil H deadline w).1 = .line line) : Takes deadline c w line
  | afterLine {c : Channel} {w : σ} {line skipped : Bytes} {e : LinkError}
      (brought : (c.receiveUntil H deadline w).1 = .line skipped)
      (read : Command.ofLine skipped = .error e)
      (later : Takes deadline (c.receiveUntil H deadline w).2.1
        (H.note (Inbox.skippedRecord H.wording skipped e) (c.receiveUntil H deadline w).2.2)
        line) :
      Takes deadline c w line
  | afterReport {c : Channel} {w : σ} {line : Bytes} {e : LinkError}
      (brought : (c.receiveUntil H deadline w).1 = .rejected e)
      (later : Takes deadline (c.receiveUntil H deadline w).2.1
        (H.note (Inbox.rejectedRecord H.wording e) (c.receiveUntil H deadline w).2.2) line) :
      Takes deadline c w line

theorem limit_receiveUntil {deadline : Option Instant} {c : Channel} {w : σ} (h : c.Sound) :
    (c.receiveUntil H deadline w).2.1.lines.limit = c.lines.limit := by
  have config : (c.receiveUntil H deadline w).2.1.config = c.config :=
    (kept_config c.config).receiveUntil rfl
  have sound : (c.receiveUntil H deadline w).2.1.Sound := sound_receiveUntil h
  rw [sound.limit_eq, h.limit_eq, config]

theorem line_of_takes {deadline : Option Instant} {c : Channel} {w : σ} {line : Bytes}
    (takes : Takes H deadline c w line) (h : c.Orderly) :
    line.length ≤ c.lines.limit ∧ lineTerminator ∉ line := by
  induction takes with
  | next brought => exact line_of_receiveUntil h brought
  | afterLine _ _ _ ih =>
    rw [← limit_receiveUntil h.sound]
    exact ih (kept_orderly.receiveUntil h)
  | afterReport _ _ ih =>
    rw [← limit_receiveUntil h.sound]
    exact ih (kept_orderly.receiveUntil h)

/-- After any actions of a client the unfinished line it holds is within the limit, so is every
line that waits and every line that a receive or a wait takes next, none of them has a terminator
inside, all bytes held are at most the limit and one chunk, and so many entries wait at most as a
chunk has bytes. -/
theorem receive_memory_bounded (config : ChannelConfig) (pollTimeout : Duration) (w : σ)
    (actions : List (Client.Action σ)) :
    let used := Client.actAll H (.ofConfig config pollTimeout, w) actions
    let c := used.1.channel
    let limit := max config.maxMessageBytes 1
    (c.lines.held.length ≤ limit ∧ lineTerminator ∉ c.lines.held) ∧
    (∀ line, .ok line ∈ c.lines.ready → line.length ≤ limit ∧ lineTerminator ∉ line) ∧
    (∀ deadline line, (c.receiveUntil H deadline used.2).1 = .line line →
      line.length ≤ limit ∧ lineTerminator ∉ line) ∧
    (∀ deadline line, Takes H deadline c used.2 line →
      line.length ≤ limit ∧ lineTerminator ∉ line) ∧
    c.lines.bytesHeld ≤ limit + readSize ∧
    c.lines.pending ≤ readSize := by
  intro used c limit
  have fresh : (ofConfig config).Frugal := frugal_clear (orderly_ofConfig config) rfl
  have frugal : c.Frugal := kept_frugal.actAll fresh actions
  have same : c.config = config := (kept_config config).actAll rfl actions
  have limit_eq : c.lines.limit = limit := by rw [frugal.orderly.sound.limit_eq, same]
  rw [← limit_eq]
  exact ⟨⟨frugal.orderly.held_le, frugal.orderly.terminator_not_mem_held⟩,
    fun _ mem => frugal.orderly.line_of_mem mem,
    fun _ _ brought => line_of_receiveUntil frugal.orderly brought,
    fun _ _ takes => line_of_takes takes frugal.orderly, frugal.bytes_le, frugal.pending_le⟩

end Channel
end DetectionLink
