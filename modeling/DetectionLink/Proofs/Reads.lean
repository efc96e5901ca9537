import DetectionLink.Proofs.SessionEnding

/-!
# What polls read

A poll reads on while chunks come in or a read is interrupted. The first read that brings neither
is its last, so that a session waits in vain at most once for each poll, and a poll that finds the
connection lost has read that the stream ended or failed.

* `outcomes`, `vainReads`, `closedReads`: the reads of a trace;
* `Listened`, `listened_receiveUntil`: those of a receive;
* `Attended`, `attended_waitUntil`: those of a wait;
* `ReadBy`, `readBy_runFrom`, `readBy_run`: those of the loop of a session, and of a whole one.
-/

namespace DetectionLink

variable {σ S F : Type} {H : Host σ}

/-! ## Reads in a trace -/

/-- Whether a receive gives up after this read. -/
def ReadOutcome.isVain : ReadOutcome → Bool
  | chunk _ | interrupted => false
  | expired | ended | failed _ => true

def Event.outcome? : Event F → Option ReadOutcome
  | .read _ outcome => some outcome
  | _ => none

/-- What the reads came to, in order. -/
def outcomes (trace : List (Event F)) : List ReadOutcome := trace.filterMap Event.outcome?

def vainReads (trace : List (Event F)) : Nat := (outcomes trace).countP ReadOutcome.isVain

/-- The reads that found the stream ended or failed. -/
def closedReads (trace : List (Event F)) : Nat := (outcomes trace).countP fun got => !got.isOpen

theorem outcomes_append (a b : List (Event F)) : outcomes (a ++ b) = outcomes a ++ outcomes b :=
  List.filterMap_append

theorem outcomes_unread (trace : List (Event F)) (event : Event F) (unread : event.isRead = false) :
    outcomes (trace ++ [event]) = outcomes trace := by
  have nothing : outcomes [event] = [] := by
    cases event with
    | read handle outcome => cases unread
    | _ => rfl
  rw [outcomes_append, nothing, List.append_nil]

theorem outcomes_read (handle : Nat) (deadline : Option Instant) (t : Traced σ F) :
    outcomes ((H.traced F).read handle deadline t).2.trace =
      outcomes t.trace ++ [((H.traced F).read handle deadline t).1] :=
  outcomes_append _ _

/-- One more read. -/
theorem vainReads_concat {t t' : Traced σ F} {outcome : ReadOutcome}
    (all : outcomes t'.trace = outcomes t.trace ++ [outcome]) :
    vainReads t'.trace = vainReads t.trace + if outcome.isVain then 1 else 0 := by
  rw [vainReads, all, List.countP_append, List.countP_singleton, vainReads]

theorem closedReads_concat {t t' : Traced σ F} {outcome : ReadOutcome}
    (all : outcomes t'.trace = outcomes t.trace ++ [outcome]) :
    closedReads t'.trace = closedReads t.trace + if outcome.isOpen then 0 else 1 := by
  rw [closedReads, all, List.countP_append, List.countP_singleton, closedReads]
  cases outcome.isOpen <;> rfl

/-- Between two traces no read was vain and none found the stream closed. -/
structure Spared (t t' : Traced σ F) : Prop where
  vain_eq : vainReads t'.trace = vainReads t.trace
  closed_eq : closedReads t'.trace = closedReads t.trace

theorem spared_of_outcomes {t t' : Traced σ F} (same : outcomes t'.trace = outcomes t.trace) :
    Spared t t' := by
  refine ⟨?_, ?_⟩
  · rw [vainReads, same, vainReads]
  · rw [closedReads, same, closedReads]

theorem Spared.trans {t t' t'' : Traced σ F} (h : Spared t t') (k : Spared t' t'') : Spared t t'' :=
  ⟨k.vain_eq.trans h.vain_eq, k.closed_eq.trans h.closed_eq⟩

theorem Spared.note {t t' : Traced σ F} (h : Spared t t') (record : Record) :
    Spared t ((H.traced F).note record t') :=
  h.trans (spared_of_outcomes (outcomes_unread _ _ rfl))

/-- A read after which a receive goes on. -/
theorem spared_read {handle : Nat} {deadline : Option Instant} {t : Traced σ F}
    {outcome : ReadOutcome} (got : ((H.traced F).read handle deadline t).1 = outcome)
    (useful : outcome.isVain = false) : Spared t ((H.traced F).read handle deadline t).2 := by
  have isOpen : outcome.isOpen = true := by
    cases outcome with
    | chunk _ => rfl
    | interrupted => rfl
    | expired | ended | failed _ => cases useful
  have all := outcomes_read (H := H) handle deadline t
  rw [got] at all
  refine ⟨?_, ?_⟩
  · rw [vainReads_concat all, useful]
    rfl
  · rw [closedReads_concat all, isOpen]
    rfl

/-! ## Receives -/

/-- Between two traces at most one read was vain, and one found the stream closed if there was a
stream and it was lost. -/
structure Attended (lost : Prop) (c : Channel) (t t' : Traced σ F) : Prop where
  vain_le : vainReads t'.trace ≤ vainReads t.trace + 1
  closed_le : closedReads t.trace ≤ closedReads t'.trace
  closed_lt : lost → c.stream.isSome → closedReads t.trace < closedReads t'.trace

namespace Attended

variable {lost : Prop} {c c' : Channel} {t t' t'' : Traced σ F}

/-- Reads in front that were not vain. -/
theorem after (h : Attended lost c' t' t'') (spared : Spared t t') (stream : c'.stream = c.stream) :
    Attended lost c t t'' where
  vain_le := spared.vain_eq ▸ h.vain_le
  closed_le := spared.closed_eq ▸ h.closed_le
  closed_lt gone isOpen := spared.closed_eq ▸ h.closed_lt gone (stream ▸ isOpen)

theorem note (h : Attended lost c t t') (record : Record) :
    Attended lost c t ((H.traced F).note record t') := by
  have unread : outcomes ((H.traced F).note record t').trace = outcomes t'.trace :=
    outcomes_unread t'.trace (.noted record) rfl
  obtain ⟨vain, closed⟩ := spared_of_outcomes unread
  exact ⟨vain ▸ h.vain_le, closed ▸ h.closed_le,
    fun gone isOpen => closed ▸ h.closed_lt gone isOpen⟩

end Attended

/-- The reads of a receive: none was vain if an entry came. -/
structure Listened (c : Channel) (t : Traced σ F) (r : Inbound × Channel × Traced σ F) : Prop
    extends Attended (r.1 = .disconnected) c t r.2.2 where
  entry : r.1.entries ≠ [] → Spared t r.2.2

theorem Listened.after {c c' : Channel} {t t' : Traced σ F} {r : Inbound × Channel × Traced σ F}
    (h : Listened c' t' r) (spared : Spared t t') (stream : c'.stream = c.stream) :
    Listened c t r where
  toAttended := h.toAttended.after spared stream
  entry some := spared.trans (h.entry some)

/-- The stream ends or fails. -/
theorem listened_close {c : Channel} {handle : Nat} {deadline : Option Instant} {t : Traced σ F}
    {outcome : ReadOutcome} (got : ((H.traced F).read handle deadline t).1 = outcome)
    (closed : outcome.isOpen = false) (record : Record) :
    Listened c t (.disconnected, c.close (H.traced F)
      ((H.traced F).note record ((H.traced F).read handle deadline t).2)) := by
  have isVain : outcome.isVain = true := by
    cases outcome with
    | chunk _ | interrupted | expired => cases closed
    | ended => rfl
    | failed _ => rfl
  have unread := alongSend_unread H (outcomes_unread (F := F))
  have all : outcomes (c.close (H.traced F) ((H.traced F).note record
      ((H.traced F).read handle deadline t).2)).2.trace = outcomes t.trace ++ [outcome] := by
    rw [along_close unread, unread.note, outcomes_read, got]
  have vain := vainReads_concat all
  have lost := closedReads_concat all
  rw [isVain] at vain
  rw [closed] at lost
  have more := Nat.lt_of_lt_of_eq (Nat.lt_succ_self _) lost.symm
  exact ⟨⟨Nat.le_of_eq vain, Nat.le_of_lt more, fun _ _ => more⟩, fun some => absurd rfl some⟩

theorem listened_receiveUntil (deadline : Option Instant) (c : Channel) (t : Traced σ F) :
    Listened c t (c.receiveUntil (H.traced F) deadline t) := by
  have nothing (t : Traced σ F) : Spared t t := spared_of_outcomes rfl
  induction c, t using Channel.receiveUntil.induct (H.traced F) deadline with
  | case1 c t entry lines next =>
    rw [Channel.receiveUntil_entry next]
    refine ⟨⟨Nat.le_succ _, Nat.le_refl _, fun lost => ?_⟩, fun _ => nothing t⟩
    cases entry <;> cases lost
  | case2 c t next stream =>
    rw [Channel.receiveUntil_noStream next stream]
    have none : ¬ c.stream.isSome := by simp [stream]
    exact ⟨⟨Nat.le_succ _, Nat.le_refl _, fun _ isOpen => absurd isOpen none⟩, fun _ => nothing t⟩
  | case3 c t next handle stream got chunk brought spent absorbed ih =>
    rw [Channel.receiveUntil_chunk next stream brought]
    have noted := (alongSend_unread H (outcomes_unread (F := F))).noteAll absorbed.2 got.2
    exact ih.after ((spared_read brought rfl).trans (spared_of_outcomes noted)) rfl
  | case4 c t next handle stream got interrupted spent ih =>
    rw [Channel.receiveUntil_interrupted next stream interrupted]
    exact ih.after (spared_read interrupted rfl) rfl
  | case5 c t next handle stream got expired =>
    rw [Channel.receiveUntil_expired next stream expired]
    have all := outcomes_read (H := H) handle deadline t
    rw [expired] at all
    have vain := vainReads_concat all
    have lost := closedReads_concat all
    refine ⟨⟨Nat.le_of_eq vain, Nat.le_of_eq lost.symm, fun gone => ?_⟩,
      fun some => absurd rfl some⟩
    cases gone
  | case6 c t next handle stream got ended =>
    rw [Channel.receiveUntil_ended next stream ended]
    exact listened_close ended rfl _
  | case7 c t next handle stream got reason failed =>
    rw [Channel.receiveUntil_failed next stream failed]
    exact listened_close failed rfl _

/-! ## Waits -/

/-- An entry that is skipped in front of the rest of a wait. -/
theorem attended_skip {deadline : Option Instant} {c : Channel} {t t'' : Traced σ F} {lost : Prop}
    (entry : LineEntry) {record : Record}
    (brought : (c.receiveUntil (H.traced F) deadline t).1 = .ofEntry entry)
    (rest : Attended lost (c.receiveUntil (H.traced F) deadline t).2.1
      ((H.traced F).note record (c.receiveUntil (H.traced F) deadline t).2.2) t'') :
    Attended lost c t t'' := by
  have isOpen : (c.receiveUntil (H.traced F) deadline t).1.isOpen := by
    rw [brought]
    cases entry <;> rfl
  have some : (c.receiveUntil (H.traced F) deadline t).1.entries ≠ [] := by
    rw [brought, Inbound.entries_ofEntry]
    exact List.cons_ne_nil _ _
  obtain ⟨lines, kept⟩ := Channel.receiveUntil_keeps isOpen
  have spared := (listened_receiveUntil (H := H) deadline c t).entry some
  exact rest.after (spared.note record) (by rw [kept])

/-- A wait reads in vain at most once. If it finds the connection lost, it read that. -/
theorem attended_waitUntil (deadline : Option Instant) (b : Inbox) (c : Channel)
    (t : Traced σ F) :
    let done := b.waitUntil (H.traced F) deadline c t
    Attended (done.1 = .disconnected) c t done.2.2.2 := by
  induction b, c, t using Inbox.waitUntil.induct (H.traced F) deadline with
  | case1 b c t got line brought command read =>
    rw [Inbox.waitUntil_command brought read]
    have listened := (listened_receiveUntil (H := H) deadline c t).toAttended.note (H := H)
    refine ⟨(listened _).vain_le, (listened _).closed_le, fun gone => ?_⟩
    cases gone
  | case2 b c t got line brought e read spent ih =>
    rw [Inbox.waitUntil_skipped brought read]
    exact attended_skip (.ok line) brought ih
  | case3 b c t got e brought spent ih =>
    rw [Inbox.waitUntil_rejected brought]
    exact attended_skip (.error e) brought ih
  | case4 b c t got brought =>
    rw [Inbox.waitUntil_noMessage brought]
    have listened := listened_receiveUntil (H := H) deadline c t
    refine ⟨listened.vain_le, listened.closed_le, fun gone => ?_⟩
    cases gone
  | case5 b c t got brought =>
    rw [Inbox.waitUntil_disconnected brought]
    have listened := (listened_receiveUntil (H := H) deadline c t).toAttended.note (H := H)
    exact ⟨(listened _).vain_le, (listened _).closed_le, fun _ => (listened _).closed_lt brought⟩

/-! ## Sessions -/

namespace Session

variable (M : Media H S F) (D : Detector H F) (plan : Plan)

/-- A poll is all that reads in an iteration. -/
theorem outcomes_iterate {r : Running (Traced σ F) S} (connected : r.client.isConnected = true) :
    outcomes (iterate M.traced D.traced plan r).running.world.trace =
      outcomes (polled (H.traced F) r).2.world.trace := by
  have unread := alongPull_unread M D r.pace.enabled (outcomes_unread (F := F))
  rw [iterate, if_pos connected]
  exact (along_heed plan unread _ (polled (H.traced F) r).2 rfl).world

theorem attended_polled (r : Running (Traced σ F) S) :
    Attended ((polled (H.traced F) r).1 = .disconnected) r.client.channel r.world
      (polled (H.traced F) r).2.world :=
  attended_waitUntil _ _ _ _

/-- What polls read: in vain at most once each, and that the stream is closed if one of them found
it lost. -/
structure ReadBy (events : List CommandEvent) (t t' : Traced σ F) : Prop where
  vain_le : vainReads t'.trace ≤ vainReads t.trace + events.length
  closed_le : closedReads t.trace ≤ closedReads t'.trace
  closed_lt : .disconnected ∈ events → closedReads t.trace < closedReads t'.trace

theorem readBy_nil (t : Traced σ F) : ReadBy [] t t := ⟨Nat.le_refl _, Nat.le_refl _, nofun⟩

theorem ReadBy.cons {event : CommandEvent} {events : List CommandEvent} {t t' t'' : Traced σ F}
    (first : ReadBy [event] t t') (later : ReadBy events t' t'') :
    ReadBy (event :: events) t t'' where
  vain_le := by
    have vain := first.vain_le
    have more := later.vain_le
    rw [List.length_singleton] at vain
    rw [List.length_cons]
    omega
  closed_le := Nat.le_trans first.closed_le later.closed_le
  closed_lt lost := by
    rcases List.mem_cons.mp lost with now | afterwards
    · exact Nat.lt_of_lt_of_le (first.closed_lt (now ▸ List.mem_singleton_self _)) later.closed_le
    · exact Nat.lt_of_le_of_lt first.closed_le (later.closed_lt afterwards)

theorem readBy_iterate {r : Running (Traced σ F) S} {handle : Nat}
    (attached : Attached handle r.client) :
    ReadBy [(polled (H.traced F) r).1] r.world
      (iterate M.traced D.traced plan r).running.world := by
  have attended := attended_polled (H := H) r
  have spared := spared_of_outcomes (outcomes_iterate M D plan attached.isConnected)
  have isOpen : r.client.channel.stream.isSome := attached.stream ▸ rfl
  refine ⟨?_, ?_, fun lost => ?_⟩
  · exact spared.vain_eq ▸ attended.vain_le
  · exact spared.closed_eq ▸ attended.closed_le
  · exact spared.closed_eq ▸ attended.closed_lt (List.mem_singleton.mp lost).symm isOpen

/-- The polls of a session are all that reads. -/
theorem readBy_runFrom (r : Running (Traced σ F) S) (orderly : r.client.channel.Orderly) :
    ReadBy (polls M.traced D.traced plan r) r.world
      (runFrom M.traced D.traced plan r).2.world := by
  induction r using runFrom.induct M.traced D.traced plan with
  | case1 r ending r' last =>
    cases connected : r.client.isConnected with
    | false =>
      rw [polls_gone connected, runFrom_finished (iterate_of_not_connected connected)]
      exact readBy_nil r.world
    | true =>
      obtain ⟨handle, attached⟩ := exists_attached orderly.sound connected
      have step := readBy_iterate M D plan attached
      rw [last] at step
      rw [polls_finished connected last, runFrom_finished last]
      exact step
  | case2 r r' went spent ih =>
    cases connected : r.client.isConnected with
    | false => cases went.symm.trans (iterate_of_not_connected connected)
    | true =>
      obtain ⟨handle, attached⟩ := exists_attached orderly.sound connected
      have step := readBy_iterate M D plan attached
      have leads := leads_iterate M.traced D.traced plan r
      rw [went] at step leads
      rw [polls_goOn connected went, runFrom_goOn went]
      exact step.cons (ih (leads.orderly orderly))

/-- So of a whole session. -/
theorem readBy_run (settings : SessionSettings) (start : StartCommand) {k : Client} {w : σ}
    {source : S} (orderly : k.channel.Orderly) (opened : (M.opening start w).1 = .ok source) :
    ReadBy (pollsOf M D settings start k w) (.start w)
      (run M.traced D.traced settings start k (.start w)).2.2 := by
  let plan := planOf settings start (M.rate source)
  let begun := started (H.traced F) settings plan source k (M.traced.opening start (.start w)).2
  let ended := runFrom M.traced D.traced plan begun
  have looped : ReadBy (pollsOf M D settings start k w) begun.world ended.2.world := by
    rw [pollsOf_opened opened]
    exact readBy_runFrom M D plan begun orderly
  have opened : (M.traced.opening start (.start w)).1 = .ok source := opened
  rw [run_opened opened]
  -- the opening, and the records before and behind the loop, read nothing
  have noted : Spared ended.2.world ((H.traced F).note
      (endedRecord ⟨ended.2.counts, ended.1⟩) ended.2.world) :=
    spared_of_outcomes (outcomes_unread _ _ rfl)
  exact ⟨noted.vain_eq ▸ looped.vain_le, noted.closed_eq ▸ looped.closed_le,
    fun lost => noted.closed_eq ▸ looped.closed_lt lost⟩

end Session
end DetectionLink
