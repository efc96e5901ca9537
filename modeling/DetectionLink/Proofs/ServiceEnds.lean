import DetectionLink.Proofs.ReceiveMemory
import DetectionLink.Proofs.ServiceTotals

/-!
# Serving comes to an end

Four loops lie in each other: the connection, a session, a wait that skips lines, and a receive that
reads. A source may loop forever, commands may be ignored and one chunk may hold many lines, and
still the whole is over when the reads are. What pays for it all is what can still be read, weighted
by the most entries that a read can bring, together with the entries that wait and the stream
itself: every wait and every poll takes from it, and nothing gives to it.

* `Channel.leeway`: the measure;
* `leeway_receiveUntil`, `leeway_waitUntil`: the inner two loops;
* `leeway_runFrom`, `leeway_serveFrom`: the outer two;
* `serve_ends`: the bounds on a whole connection.
-/

namespace DetectionLink

variable {σ S F : Type} {H : Host σ}

/-! ## The measure -/

namespace Channel

variable (H) in
/-- What waits and polls can still take: the entries that further reads can bring and the reads
themselves, the entries that wait, and the stream. -/
def leeway (c : Channel) (w : σ) : Nat :=
  H.budget w * (readSize + 1) + c.lines.pending + c.stream.toList.length

/-- Neither the lines nor the stream nor the budget became more. -/
theorem leeway_le {c c' : Channel} {w w' : σ} (budget : H.budget w' ≤ H.budget w)
    (lines : c'.lines.pending ≤ c.lines.pending)
    (stream : c'.stream.toList.length ≤ c.stream.toList.length) :
    c'.leeway H w' ≤ c.leeway H w :=
  Nat.add_le_add (Nat.add_le_add (Nat.mul_le_mul_right _ budget) lines) stream

/-- Whatever happens to the world, it does not restore the budget. -/
theorem leeway_mono (c : Channel) {w w' : σ} (budget : H.budget w' ≤ H.budget w) :
    c.leeway H w' ≤ c.leeway H w :=
  leeway_le budget (Nat.le_refl _) (Nat.le_refl _)

theorem leeway_note (c : Channel) (w : σ) (record : Record) :
    c.leeway H (H.note record w) ≤ c.leeway H w :=
  c.leeway_mono (H.note_le ..)

/-- One read less pays for a whole chunk. -/
theorem leeway_lt {c c' : Channel} {w w' : σ} (budget : H.budget w' < H.budget w)
    (lines : c'.lines.pending ≤ c.lines.pending + readSize)
    (stream : c'.stream.toList.length ≤ c.stream.toList.length) :
    c'.leeway H w' < c.leeway H w := by
  have reads : (H.budget w' + 1) * (readSize + 1) ≤ H.budget w * (readSize + 1) :=
    Nat.mul_le_mul_right _ budget
  rw [Nat.add_mul, Nat.one_mul] at reads
  unfold leeway
  omega

/-- Closing gives up the stream. -/
theorem leeway_close {c : Channel} {w w' : σ} (isOpen : c.stream.isSome)
    (budget : H.budget w' ≤ H.budget w) :
    (c.close H w').1.leeway H (c.close H w').2 < c.leeway H w := by
  have less : H.budget (c.close H w').2 * (readSize + 1) ≤ H.budget w * (readSize + 1) :=
    Nat.mul_le_mul_right _ (Nat.le_trans (close_le c w') budget)
  obtain ⟨handle, stream⟩ := Option.isSome_iff_exists.mp isOpen
  have nothing : c.closed.lines.pending = 0 := rfl
  have gone : c.closed.stream.toList.length = 0 := rfl
  have one : c.stream.toList.length = 1 := by rw [stream]; rfl
  rw [close_fst]
  unfold leeway
  omega

theorem leeway_receiveUntil (deadline : Option Instant) {c : Channel} {w : σ} (orderly : c.Orderly)
    (isOpen : c.stream.isSome) :
    (c.receiveUntil H deadline w).2.1.leeway H (c.receiveUntil H deadline w).2.2 <
      c.leeway H w := by
  induction c, w using receiveUntil.induct H deadline with
  | case1 c w entry lines next =>
    rw [receiveUntil_entry next]
    have less := LineBuffer.pending_of_next? next
    unfold leeway
    dsimp only
    omega
  | case2 c w next stream => simp [stream] at isOpen
  | case3 c w next handle stream got chunk read spent absorbed ih =>
    rw [receiveUntil_chunk next stream read]
    have fewer := Nat.lt_of_le_of_lt (H.noteAll_le absorbed.2 got.2) spent
    have lines := LineBuffer.pending_absorb_le orderly.held_le chunk.bytes
    have absorb : Channel.leeway H { c with lines := absorbed.1 } (H.noteAll absorbed.2 got.2) <
        c.leeway H w :=
      leeway_lt fewer (Nat.le_trans lines (Nat.add_le_add_left chunk.length_le _)) (Nat.le_refl _)
    exact Nat.lt_trans (ih (kept_orderly.absorb chunk orderly next isOpen) isOpen) absorb
  | case4 c w next handle stream got interrupted spent ih =>
    rw [receiveUntil_interrupted next stream interrupted]
    exact Nat.lt_trans (ih orderly isOpen) (leeway_lt spent (Nat.le_add_right _ _) (Nat.le_refl _))
  | case5 c w next handle stream got expired =>
    rw [receiveUntil_expired next stream expired]
    have spent := H.read_lt handle deadline w (congrArg ReadOutcome.isOpen expired)
    exact leeway_lt spent (Nat.le_add_right _ _) (Nat.le_refl _)
  | case6 c w next handle stream got ended =>
    rw [receiveUntil_ended next stream ended]
    exact leeway_close isOpen (Nat.le_trans (H.note_le ..) (H.read_le ..))
  | case7 c w next handle stream got reason failed =>
    rw [receiveUntil_failed next stream failed]
    exact leeway_close isOpen (Nat.le_trans (H.note_le ..) (H.read_le ..))

end Channel

/-- A wait on an open channel takes something. -/
theorem leeway_waitUntil (deadline : Option Instant) {b : Inbox} {c : Channel} {w : σ}
    (orderly : c.Orderly) (isOpen : c.stream.isSome) :
    (b.waitUntil H deadline c w).2.2.1.leeway H (b.waitUntil H deadline c w).2.2.2 <
      c.leeway H w := by
  -- a line that is skipped was taken, and the stream is still there
  have kept {c : Channel} {w : σ} (isOpen : c.stream.isSome)
      (brought : (c.receiveUntil H deadline w).1.isOpen) :
      (c.receiveUntil H deadline w).2.1.stream.isSome := by
    obtain ⟨lines, same⟩ := Channel.receiveUntil_keeps brought
    rw [same]
    exact isOpen
  induction b, c, w using Inbox.waitUntil.induct H deadline with
  | case1 b c w got line brought command read =>
    rw [Inbox.waitUntil_command brought read]
    exact Nat.lt_of_le_of_lt (Channel.leeway_note _ _ _)
      (Channel.leeway_receiveUntil deadline orderly isOpen)
  | case2 b c w got line brought e read spent ih =>
    rw [Inbox.waitUntil_skipped brought read]
    have taken := Channel.leeway_receiveUntil (H := H) deadline (w := w) orderly isOpen
    have others := ih (Channel.kept_orderly.receiveUntil orderly)
      (kept isOpen (congrArg Inbound.isOpen brought))
    exact Nat.lt_trans others (Nat.lt_of_le_of_lt (Channel.leeway_note _ _ _) taken)
  | case3 b c w got e brought spent ih =>
    rw [Inbox.waitUntil_rejected brought]
    have taken := Channel.leeway_receiveUntil (H := H) deadline (w := w) orderly isOpen
    have others := ih (Channel.kept_orderly.receiveUntil orderly)
      (kept isOpen (congrArg Inbound.isOpen brought))
    exact Nat.lt_trans others (Nat.lt_of_le_of_lt (Channel.leeway_note _ _ _) taken)
  | case4 b c w got brought =>
    rw [Inbox.waitUntil_noMessage brought]
    exact Channel.leeway_receiveUntil deadline orderly isOpen
  | case5 b c w got brought =>
    rw [Inbox.waitUntil_disconnected brought]
    exact Nat.lt_of_le_of_lt (Channel.leeway_note _ _ _)
      (Channel.leeway_receiveUntil deadline orderly isOpen)

/-- Where nothing is read, nothing is added. -/
theorem leeway_of_took {taken : List LineEntry} {c c' : Channel} {w w' : σ}
    (took : Took [] taken c c') (budget : H.budget w' ≤ H.budget w) :
    c'.leeway H w' ≤ c.leeway H w := by
  cases took with
  | live _ stream lines =>
    have whole : c.lines = c'.lines.putBack taken := lines
    refine Channel.leeway_le budget ?_ (stream ▸ Nat.le_refl _)
    rw [whole, LineBuffer.pending, LineBuffer.pending, LineBuffer.putBack, List.length_append]
    exact Nat.le_add_left _ _
  | lost _ gone clear _ =>
    have nothing : c'.lines.pending = 0 := congrArg LineBuffer.pending clear
    refine Channel.leeway_le budget (nothing ▸ Nat.zero_le _) ?_
    rw [gone]
    exact Nat.zero_le _
  | closed gone stream lines =>
    refine Channel.leeway_le budget (lines ▸ Nat.le_refl _) ?_
    rw [stream]
    exact Nat.zero_le _

theorem Channel.NoMoreLeft.budget_le {c c' : Channel} {w w' : σ}
    (h : Channel.NoMoreLeft H c w c' w') : H.budget w' ≤ H.budget w := by
  rcases h with less | ⟨same, -⟩
  · exact Nat.le_of_lt less
  · exact Nat.le_of_eq same

/-! ## Sessions -/

namespace Session

variable (M : Media H S F) (D : Detector H F) (plan : Plan) {r : Running (Traced σ F) S}

/-- The poll of an iteration takes something. -/
theorem leeway_iterate {handle : Nat} (orderly : r.client.channel.Orderly)
    (attached : Attached handle r.client) :
    let step := (iterate M.traced D.traced plan r).running
    step.client.channel.leeway (H.traced F) step.world <
      r.client.channel.leeway (H.traced F) r.world := by
  intro step
  have isOpen : r.client.channel.stream.isSome := attached.stream ▸ rfl
  have polling : (polled (H.traced F) r).2.client.channel.leeway (H.traced F)
      (polled (H.traced F) r).2.world < r.client.channel.leeway (H.traced F) r.world :=
    leeway_waitUntil _ orderly isOpen
  obtain ⟨done, heeded⟩ := looped_heed M D plan (attached_polled (H := H) attached)
  obtain ⟨consumed, took, -⟩ := heeded.exchange.intake
  have left := heed_noMoreLeft M.traced D.traced plan (polled (H.traced F) r).1
    (polled (H.traced F) r).2
  have same : step = (heed M.traced D.traced plan (polled (H.traced F) r).1
      (polled (H.traced F) r).2).running := by
    show (iterate M.traced D.traced plan r).running = _
    rw [iterate, if_pos attached.isConnected]
  rw [same]
  exact Nat.lt_of_le_of_lt (leeway_of_took took left.budget_le) polling

theorem leeway_runFrom (r : Running (Traced σ F) S) (orderly : r.client.channel.Orderly) :
    let ended := (runFrom M.traced D.traced plan r).2
    (polls M.traced D.traced plan r).length + ended.client.channel.leeway (H.traced F) ended.world ≤
      r.client.channel.leeway (H.traced F) r.world := by
  induction r using runFrom.induct M.traced D.traced plan with
  | case1 r ending r' last =>
    cases connected : r.client.isConnected with
    | false =>
      rw [polls_gone connected, runFrom_finished (iterate_of_not_connected connected)]
      exact Nat.le_of_eq (Nat.zero_add _)
    | true =>
      obtain ⟨handle, attached⟩ := exists_attached orderly.sound connected
      have less := leeway_iterate M D plan orderly attached
      rw [last] at less
      rw [polls_finished connected last, runFrom_finished last]
      exact Nat.le_trans (Nat.le_of_eq (Nat.add_comm 1 _)) less
  | case2 r r' went spent ih =>
    cases connected : r.client.isConnected with
    | false => cases went.symm.trans (iterate_of_not_connected connected)
    | true =>
      obtain ⟨handle, attached⟩ := exists_attached orderly.sound connected
      have less := leeway_iterate M D plan orderly attached
      have leads := leads_iterate M.traced D.traced plan r
      rw [went] at less leads
      have others := ih (leads.orderly orderly)
      rw [polls_goOn connected went, runFrom_goOn went]
      simp only [List.length_cons, Step.running] at less ⊢
      omega

/-- The one message that is sent keeps the channel or closes it. -/
theorem leeway_unavailable (start : StartCommand) (e : MediaError) (k : Client) {w w' : σ}
    (budget : H.budget w ≤ H.budget w') :
    let done := unavailable H start e k w
    done.2.1.channel.leeway H done.2.2 ≤ k.channel.leeway H w' := by
  have noted := H.note_le (unavailableRecord H.wording start e) w
  unfold unavailable
  generalize H.note _ w = opened at noted ⊢
  have left := Client.sendDetections_noMoreLeft (H := H) 0 [] k opened
  have spent : H.budget (k.sendDetections H 0 [] opened).2.2 ≤ H.budget w' :=
    Nat.le_trans left.budget_le (Nat.le_trans noted budget)
  have sent : (k.sendDetections H 0 [] opened).2.1.channel.leeway H
      (k.sendDetections H 0 [] opened).2.2 ≤ k.channel.leeway H w' := by
    rcases Client.sendDetections_cases (H := H) 0 [] k opened with
      ⟨_, kept⟩ | ⟨_, _, _, kept⟩ | ⟨_, _, _, ⟨_, kept⟩ | gone⟩
    · rw [kept]
      exact k.channel.leeway_mono spent
    · rw [kept] at spent ⊢
      exact k.channel.leeway_mono spent
    · rw [kept] at spent ⊢
      exact k.channel.leeway_mono spent
    · rw [gone]
      exact Channel.leeway_le spent (Nat.zero_le _) (Nat.zero_le _)
  dsimp only
  split
  · exact sent
  · exact Nat.le_trans (Channel.leeway_note _ _ _) sent

theorem leeway_run (settings : SessionSettings) (start : StartCommand) {k : Client}
    (t : Traced σ F) (orderly : k.channel.Orderly) :
    let done := run M.traced D.traced settings start k t
    (pollsOf M.traced D.traced settings start k t).length +
        done.2.1.channel.leeway (H.traced F) done.2.2 ≤
      k.channel.leeway (H.traced F) t := by
  have opening := M.traced.opening_le start t
  unfold pollsOf
  cases result : (M.traced.opening start t).1 with
  | error e =>
    rw [run_failed result]
    exact Nat.le_trans (Nat.le_of_eq (Nat.zero_add _)) (leeway_unavailable start e k opening)
  | ok source =>
    let plan := planOf settings start (M.rate source)
    have looped := leeway_runFrom M D plan
      (started (H.traced F) settings plan source k (M.traced.opening start t).2) orderly
    have begun : k.channel.leeway (H.traced F)
        ((H.traced F).note (startedRecord settings plan) (M.traced.opening start t).2) ≤
        k.channel.leeway (H.traced F) t :=
      k.channel.leeway_mono (Nat.le_trans ((H.traced F).note_le ..) opening)
    rw [run_opened result]
    exact Nat.le_trans (Nat.add_le_add_left (Channel.leeway_note _ _ _) _)
      (Nat.le_trans looped begun)

end Session

/-! ## Connections -/

namespace Service

variable (M : Media H S F) (D : Detector H F) (settings : SessionSettings)

/-- What a wait brought is acted on, if need be with a session. -/
theorem leeway_act (event : CommandEvent) {s : Serving (Traced σ F)}
    (orderly : s.client.channel.Orderly) :
    let acted := act M.traced D.traced settings event s
    (pollsAfter M.traced D.traced settings event s).length +
        acted.client.channel.leeway (H.traced F) acted.world ≤
      s.client.channel.leeway (H.traced F) s.world := by
  have noted (record : Record) : 0 + s.client.channel.leeway (H.traced F)
      ((H.traced F).note record s.world) ≤ s.client.channel.leeway (H.traced F) s.world :=
    Nat.le_trans (Nat.le_of_eq (Nat.zero_add _)) (Channel.leeway_note ..)
  cases event with
  | noCommand => exact noted _
  | disconnected => exact Nat.le_of_eq (Nat.zero_add _)
  | command command =>
    cases command with
    | stop => exact noted _
    | unknown raw => exact noted _
    | start start =>
      have begun := s.client.channel.leeway_note (H := H.traced F) s.world (startRecord start)
      have session := Session.leeway_run M D settings start
        ((H.traced F).note (startRecord start) s.world) orderly
      exact Nat.le_trans (Nat.add_le_add_left (Channel.leeway_note _ _ _) _)
        (Nat.le_trans session begun)

/-- A wait and the session it starts. -/
theorem leeway_turn {s : Serving (Traced σ F)} (orderly : s.client.channel.Orderly)
    (connected : s.client.isConnected = true) :
    let acted := act M.traced D.traced settings (waited (H.traced F) s).1 (waited (H.traced F) s).2
    (turn M.traced D.traced settings s).length +
        acted.client.channel.leeway (H.traced F) acted.world ≤
      s.client.channel.leeway (H.traced F) s.world := by
  have isOpen : s.client.channel.stream.isSome := orderly.sound.isConnected_iff.mp connected
  have waiting : (waited (H.traced F) s).2.client.channel.leeway (H.traced F)
      (waited (H.traced F) s).2.world < s.client.channel.leeway (H.traced F) s.world :=
    leeway_waitUntil _ orderly isOpen
  have leads : Leads (H.traced F) s.link (waited (H.traced F) s).2.link := .one (.wait none)
  have acting := leeway_act M D settings (waited (H.traced F) s).1 (leads.orderly orderly)
  simp only [turn, List.length_cons, List.length_map]
  omega

theorem leeway_serveFrom (s : Serving (Traced σ F)) (orderly : s.client.channel.Orderly) :
    (looks M.traced D.traced settings s).length ≤
      s.client.channel.leeway (H.traced F) s.world := by
  induction s using serveFrom.induct M.traced D.traced settings with
  | case1 s connected isOpen spent ih =>
    have first := leeway_turn M D settings orderly connected
    have waiting : Leads (H.traced F) s.link (waited (H.traced F) s).2.link := .one (.wait none)
    have acting := leads_act M.traced D.traced settings (waited (H.traced F) s).1
      (waited (H.traced F) s).2
    have others := ih ((waiting.trans acting).orderly orderly)
    rw [looks_goOn connected isOpen, List.length_append]
    exact Nat.le_trans (Nat.add_le_add_left others _) first
  | case2 s connected lost =>
    have first := leeway_turn M D settings orderly connected
    rw [looks_lost connected lost]
    exact Nat.le_trans (Nat.le_add_right _ _) first
  | case3 s gone =>
    rw [looks_gone gone]
    exact Nat.zero_le _

/-- A connection of a client in any state it can get to, on any host: on any script of outcomes of
reads and writes that ends, whatever the media and the detector do. There are no more waits and
polls than entries wait, chunks can be read and bytes can come with them, and the end of the stream;
for every poll a source is asked for a frame at most once and sent back to its start at most once,
and media are opened for no more than the waits. In the end the channel is closed. -/
theorem serve_ends (config : ChannelConfig) (pollTimeout : Duration) (w : σ)
    (actions : List (Client.Action σ)) :
    let used := Client.actAll H (.ofConfig config pollTimeout, w) actions
    let k := used.1
    let done := serve M.traced D.traced settings k (.start used.2)
    let trace := done.2.2.trace
    let looks := looksOf M D settings k used.2
    untraced done = serve M D settings k used.2 ∧
    looks.length ≤ k.channel.lines.pending + H.budget used.2 * (readSize + 1) + 1 ∧
    pulls trace ≤ looks.countP Look.isPoll ∧
    rewinds trace ≤ looks.countP Look.isPoll ∧
    (openings trace).length + looks.countP Look.isPoll ≤ looks.length ∧
    done.2.1.channel.state = .disconnected ∧ done.2.1.channel.stream = none := by
  intro used k done trace looks
  have orderly : k.channel.Orderly := Channel.orderly_actAll config pollTimeout w actions
  obtain ⟨⟨chunks, deeds, served⟩, channel, closed⟩ := served_serve M D settings used.2 orderly
  obtain ⟨-, did⟩ := served.elapsed.of_start
  change DetectionLink.deeds trace = deeds at did
  have looked : looks = Service.looks M.traced D.traced settings
      (begun (H.traced F) k (.start used.2)) :=
    (serveFrom_traced M D settings (begun (H.traced F) k (.start used.2))).2.symm
  have opened : openings trace = (idle looks).filterMap Command.start? :=
    (did ▸ filterMap_deeds opened?_quiet trace).trans served.openings_eq
  refine ⟨serve_traced M D settings k (.start used.2), ?_, ?_, ?_, ?_, ?_⟩
  · have bound := leeway_serveFrom M D settings (begun (H.traced F) k (.start used.2)) orderly
    rw [← looked] at bound
    have noted := Channel.leeway_note (H := H.traced F) k.channel (.start used.2)
      (.info "Waiting for commands")
    have stream : k.channel.stream.toList.length ≤ 1 := by
      cases k.channel.stream <;> simp
    have all : k.channel.leeway (H.traced F) (.start used.2) = H.budget used.2 * (readSize + 1) +
      k.channel.lines.pending + k.channel.stream.toList.length := rfl
    have bound : looks.length ≤ k.channel.leeway (H.traced F) (.start used.2) :=
      Nat.le_trans bound noted
    omega
  · rw [pulls_deeds, did]
    exact served.pulls_le
  · rw [rewinds_deeds, did]
    exact served.rewinds_le
  · rw [opened]
    exact Nat.le_trans (Nat.add_le_add_right (List.length_filterMap_le _ _) _)
      (length_idle_le looks)
  · have closed : done.2.1.channel = channel.closed := closed
    rw [closed]
    exact ⟨rfl, rfl⟩

end Service
end DetectionLink
