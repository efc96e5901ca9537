import DetectionLink.Proofs.Along
import DetectionLink.Proofs.ClientRuns
import DetectionLink.Proofs.Exchange

/-!
# How a session ends

A session polls its client and sends what its detector found, and stops for one of a few reasons.
Whichever it is, the ending says whether the connection is still there, and as long as it is, no
inbound entry is lost: what the polls did not take waits in the buffer, with the unfinished line
behind it, for whoever waits next.

* `polls`, `pollsOf`: what the polls of a session brought;
* `Looped`, `looped_iterate`, `looped_runFrom`: the account of a session's loop;
* `Conducted`, `conducted_run`: that of a whole session;
* `ending_agrees_with_channel`: the ending and the buffer that is left.
-/

namespace DetectionLink

variable {σ S F : Type} {H : Host σ}

/-! ## Openings, frames and rewinds in a trace -/

def opened? : Event F → Option StartCommand
  | .opened start _ => some start
  | _ => none

/-- The start commands whose media were opened, or failed to. -/
def openings (trace : List (Event F)) : List StartCommand := trace.filterMap opened?

theorem openings_append (a b : List (Event F)) : openings (a ++ b) = openings a ++ openings b :=
  List.filterMap_append

theorem opened?_quiet (event : Event F) (quiet : event.isQuiet = true) : opened? event = none := by
  cases event <;> first | rfl | exact absurd quiet nofun

namespace Event

def isPull : Event F → Bool
  | .pulled _ _ => true
  | _ => false

def isRewind : Event F → Bool
  | .rewound _ => true
  | _ => false

end Event

/-- How often a source was asked for a frame. -/
def pulls (trace : List (Event F)) : Nat := trace.countP Event.isPull

/-- How often a source was asked to go back to its start. -/
def rewinds (trace : List (Event F)) : Nat := trace.countP Event.isRewind

theorem pulls_append (a b : List (Event F)) : pulls (a ++ b) = pulls a + pulls b :=
  List.countP_append

theorem rewinds_append (a b : List (Event F)) : rewinds (a ++ b) = rewinds a + rewinds b :=
  List.countP_append

/-- Quiet events are not counted. -/
theorem countP_deeds {counted : Event F → Bool}
    (quiet : ∀ event, event.isQuiet = true → counted event = false) (trace : List (Event F)) :
    trace.countP counted = (deeds trace).countP counted := by
  rw [deeds, List.countP_filter]
  refine List.countP_congr fun event _ => ?_
  cases isQuiet : event.isQuiet with
  | true => simp [quiet event isQuiet]
  | false => simp

theorem pulls_deeds (trace : List (Event F)) : pulls trace = pulls (deeds trace) :=
  countP_deeds (fun event quiet => by cases event <;> first | rfl | exact absurd quiet nofun) trace

theorem rewinds_deeds (trace : List (Event F)) : rewinds trace = rewinds (deeds trace) :=
  countP_deeds (fun event quiet => by cases event <;> first | rfl | exact absurd quiet nofun) trace

/-! ## Only polls read -/

namespace Session

theorem received_unread (trace : List (Event F)) (event : Event F) (unread : event.isRead = false) :
    received (trace ++ [event]) = received trace := by
  have nothing : received [event] = [] := by
    cases event with
    | read handle outcome => cases unread
    | _ => rfl
  rw [received_append, nothing, List.append_nil]

variable (M : Media H S F) (D : Detector H F) (plan : Plan)

theorem received_pull (r : Running (Traced σ F) S) :
    received (pull M.traced D.traced plan r).running.world.trace = received r.world.trace :=
  (along_pull plan (alongPull_unread M D r.pace.enabled received_unread) r rfl).world

/-! ## Polls -/

/-- The polls from a state on, with what each brought. -/
def polls (r : Running σ S) : List CommandEvent :=
  if r.client.isConnected then
    (polled H r).1 ::
      match went : iterate M D plan r with
      | .finished _ _ => []
      | .goOn r' =>
        have _spent := iterate_lessLeft M D plan went
        polls r'
  else []
termination_by (H.budget r.world, r.client.channel.lines.pending)
decreasing_by exact Channel.LessLeft.lex _spent

variable {M D plan}

theorem polls_gone {r : Running σ S} (gone : r.client.isConnected = false) :
    polls M D plan r = [] := by
  rw [polls, if_neg (Bool.eq_false_iff.mp gone)]

theorem polls_finished {r r' : Running σ S} {ending : SessionEnd}
    (connected : r.client.isConnected = true)
    (last : iterate M D plan r = .finished ending r') :
    polls M D plan r = [(polled H r).1] := by
  rw [polls, if_pos connected]
  split <;> simp_all

theorem polls_goOn {r r' : Running σ S} (connected : r.client.isConnected = true)
    (went : iterate M D plan r = .goOn r') :
    polls M D plan r = (polled H r).1 :: polls M D plan r' := by
  rw [polls, if_pos connected]
  split <;> simp_all

/-! ## The loop -/

/-- The account of a session's loop between two states, over so many iterations. -/
structure Looped (events : List CommandEvent) (rounds : Nat) (chunks : List Bytes)
    (done : List (Event F)) (r r' : Running (Traced σ F) S) : Prop where
  elapsed : Elapsed chunks done r.world r'.world
  exchange : Exchange chunks done events r.client r'.client
  messages_eq : r'.counts.messagesSent = r.counts.messagesSent + (completeLines done).length
  unopened : openings done = []
  pulls_le : pulls done ≤ rounds
  rewinds_le : rewinds done ≤ rounds

namespace Looped

variable {events events' : List CommandEvent} {rounds rounds' : Nat} {chunks chunks' : List Bytes}
  {done done' : List (Event F)} {r r' r'' : Running (Traced σ F) S}

theorem refl (r : Running (Traced σ F) S) : Looped [] 0 [] [] r r where
  elapsed := .refl _
  exchange := .idle _ rfl
  messages_eq := rfl
  unopened := rfl
  pulls_le := Nat.le_refl 0
  rewinds_le := Nat.le_refl 0

theorem mono (h : Looped events rounds chunks done r r') (le : rounds ≤ rounds') :
    Looped events rounds' chunks done r r' :=
  { h with pulls_le := Nat.le_trans h.pulls_le le, rewinds_le := Nat.le_trans h.rewinds_le le }

theorem trans (h : Looped events rounds chunks done r r')
    (k : Looped events' rounds' chunks' done' r' r'') :
    Looped (events ++ events') (rounds + rounds') (chunks ++ chunks') (done ++ done') r r'' where
  elapsed := h.elapsed.trans k.elapsed
  exchange := h.exchange.trans k.exchange
  messages_eq := by
    rw [k.messages_eq, h.messages_eq, completeLines_append, List.length_append, Nat.add_assoc]
  unopened := by
    rw [openings_append, h.unopened, k.unopened]
    rfl
  pulls_le := by
    rw [pulls_append]
    exact Nat.add_le_add h.pulls_le k.pulls_le
  rewinds_le := by
    rw [rewinds_append]
    exact Nat.add_le_add h.rewinds_le k.rewinds_le

end Looped

variable {handle : Nat} {r r' : Running (Traced σ F) S}

theorem looped_polled (sound : r.client.channel.Sound) :
    ∃ chunks, Looped [(polled (H.traced F) r).1] 0 chunks [] r (polled (H.traced F) r).2 := by
  obtain ⟨⟨chunks, elapsed, exchange⟩, -⟩ :=
    exchange_wait (H := H) (some r.client.inbox.pollTimeout) r.world sound
  exact ⟨chunks, elapsed, exchange, rfl, rfl, Nat.le_refl 0, Nat.le_refl 0⟩

/-- A step that reads no byte and asks for a frame and a rewind at most once each. -/
theorem looped_left {counts : SessionCounts} {index : Nat} {client : Client}
    {done : List (Event F)} (left : Left r r' counts index client done)
    (same : received r'.world.trace = received r.world.trace)
    (exchange : Exchange [] done [] r.client client)
    (messages : counts.messagesSent = r.counts.messagesSent + (completeLines done).length)
    (unopened : openings done = []) (pulls_le : pulls done ≤ 1) (rewinds_le : rewinds done ≤ 1) :
    Looped [] 1 [] done r r' where
  elapsed := .of_happened left.happened same
  exchange := left.client_eq ▸ exchange
  messages_eq := (congrArg (·.messagesSent) left.counts_eq).trans messages
  unopened := unopened
  pulls_le := pulls_le
  rewinds_le := rewinds_le

theorem looped_pulled {step : Step (Traced σ F) S} (attached : Attached handle r.client)
    (pulled : Pulled M plan handle r step)
    (same : received step.running.world.trace = received r.world.trace) :
    ∃ done, Looped [] 1 [] done r step.running := by
  have one := Nat.le_refl 1
  have none := Nat.zero_le 1
  cases pulled with
  | exhausted _ left => exact ⟨_, looped_left left same (.idle _ rfl) rfl rfl one none⟩
  | stuck _ _ left => exact ⟨_, looped_left left same (.idle _ rfl) rfl rfl one one⟩
  | rewound _ _ left => exact ⟨_, looped_left left same (.idle _ rfl) rfl rfl one one⟩
  | skipped _ left => exact ⟨_, looped_left left same (.idle _ rfl) rfl rfl one none⟩
  | unencodable _ _ left => exact ⟨_, looped_left left same (.idle _ rfl) rfl rfl one none⟩
  | sent _ encoded left =>
    exact ⟨_, looped_left left same (.sent _ ⟨_, _, _, encoded, rfl⟩ rfl) rfl rfl one none⟩
  | @failed r' frame found line outcome _ encoded incomplete left =>
    have isOpen : r.client.channel.stream.isSome := attached.stream ▸ rfl
    have nothingWhole : completeLines [.pulled (some frame) (M.position r'.source),
        .detected frame found, .wrote handle (line ++ [lineTerminator]) outcome] = [] :=
      List.filterMap_cons_none (completeLine?_eq_none incomplete)
    refine ⟨_, looped_left left same ?_ (by rw [nothingWhole]; rfl) rfl one none⟩
    exact .broken isOpen ⟨_, _, _, encoded, rfl⟩ rfl nothingWhole

variable (M D plan) in
theorem looped_heed {event : CommandEvent}
    (attached : event.continues = true → Attached handle r.client) :
    ∃ done, Looped [] 1 [] done r (heed M.traced D.traced plan event r).running := by
  have noted (record : Record) : Looped [] 0 [] [] r (r.note (H.traced F) record) :=
    ⟨(Elapsed.refl _).note H record, .idle _ rfl, rfl, rfl, Nat.le_refl 0, Nat.le_refl 0⟩
  have taken {r : Running (Traced σ F) S} (attached : Attached handle r.client) :
      ∃ done, Looped [] 1 [] done r (pull M.traced D.traced plan r).running :=
    looped_pulled attached (pulled_pull M D plan attached.stream) (received_pull M D plan r)
  cases event with
  | noCommand => exact taken (attached rfl)
  | disconnected => exact ⟨[], (Looped.refl r).mono (Nat.zero_le 1)⟩
  | command command =>
    cases command with
    | stop => exact ⟨[], (noted _).mono (Nat.zero_le 1)⟩
    | start other =>
      obtain ⟨done, frame⟩ := taken (r := r.note (H.traced F) _) (attached rfl)
      exact ⟨_, (noted _).trans frame⟩
    | unknown raw =>
      obtain ⟨done, frame⟩ := taken (r := r.note (H.traced F) _) (attached rfl)
      exact ⟨_, (noted _).trans frame⟩

variable (M D plan) in
/-- One iteration makes one poll. -/
theorem looped_iterate (attached : Attached handle r.client) :
    ∃ chunks done, Looped [(polled (H.traced F) r).1] 1 chunks done r
      (iterate M.traced D.traced plan r).running := by
  obtain ⟨chunks, polling⟩ := looped_polled (H := H) attached.sound
  obtain ⟨done, heeded⟩ := looped_heed M D plan (attached_polled (H := H) attached)
  rw [iterate, if_pos attached.isConnected]
  exact ⟨_, _, polling.trans heeded⟩

variable (M D plan) in
/-- The last iteration says whether the connection is still there. -/
theorem ending_iff_of_finished {ending : SessionEnd} (attached : Attached handle r.client)
    (last : iterate M.traced D.traced plan r = .finished ending r') :
    ending = .disconnected ↔ r'.client.isConnected = false := by
  have iterated := iterated_iterate M D plan attached
  rw [last] at iterated
  have kept {client : Client} (attached : Attached handle client) (same : r'.client = client)
      (other : ending ≠ .disconnected) :
      ending = .disconnected ↔ r'.client.isConnected = false := by
    rw [same, attached.isConnected]
    exact ⟨fun h => absurd h other, fun h => absurd h Bool.true_eq_false.mp⟩
  cases iterated with
  | stopped poll left =>
    exact kept (attached_of_isOpen attached (by rw [poll]; rfl)) left.client_eq nofun
  | lost poll =>
    -- the poll found the stream gone
    have gone := (exchange_wait (H := H) (some r.client.inbox.pollTimeout) r.world
      attached.sound).2 poll
    have sound : (polled (H.traced F) r).2.client.channel.Sound := sound_waitUntil attached.sound
    exact ⟨fun _ => sound.isConnected_eq_false gone, fun _ => rfl⟩
  | went poll left pulled =>
    have heeded := attached_polled attached poll
    cases pulled with
    | exhausted _ left' => exact kept heeded (left'.client_eq.trans left.client_eq) nofun
    | stuck _ _ left' => exact kept heeded (left'.client_eq.trans left.client_eq) nofun
    | failed _ _ _ left' =>
      rw [left'.client_eq]
      exact ⟨fun _ => rfl, fun _ => rfl⟩

variable (M D plan) in
theorem looped_runFrom (r : Running (Traced σ F) S) (orderly : r.client.channel.Orderly) :
    let events := polls M.traced D.traced plan r
    let ended := runFrom M.traced D.traced plan r
    (∃ chunks done, Looped events events.length chunks done r ended.2) ∧
    (ended.1 = .disconnected ↔ ended.2.client.isConnected = false) := by
  induction r using runFrom.induct M.traced D.traced plan with
  | case1 r ending r' last =>
    cases connected : r.client.isConnected with
    | false =>
      rw [polls_gone connected, runFrom_finished (iterate_of_not_connected connected)]
      exact ⟨⟨_, _, .refl r⟩, fun _ => connected, fun _ => rfl⟩
    | true =>
      obtain ⟨handle, attached⟩ := exists_attached orderly.sound connected
      have looped := looped_iterate M D plan attached
      rw [last] at looped
      rw [polls_finished connected last, runFrom_finished last]
      exact ⟨looped, ending_iff_of_finished M D plan attached last⟩
  | case2 r r' went spent ih =>
    cases connected : r.client.isConnected with
    | false => cases went.symm.trans (iterate_of_not_connected connected)
    | true =>
      obtain ⟨handle, attached⟩ := exists_attached orderly.sound connected
      obtain ⟨chunks, done, first⟩ := looped_iterate M D plan attached
      have leads := leads_iterate M.traced D.traced plan r
      rw [went] at first leads
      obtain ⟨⟨more, later, others⟩, ending⟩ := ih (leads.orderly orderly)
      rw [polls_goOn connected went, runFrom_goOn went]
      exact ⟨⟨_, _, (first.trans others).mono (Nat.le_of_eq (Nat.add_comm 1 _))⟩, ending⟩

/-! ## Whole sessions -/

variable (M D) in
/-- What the polls of a session brought. There are none if its media cannot be opened. -/
def pollsOf (settings : SessionSettings) (start : StartCommand) (k : Client) (w : σ) :
    List CommandEvent :=
  match (M.opening start w).1 with
  | .ok source =>
    let plan := planOf settings start (M.rate source)
    polls M D plan (started H settings plan source k (M.opening start w).2)
  | .error _ => []

/-- The account of a whole session, from its start command to its report. -/
structure Conducted (start : StartCommand) (events : List CommandEvent) (k : Client)
    (t : Traced σ F) (r : SessionReport × Client × Traced σ F) : Prop where
  account : ∃ chunks done, Elapsed chunks done t r.2.2 ∧ Exchange chunks done events k r.2.1 ∧
    r.1.messagesSent = (completeLines done).length ∧ openings done = [start] ∧
    pulls done ≤ events.length ∧ rewinds done ≤ events.length
  ending_iff : r.1.ending = .disconnected ↔ r.2.1.isConnected = false

/-- Media that cannot be opened are reported by one empty message. -/
theorem conducted_unavailable (start : StartCommand) (e : MediaError) {k : Client}
    (sound : k.channel.Sound) {t t' : Traced σ F}
    (opened : Elapsed [] [.opened start false] t t') :
    Conducted start [] k t (unavailable (H.traced F) start e k t') := by
  have noted := opened.note H (unavailableRecord (H.traced F).wording start e)
  unfold unavailable
  generalize (H.traced F).note _ t' = t'' at noted ⊢
  have none := Nat.le_refl 0
  cases stream : k.channel.stream with
  | none =>
    obtain ⟨e, refused, -⟩ := perform_of_closed (H := H.traced F) stream (.detections 0 []) t''
    have refused : k.sendDetections (H.traced F) 0 [] t'' = (.error e, k, t'') := refused
    rw [refused]
    exact ⟨⟨_, _, noted.note H _, .idle k rfl, rfl, rfl, none, none⟩,
      fun _ => sound.isConnected_eq_false stream, fun _ => rfl⟩
  | some handle =>
    have connected : k.isConnected = true := Attached.isConnected ⟨sound, stream⟩
    have isOpen : k.channel.stream.isSome := stream ▸ rfl
    have emission := emission_sendDetections (H := H) stream 0 [] t''
    have same := received_sendDetections (H := H) 0 [] k t''
    generalize k.sendDetections (H.traced F) 0 [] t'' = sent at emission same ⊢
    cases emission with
    | unencodable fault => cases (encodeDetections_nil 0).symm.trans fault
    | sent encoded happened =>
      have wrote := noted.trans (.of_happened happened same)
      exact ⟨⟨_, _, wrote, .sent k ⟨_, _, _, encoded, rfl⟩ rfl, rfl, rfl, none, none⟩, nofun,
        fun gone => by cases connected.symm.trans gone⟩
    | @failed line outcome e t' encoded incomplete _ happened =>
      have wrote := noted.trans (.of_happened happened same)
      have nothingWhole : completeLines ([.opened start false] ++
          [.wrote handle (line ++ [lineTerminator]) outcome] : List (Event F)) = [] :=
        List.filterMap_cons_none (completeLine?_eq_none incomplete)
      refine ⟨⟨_, _, wrote.note H _, ?_, ?_, rfl, none, none⟩, fun _ => rfl, fun _ => rfl⟩
      · exact .broken isOpen ⟨_, _, _, encoded, rfl⟩ rfl nothingWhole
      · rw [nothingWhole]
        rfl

variable (M D) in
theorem conducted_run (settings : SessionSettings) (start : StartCommand) {k : Client}
    (t : Traced σ F) (orderly : k.channel.Orderly) :
    Conducted start (pollsOf M.traced D.traced settings start k t) k t
      (run M.traced D.traced settings start k t) := by
  have opening : Elapsed [] [.opened start (M.traced.opening start t).1.isOk] t
      (M.traced.opening start t).2 := ⟨[.opened start _], rfl, rfl, rfl⟩
  cases result : (M.traced.opening start t).1 with
  | error e =>
    rw [result] at opening
    rw [run_failed result, pollsOf, result]
    exact conducted_unavailable start e orderly.sound opening
  | ok source =>
    rw [result] at opening
    let plan := planOf settings start (M.rate source)
    let begun := started (H.traced F) settings plan source k (M.traced.opening start t).2
    have events : pollsOf M.traced D.traced settings start k t =
        polls M.traced D.traced plan begun := by
      rw [pollsOf, result]
      rfl
    obtain ⟨⟨chunks, done, looped⟩, ending⟩ := looped_runFrom M D plan begun orderly
    rw [run_opened result, events]
    have noted := opening.note H (startedRecord settings plan)
    refine ⟨⟨_, _, (noted.trans looped.elapsed).note H _, ?_, ?_, ?_, ?_, ?_⟩, ending⟩
    · exact (Exchange.idle k rfl).trans looped.exchange
    · exact looped.messages_eq.trans (Nat.zero_add _)
    · exact congrArg (start :: ·) looped.unopened
    · exact looped.pulls_le
    · exact looped.rewinds_le

/-! ## Without the trace -/

variable (M D plan) in
theorem polls_traced (r : Running (Traced σ F) S) :
    polls M.traced D.traced plan r = polls M D plan r.untraced := by
  have step := iterate_traced M D plan r
  have poll (r : Running (Traced σ F) S) :
      (polled (H.traced F) r).1 = (polled H r.untraced).1 := congrArg (·.1) (polled_traced r)
  induction r using runFrom.induct M.traced D.traced plan with
  | case1 r ending r' last =>
    cases connected : r.client.isConnected with
    | false =>
      have gone : r.untraced.client.isConnected = false := connected
      rw [polls_gone connected, polls_gone gone]
    | true =>
      have connected' : r.untraced.client.isConnected = true := connected
      rw [last] at step
      rw [polls_finished connected last, polls_finished connected' step.symm, poll]
  | case2 r r' went spent ih =>
    cases connected : r.client.isConnected with
    | false => cases went.symm.trans (iterate_of_not_connected connected)
    | true =>
      have connected' : r.untraced.client.isConnected = true := connected
      have later := ih (iterate_traced M D plan r')
      rw [went] at step
      rw [polls_goOn connected went, polls_goOn connected' step.symm, poll, later]

variable (M D) in
theorem pollsOf_traced (settings : SessionSettings) (start : StartCommand) (k : Client)
    (t : Traced σ F) :
    pollsOf M.traced D.traced settings start k t = pollsOf M D settings start k t.world := by
  have same : (M.traced.opening start t).1 = (M.opening start t.world).1 := rfl
  unfold pollsOf
  rw [same]
  cases (M.opening start t.world).1 with
  | error e => rfl
  | ok source => exact polls_traced M D _ _

/-- On media that open, the polls are those of the loop. -/
theorem pollsOf_opened {settings : SessionSettings} {start : StartCommand} {k : Client} {w : σ}
    {source : S} (opened : (M.opening start w).1 = .ok source) :
    pollsOf M D settings start k w =
      polls M.traced D.traced (planOf settings start (M.rate source))
        (started (H.traced F) settings (planOf settings start (M.rate source)) source k
          (M.traced.opening start (.start w)).2) := by
  have traced := pollsOf_traced M D settings start k (.start w)
  have opened : (M.traced.opening start (.start w)).1 = .ok source := opened
  rw [pollsOf, opened] at traced
  exact traced.symm

/-- A session of a client in any state it can get to. Its ending is the loss of the connection
exactly if the client is not connected when it returns. Otherwise the chunks read meanwhile, put
into the buffer it began with, give the buffer it leaves with the entries consumed back in front:
its polls handed out the commands of these and counted the others as skipped, and all else waits,
the unfinished line included. Waits that follow hand out the commands that wait, and whatever they
read further, they hand out commands of what comes next. -/
theorem ending_agrees_with_channel (M : Media H S F) (D : Detector H F)
    (settings : SessionSettings) (start : StartCommand) (config : ChannelConfig)
    (pollTimeout : Duration) (w : σ) (actions : List (Client.Action σ)) :
    let used := Client.actAll H (.ofConfig config pollTimeout, w) actions
    let k := used.1
    let done := run M.traced D.traced settings start k (.start used.2)
    let k' := done.2.1
    untraced done = run M D settings start k used.2 ∧
    (done.1.ending = .disconnected ↔ k'.isConnected = false) ∧
    (done.1.ending ≠ .disconnected →
      (∃ consumed,
        k.channel.lines.absorbAll (chunksRead done.2.2.trace) =
          k'.channel.lines.putBack consumed ∧
        consumed.filterMap commandOf? =
          (pollsOf M D settings start k used.2).flatMap CommandEvent.commands ∧
        k'.inbox.discarded = k.inbox.discarded + consumed.countP isSkipped) ∧
      ∀ (t : Traced σ F) (timeouts : List (Option Duration)),
        let next := k'.waitAll (H.traced F) timeouts t
        next.1.take k'.queue.length = (k'.queue.take timeouts.length).map .command ∧
        ∃ chunks taken, Elapsed chunks [] t next.2.2 ∧
          taken <+: (k'.channel.lines.absorbAll chunks).ready ∧
          taken.filterMap commandOf? = next.1.flatMap CommandEvent.commands) := by
  intro used k done k'
  have orderly : k.channel.Orderly := Channel.orderly_actAll config pollTimeout w actions
  obtain ⟨⟨chunks, deeds, elapsed, exchange, -⟩, ending⟩ :=
    conducted_run M D settings start (.start used.2) orderly
  have after : k'.channel.Orderly :=
    (leads_run M.traced D.traced settings start k (.start used.2)).orderly orderly
  refine ⟨run_traced M D settings start k (.start used.2), ending, fun other => ⟨?_, ?_⟩⟩
  · obtain ⟨consumed, took, commands, discarded⟩ := exchange.intake
    have connected : k'.isConnected = true :=
      Bool.not_eq_false _ ▸ fun gone => other (ending.mpr gone)
    have isOpen := after.sound.isConnected_iff.mp connected
    rw [pollsOf_traced] at commands
    exact ⟨consumed, elapsed.of_start.1 ▸ took.lines_eq isOpen, commands, discarded⟩
  · intro t timeouts next
    obtain ⟨later, elapsed', exchange'⟩ := exchange_waitAll (H := H) timeouts t after.sound
    obtain ⟨taken, took, commands, -⟩ := exchange'.intake
    exact ⟨waitAll_queue timeouts k' t, later, taken, elapsed', took.isPrefix, commands⟩

end Session
end DetectionLink
