import DetectionLink.Proofs.SessionEnding

/-!
# The totals of a connection

Serving a supervisor alternates between waits of the idle loop and polls of the session that a start
brings. Both look at the same channel, one at a time, and every command that arrives is consumed by
one of them. The report counts what the idle loop consumed, and the trace shows what came of it.

* `Look`, `looks`: the waits and polls of a connection in order, with what each brought;
* `Served`, `served_turn`, `served_serveFrom`: the account of the loop;
* `serve_traced`: serving on a host that keeps a trace;
* `serve_totals`: the totals of a whole connection.
-/

namespace DetectionLink

namespace Command

def isUnknown : Command → Bool
  | .unknown _ => true
  | .start _ | .stop => false

def start? : Command → Option StartCommand
  | .start asked => some asked
  | .stop | .unknown _ => none

/-- Every command is of one of three kinds. -/
theorem length_kinds (commands : List Command) :
    commands.length = (commands.filterMap start?).length + commands.countP isUnknown +
      commands.countP isStop := by
  induction commands with
  | nil => rfl
  | cons command rest ih =>
    rw [List.length_cons, ih]
    cases command <;>
      simp only [List.filterMap_cons, List.countP_cons, start?, isUnknown, isStop, List.length_cons,
        Bool.false_eq_true, if_false, if_true] <;> omega

end Command

namespace Service

variable {σ S F : Type} {H : Host σ}

/-! ## Looks at the channel -/

/-- A wait of the idle loop or a poll of a session, with what it brought. -/
inductive Look
  | wait (event : CommandEvent)
  | poll (event : CommandEvent)

namespace Look

def event : Look → CommandEvent
  | wait event | poll event => event

def isPoll : Look → Bool
  | wait _ => false
  | poll _ => true

/-- What the idle loop consumed. -/
def idleCommands : Look → List Command
  | wait event => event.commands
  | poll _ => []

/-- What sessions consumed. -/
def sessionCommands : Look → List Command
  | wait _ => []
  | poll event => event.commands

end Look

/-- The commands that looks brought, in order. -/
def commands (looks : List Look) : List Command := looks.flatMap (·.event.commands)

def idle (looks : List Look) : List Command := looks.flatMap Look.idleCommands

def inSession (looks : List Look) : List Command := looks.flatMap Look.sessionCommands

theorem idle_append (looks more : List Look) : idle (looks ++ more) = idle looks ++ idle more :=
  List.flatMap_append

/-- Every command is consumed on one side. -/
theorem length_commands (looks : List Look) :
    (commands looks).length = (idle looks).length + (inSession looks).length := by
  induction looks with
  | nil => rfl
  | cons look rest ih =>
    have first : look.event.commands.length =
        look.idleCommands.length + look.sessionCommands.length := by
      cases look with
      | wait event => rfl
      | poll event => exact (Nat.zero_add _).symm
    simp only [commands, idle, inSession, List.flatMap_cons, List.length_append] at ih ⊢
    omega

/-- A wait brings one command at most, a poll none to the idle loop. -/
theorem length_idle_le (looks : List Look) :
    (idle looks).length + looks.countP Look.isPoll ≤ looks.length := by
  induction looks with
  | nil => exact Nat.le_refl 0
  | cons look rest ih =>
    rw [idle, List.flatMap_cons, List.length_append, List.countP_cons, List.length_cons]
    change (idle rest).length + _ ≤ _ at ih
    have one : look.idleCommands.length + (if look.isPoll then 1 else 0) ≤ 1 := by
      cases look with
      | wait event => cases event <;> simp [Look.idleCommands, Look.isPoll, CommandEvent.commands]
      | poll event => exact Nat.le_refl 1
    change look.idleCommands.length + (idle rest).length + _ ≤ _
    omega

/-! A wait, and the polls of the session it starts. -/

section Turns

variable (event : CommandEvent) (events : List CommandEvent)

theorem event_turn : (Look.wait event :: events.map .poll).map Look.event = event :: events := by
  rw [List.map_cons, List.map_map]
  exact congrArg (event :: ·) (List.map_id events)

theorem idle_turn : idle (.wait event :: events.map .poll) = event.commands := by
  have none : idle (events.map .poll) = [] := by simp [idle, List.flatMap_map, Look.idleCommands]
  exact (congrArg (event.commands ++ ·) none).trans (List.append_nil _)

theorem countP_turn : (Look.wait event :: events.map .poll).countP Look.isPoll = events.length := by
  rw [List.countP_cons_of_neg (by simp [Look.isPoll]), List.countP_map]
  exact List.countP_eq_length.mpr fun _ _ => rfl

end Turns

section Looks

variable (M : Media H S F) (D : Detector H F) (settings : SessionSettings)

/-- The polls of the session that a wait starts, if it starts one. -/
def pollsAfter (event : CommandEvent) (s : Serving σ) : List CommandEvent :=
  match event with
  | .command (.start start) =>
    Session.pollsOf M D settings start s.client (H.note (startRecord start) s.world)
  | _ => []

/-- A wait and the session it starts. -/
def turn (s : Serving σ) : List Look :=
  .wait (waited H s).1 :: (pollsAfter M D settings (waited H s).1 (waited H s).2).map .poll

/-- All waits and polls from a state on. -/
def looks (s : Serving σ) : List Look :=
  if s.client.isConnected then
    turn M D settings s ++
      if isOpen : (waited H s).1.isOpen then
        have _spent := waited_lessLeft M D settings s isOpen
        looks (act M D settings (waited H s).1 (waited H s).2)
      else []
  else []
termination_by (H.budget s.world, s.client.channel.lines.pending)
decreasing_by exact Channel.LessLeft.lex _spent

variable {M D settings} {s : Serving σ}

theorem looks_goOn (connected : s.client.isConnected = true)
    (isOpen : (waited H s).1.isOpen = true) :
    looks M D settings s = turn M D settings s ++
      looks M D settings (act M D settings (waited H s).1 (waited H s).2) := by
  rw [looks, if_pos connected, dif_pos isOpen]

theorem looks_lost (connected : s.client.isConnected = true)
    (lost : ¬ (waited H s).1.isOpen = true) : looks M D settings s = turn M D settings s := by
  rw [looks, if_pos connected, dif_neg lost, List.append_nil]

theorem looks_gone (gone : ¬ s.client.isConnected = true) : looks M D settings s = [] := by
  rw [looks, if_neg gone]

end Looks

/-! ## The loop -/

/-- The account of the loop between two states. -/
structure Served (looks : List Look) (chunks : List Bytes) (done : List (Event F))
    (s s' : Serving (Traced σ F)) : Prop where
  elapsed : Elapsed chunks done s.world s'.world
  exchange : Exchange chunks done (looks.map Look.event) s.client s'.client
  openings_eq : openings done = (idle looks).filterMap Command.start?
  sessions_eq : s'.report.sessions = s.report.sessions + (openings done).length
  unknown_eq : s'.report.unknownCommands =
    s.report.unknownCommands + (idle looks).countP Command.isUnknown
  messages_eq : s'.report.messagesSent = s.report.messagesSent + (completeLines done).length
  pulls_le : pulls done ≤ looks.countP Look.isPoll
  rewinds_le : rewinds done ≤ looks.countP Look.isPoll

namespace Served

variable {looks looks' : List Look} {chunks chunks' : List Bytes} {done done' : List (Event F)}
  {s s' s'' : Serving (Traced σ F)}

theorem refl (s : Serving (Traced σ F)) : Served [] [] [] s s :=
  ⟨.refl _, .idle _ rfl, rfl, rfl, rfl, rfl, Nat.le_refl 0, Nat.le_refl 0⟩

theorem trans (h : Served looks chunks done s s') (k : Served looks' chunks' done' s' s'') :
    Served (looks ++ looks') (chunks ++ chunks') (done ++ done') s s'' where
  elapsed := h.elapsed.trans k.elapsed
  exchange := List.map_append ▸ h.exchange.trans k.exchange
  openings_eq := by
    rw [openings_append, idle_append, List.filterMap_append, h.openings_eq, k.openings_eq]
  sessions_eq := by
    rw [k.sessions_eq, h.sessions_eq, openings_append, List.length_append, Nat.add_assoc]
  unknown_eq := by
    rw [k.unknown_eq, h.unknown_eq, idle_append, List.countP_append, Nat.add_assoc]
  messages_eq := by
    rw [k.messages_eq, h.messages_eq, completeLines_append, List.length_append, Nat.add_assoc]
  pulls_le := by
    rw [pulls_append, List.countP_append]
    exact Nat.add_le_add h.pulls_le k.pulls_le
  rewinds_le := by
    rw [rewinds_append, List.countP_append]
    exact Nat.add_le_add h.rewinds_le k.rewinds_le

end Served

variable (M : Media H S F) (D : Detector H F) (settings : SessionSettings)

/-- A wait, and what the loop does about what it brought. -/
theorem served_turn {s : Serving (Traced σ F)} (orderly : s.client.channel.Orderly) :
    ∃ chunks done, Served (turn M.traced D.traced settings s) chunks done s
      (act M.traced D.traced settings (waited (H.traced F) s).1 (waited (H.traced F) s).2) := by
  obtain ⟨⟨chunks, elapsed, exchange⟩, -⟩ := exchange_wait (H := H) none s.world orderly.sound
  have waiting : Leads (H.traced F) s.link (waited (H.traced F) s).2.link := .one (.wait none)
  have none := Nat.le_refl 0
  unfold turn
  change Exchange _ _ [(waited (H.traced F) s).1] _ (waited (H.traced F) s).2.client at exchange
  change Elapsed _ _ _ (waited (H.traced F) s).2.world at elapsed
  cases event : (waited (H.traced F) s).1 with
  | noCommand =>
    rw [event] at exchange
    exact ⟨_, _, elapsed.note H _, exchange, rfl, rfl, rfl, rfl, none, none⟩
  | disconnected =>
    rw [event] at exchange
    exact ⟨_, _, elapsed, exchange, rfl, rfl, rfl, rfl, none, none⟩
  | command command =>
    rw [event] at exchange
    cases command with
    | stop => exact ⟨_, _, elapsed.note H _, exchange, rfl, rfl, rfl, rfl, none, none⟩
    | unknown raw => exact ⟨_, _, elapsed.note H _, exchange, rfl, rfl, rfl, rfl, none, none⟩
    | start start =>
      obtain ⟨⟨more, done, elapsed', exchange', messages, opened, pulls_le, rewinds_le⟩, -⟩ :=
        Session.conducted_run M D settings start
          ((H.traced F).note (startRecord start) (waited (H.traced F) s).2.world)
          (waiting.orderly orderly)
      have session := ((elapsed.note H (startRecord start)).trans elapsed').note H
      refine ⟨_, _, session _, ?_, ?_, ?_, ?_, ?_, ?_, ?_⟩
      · rw [event_turn]
        exact exchange.trans exchange'
      · rw [idle_turn]
        exact opened
      · exact (congrArg (s.report.sessions + List.length ·) opened).symm
      · rw [idle_turn]
        rfl
      · exact congrArg (s.report.messagesSent + ·) messages
      · rw [countP_turn]
        exact pulls_le
      · rw [countP_turn]
        exact rewinds_le

/-- Waits and the sessions they start, until the connection is gone. -/
theorem served_serveFrom (s : Serving (Traced σ F)) (orderly : s.client.channel.Orderly) :
    let served := serveFrom M.traced D.traced settings s
    (∃ chunks done, Served (looks M.traced D.traced settings s) chunks done s served) ∧
    served.client.isConnected = false := by
  induction s using serveFrom.induct M.traced D.traced settings with
  | case1 s connected isOpen spent ih =>
    obtain ⟨chunks, done, first⟩ := served_turn M D settings orderly
    have waiting : Leads (H.traced F) s.link (waited (H.traced F) s).2.link := .one (.wait none)
    have acting := leads_act M.traced D.traced settings (waited (H.traced F) s).1
      (waited (H.traced F) s).2
    obtain ⟨⟨more, later, others⟩, gone⟩ := ih ((waiting.trans acting).orderly orderly)
    rw [serveFrom_goOn connected isOpen, looks_goOn connected isOpen]
    exact ⟨⟨_, _, first.trans others⟩, gone⟩
  | case2 s connected closed =>
    obtain ⟨chunks, done, first⟩ := served_turn M D settings orderly
    have lost : (waited (H.traced F) s).1 = .disconnected := by
      cases event : (waited (H.traced F) s).1 with
      | disconnected => rfl
      | command command => exact absurd (event ▸ rfl) closed
      | noCommand => exact absurd (event ▸ rfl) closed
    have after : (waited (H.traced F) s).2.client.channel.Sound := sound_waitUntil orderly.sound
    have gone := (exchange_wait (H := H) none s.world orderly.sound).2 lost
    rw [lost] at first
    rw [serveFrom_lost connected closed, looks_lost connected closed]
    exact ⟨⟨_, _, first⟩, after.isConnected_eq_false gone⟩
  | case3 s gone =>
    rw [serveFrom_gone gone, looks_gone gone]
    exact ⟨⟨_, _, .refl s⟩, Bool.not_eq_true _ ▸ gone⟩

/-! ## Without the trace -/

def Serving.untraced (s : Serving (Traced σ F)) : Serving σ := ⟨s.report, s.client, s.world.world⟩

theorem waited_traced (s : Serving (Traced σ F)) :
    ((waited (H.traced F) s).1, (waited (H.traced F) s).2.untraced) = waited H s.untraced :=
  congrArg (fun done : CommandEvent × Client × σ =>
    (done.1, (⟨s.report, done.2.1, done.2.2⟩ : Serving σ)))
    (wait_traced (H := H) none s.client s.world)

theorem act_traced (event : CommandEvent) (s : Serving (Traced σ F)) :
    (act M.traced D.traced settings event s).untraced = act M D settings event s.untraced := by
  unfold act
  split
  · next start =>
    have same : DetectionLink.untraced (Session.run M.traced D.traced settings start s.client
        ((H.traced F).note (startRecord start) s.world)) =
        Session.run M D settings start s.untraced.client
          (H.note (startRecord start) s.untraced.world) := Session.run_traced ..
    unfold runSession
    rw [← same]
    rfl
  · rfl
  · rfl
  · rfl
  · rfl

theorem turn_traced (s : Serving (Traced σ F)) :
    turn M.traced D.traced settings s = turn M D settings s.untraced := by
  have polls (event : CommandEvent) (s : Serving (Traced σ F)) :
      pollsAfter M.traced D.traced settings event s =
        pollsAfter M D settings event s.untraced := by
    unfold pollsAfter
    split
    · exact Session.pollsOf_traced M D settings _ _ _
    · rfl
  rw [turn, turn, polls, ← waited_traced]

theorem serveFrom_traced (s : Serving (Traced σ F)) :
    (serveFrom M.traced D.traced settings s).untraced = serveFrom M D settings s.untraced ∧
    looks M.traced D.traced settings s = looks M D settings s.untraced := by
  have same (s : Serving (Traced σ F)) :
      waited H s.untraced = ((waited (H.traced F) s).1, (waited (H.traced F) s).2.untraced) :=
    (waited_traced s).symm
  induction s using serveFrom.induct M.traced D.traced settings with
  | case1 s connected isOpen spent ih =>
    have connected' : s.untraced.client.isConnected = true := connected
    have isOpen' : (waited H s.untraced).1.isOpen = true := by rw [same]; exact isOpen
    rw [act_traced] at ih
    rw [serveFrom_goOn connected isOpen, looks_goOn connected isOpen,
      serveFrom_goOn connected' isOpen', looks_goOn connected' isOpen', turn_traced, same]
    exact ⟨ih.1, congrArg (turn M D settings s.untraced ++ ·) ih.2⟩
  | case2 s connected lost =>
    have connected' : s.untraced.client.isConnected = true := connected
    have lost' : ¬ (waited H s.untraced).1.isOpen = true := by rw [same]; exact lost
    rw [serveFrom_lost connected lost, looks_lost connected lost, serveFrom_lost connected' lost',
      looks_lost connected' lost', turn_traced, same]
    exact ⟨rfl, rfl⟩
  | case3 s gone =>
    have gone' : ¬ s.untraced.client.isConnected = true := gone
    rw [serveFrom_gone gone, looks_gone gone, serveFrom_gone gone', looks_gone gone']
    exact ⟨rfl, rfl⟩

/-- A connection before its first wait. -/
def begun (H : Host σ) (k : Client) (w : σ) : Serving σ :=
  ⟨⟨0, 0, 0⟩, k, H.note (.info "Waiting for commands") w⟩

theorem serve_traced (k : Client) (t : Traced σ F) :
    untraced (serve M.traced D.traced settings k t) = serve M D settings k t.world := by
  have same := (serveFrom_traced M D settings (begun (H.traced F) k t)).1
  unfold serve
  rw [show (⟨⟨0, 0, 0⟩, k, H.note (.info "Waiting for commands") t.world⟩ : Serving σ) =
    (begun (H.traced F) k t).untraced from rfl, ← same]
  exact congrArg (fun closed : Channel × σ => (_, { (serveFrom M.traced D.traced settings
    (begun (H.traced F) k t)).client with channel := closed.1 }, H.note _ closed.2))
    (close_traced _ _)

/-! ## Whole connections -/

/-- All waits and polls of a connection. -/
def looksOf (k : Client) (w : σ) : List Look := looks M D settings (begun H k w)

/-- Nothing is counted. -/
theorem served_quiet {s s' : Serving (Traced σ F)} (elapsed : Elapsed [] [] s.world s'.world)
    (exchange : Exchange [] ([] : List (Event F)) [] s.client s'.client)
    (report : s'.report = s.report) : Served [] [] [] s s' where
  elapsed := elapsed
  exchange := exchange
  openings_eq := rfl
  sessions_eq := congrArg ServiceReport.sessions report
  unknown_eq := congrArg ServiceReport.unknownCommands report
  messages_eq := congrArg ServiceReport.messagesSent report
  pulls_le := Nat.le_refl 0
  rewinds_le := Nat.le_refl 0

/-- The account of a whole connection, which is closed in the end. -/
theorem served_serve {k : Client} (w : σ) (orderly : k.channel.Orderly) :
    let done := serve M.traced D.traced settings k (.start w)
    let ended : Serving (Traced σ F) := ⟨done.1, done.2.1, done.2.2⟩
    (∃ chunks deeds,
      Served (looksOf M D settings k w) chunks deeds ⟨⟨0, 0, 0⟩, k, .start w⟩ ended) ∧
    ∃ channel : Channel, done.2.1.channel = channel.closed := by
  intro done ended
  have starting : Served [] [] [] ⟨⟨0, 0, 0⟩, k, .start w⟩ (begun (H.traced F) k (.start w)) :=
    served_quiet ((Elapsed.refl _).note H _) (.idle k rfl) rfl
  have leads := leads_serveFrom M.traced D.traced settings (begun (H.traced F) k (.start w))
  have looked : looks M.traced D.traced settings (begun (H.traced F) k (.start w)) =
      looksOf M D settings k w := (serveFrom_traced M D settings _).2
  obtain ⟨⟨chunks, deeds, served⟩, -⟩ :=
    served_serveFrom M D settings (begun (H.traced F) k (.start w)) orderly
  obtain ⟨elapsed, exchange⟩ := exchange_close (H := H) (serveFrom M.traced D.traced settings
    (begun (H.traced F) k (.start w))).world (leads.orderly orderly).sound
  have closing : Served [] [] [] _ ended := served_quiet (elapsed.note H _) exchange rfl
  have whole := (starting.trans served).trans closing
  rw [looked, List.append_nil, List.append_nil, List.append_nil] at whole
  exact ⟨⟨_, _, whole⟩, _, Channel.close_fst _ _⟩

/-- A connection of a client in any state it can get to. Its waits and polls handed out the commands
of the entries it took, each once and in the order of their arrival. The sessions in the report are
the starts that the idle loop consumed, and just their media were opened; the unknown commands are
those it consumed; the messages are the lines written whole, all of them detection messages, and the
client's own count grew by them. The commands handed out are the sessions, the unknown commands, the
stops while nothing ran, and what the sessions polled. In the end the channel is disconnected, and
nothing is left in its buffer. -/
theorem serve_totals (config : ChannelConfig) (pollTimeout : Duration) (w : σ)
    (actions : List (Client.Action σ)) :
    let used := Client.actAll H (.ofConfig config pollTimeout, w) actions
    let k := used.1
    let done := serve M.traced D.traced settings k (.start used.2)
    let report := done.1
    let k' := done.2.1
    let trace := done.2.2.trace
    let looks := looksOf M D settings k used.2
    untraced done = serve M D settings k used.2 ∧
    (∃ consumed,
      consumed <+: (k.channel.lines.absorbAll (chunksRead trace)).ready ∧
      consumed.filterMap commandOf? = commands looks ∧
      k'.inbox.discarded = k.inbox.discarded + consumed.countP isSkipped) ∧
    (openings trace = (idle looks).filterMap Command.start? ∧
      report.sessions = (openings trace).length) ∧
    report.unknownCommands = (idle looks).countP Command.isUnknown ∧
    (report.messagesSent = (completeLines trace).length ∧
      (∀ line ∈ completeLines trace, IsMessageLine line) ∧
      k'.sent = k.sent + report.messagesSent) ∧
    k'.inbox.dispatched = k.inbox.dispatched + (report.sessions + report.unknownCommands +
      (idle looks).countP Command.isStop + (inSession looks).length) ∧
    (k'.channel.state = .disconnected ∧ k'.channel.stream = none ∧ k'.channel.lines.ready = [] ∧
      k'.channel.lines.held = []) := by
  intro used k done report k' trace looks
  have orderly : k.channel.Orderly := Channel.orderly_actAll config pollTimeout w actions
  obtain ⟨⟨chunks, deeds, served⟩, channel, closed⟩ := served_serve M D settings used.2 orderly
  obtain ⟨read, did⟩ := served.elapsed.of_start
  change chunksRead trace = chunks at read
  change DetectionLink.deeds trace = deeds at did
  have opened : openings trace = openings deeds := did ▸ filterMap_deeds opened?_quiet trace
  have whole : completeLines trace = completeLines deeds :=
    did ▸ filterMap_deeds completeLine?_quiet trace
  have sessions : report.sessions = (openings trace).length :=
    (served.sessions_eq.trans (Nat.zero_add _)).trans (congrArg List.length opened.symm)
  have unknown : report.unknownCommands = (idle looks).countP Command.isUnknown :=
    served.unknown_eq.trans (Nat.zero_add _)
  have messages : report.messagesSent = (completeLines trace).length :=
    (served.messages_eq.trans (Nat.zero_add _)).trans (congrArg List.length whole.symm)
  have handedOut : (looks.map Look.event).flatMap CommandEvent.commands = commands looks :=
    List.flatMap_map ..
  have dispatched := served.exchange.dispatched_eq
  obtain ⟨consumed, took, taken, discarded⟩ := served.exchange.intake
  rw [handedOut] at taken dispatched
  refine ⟨serve_traced M D settings k (.start used.2), ⟨consumed, ?_, taken, discarded⟩,
    ⟨opened.trans served.openings_eq, sessions⟩, unknown, ⟨messages, ?_, ?_⟩, ?_, ?_⟩
  · exact read ▸ took.isPrefix
  · exact fun line mem => served.exchange.message_of_mem (whole ▸ mem)
  · exact served.exchange.sent_eq.trans (by rw [messages, whole])
  · refine dispatched.trans ?_
    rw [length_commands, Command.length_kinds, sessions, unknown, opened, served.openings_eq]
  · have closed : k'.channel = channel.closed := closed
    rw [closed]
    exact ⟨rfl, rfl, rfl, rfl⟩

end Service
end DetectionLink
