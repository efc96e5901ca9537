import DetectionLink.Proofs.SessionEnding

/-!
# The course of a session

As long as every write is complete, a session goes on or ends by what its polls say and by what its
source answers, and by nothing else: what the detector finds, when a poll brings its command and
how the commands that are ignored read make no difference. So two sessions whose polls and sources
agree as far as both of them get take the same course.

* `CommandEvent.verdict`, `replies`: what decides the course;
* `Course`, `Course.unique`: the courses there are, and that they are decided;
* `course_runFrom`: the loop of a session takes a course;
* `Smooth`, `Shown`, `shown_run`: a session with complete writes shows on its trace and in its
  report what its course says; `shown_unavailable`: a session without media;
* `same_course`: two sessions that take the same course.
-/

namespace DetectionLink

variable {σ S F : Type} {H : Host σ}

/-! ## What decides the course -/

/-- Whether a poll ends the session, and how. -/
def CommandEvent.verdict : CommandEvent → Option SessionEnd
  | .command .stop => some .stopped
  | .disconnected => some .disconnected
  | .command (.start _) | .command (.unknown _) | .noCommand => none

theorem CommandEvent.verdict_of_continues {event : CommandEvent}
    (continues : event.continues = true) : event.verdict = none := by
  cases event with
  | disconnected => cases continues
  | noCommand => rfl
  | command command =>
    cases command with
    | stop => cases continues
    | start _ => rfl
    | unknown _ => rfl

namespace Event

def isReply : Event F → Bool
  | .pulled _ _ | .rewound _ => true
  | _ => false

end Event

/-- What the source answered, in order. -/
def replies (trace : List (Event F)) : List (Event F) := trace.filter Event.isReply

theorem replies_append (a b : List (Event F)) : replies (a ++ b) = replies a ++ replies b :=
  List.filter_append a b

theorem replies_happened {done : List (Event F)} {t t' : Traced σ F} (h : Happened done t t') :
    replies t'.trace = replies t.trace ++ replies done := by
  obtain ⟨added, grown, rfl⟩ := h
  rw [grown, replies_append, deeds, replies, replies, replies, List.filter_filter]
  refine congrArg (_ ++ ·) (List.filter_congr fun event _ => ?_)
  cases event <;> rfl

theorem replies_quiet {t t' : Traced σ F} (h : Happened [] t t') :
    replies t'.trace = replies t.trace :=
  (replies_happened h).trans (List.append_nil _)

/-- The passes of a session are those of its source's answers. -/
theorem passes_replies (trace : List (Event F)) : passes (replies trace) = passes trace := by
  induction trace using List.reverseRecOn with
  | nil => rfl
  | append_singleton trace event ih =>
    rw [replies_append, passes_concat, ← ih]
    cases event with
    | pulled frame position => exact passes_concat _ _
    | rewound succeeded => exact passes_concat _ _
    | _ => exact congrArg passes (List.append_nil _)

theorem loops_replies (trace : List (Event F)) : loops (replies trace) = loops trace := by
  rw [loops, loops, replies, List.countP_filter]
  refine List.countP_congr fun event _ => ?_
  cases event <;> simp [Event.isLoop, Event.isReply]

/-- The same answers make the same passes. -/
theorem passes_of_replies {trace trace' : List (Event F)} (same : replies trace = replies trace') :
    passes trace = passes trace' := by
  rw [← passes_replies trace, same, passes_replies]

theorem loops_of_replies {trace trace' : List (Event F)} (same : replies trace = replies trace') :
    loops trace = loops trace' := by
  rw [← loops_replies trace, same, loops_replies]

/-! ## Courses -/

namespace Session

/-- The courses of a session that is at a place of its pass: what its polls say, what its source
answers and how it ends. -/
inductive Course (loop : Bool) :
    Nat → List (Option SessionEnd) → List (Event F) → SessionEnd → Prop
  | ended {index : Nat} {ending : SessionEnd} : Course loop index [some ending] [] ending
  | exhausted {index : Nat} {position : Option Binary64} (onlyOnce : loop = false ∨ index = 0) :
      Course loop index [none] [.pulled none position] .endOfMedia
  | stuck {index : Nat} {position : Option Binary64} (loops : loop = true) (nonempty : index ≠ 0) :
      Course loop index [none] [.pulled none position, .rewound false] .endOfMedia
  | rewound {index : Nat} {position : Option Binary64} {verdicts : List (Option SessionEnd)}
      {answers : List (Event F)} {ending : SessionEnd} (loops : loop = true) (nonempty : index ≠ 0)
      (later : Course loop 0 verdicts answers ending) :
      Course loop index (none :: verdicts) (.pulled none position :: .rewound true :: answers)
        ending
  | frame {index : Nat} {frame : F} {position : Option Binary64}
      {verdicts : List (Option SessionEnd)} {answers : List (Event F)} {ending : SessionEnd}
      (later : Course loop (index + 1) verdicts answers ending) :
      Course loop index (none :: verdicts) (.pulled (some frame) position :: answers) ending

/-- Two lists that come first in the same list have equal heads, and tails that come first in the
same list. -/
theorem cons_prefix_cons {α : Type} {x y : α} {xs ys all : List α} (h : x :: xs <+: all)
    (k : y :: ys <+: all) : x = y ∧ ∃ rest, xs <+: rest ∧ ys <+: rest := by
  obtain ⟨more, rfl⟩ := h
  obtain ⟨more', shape⟩ := k
  obtain ⟨rfl, tails⟩ := List.cons.inj shape
  exact ⟨rfl, xs ++ more, List.prefix_append xs more, ⟨more', tails⟩⟩

variable {loop : Bool} {index : Nat}

/-- Polls and source decide the course. -/
theorem Course.unique {verdicts verdicts' said : List (Option SessionEnd)}
    {answers answers' schedule : List (Event F)} {ending ending' : SessionEnd}
    (h : Course loop index verdicts answers ending)
    (k : Course loop index verdicts' answers' ending') (said₁ : verdicts <+: said)
    (said₂ : verdicts' <+: said) (answered₁ : answers <+: schedule)
    (answered₂ : answers' <+: schedule) :
    verdicts = verdicts' ∧ answers = answers' ∧ ending = ending' := by
  induction h generalizing verdicts' answers' said schedule with
  | ended =>
    cases k <;> obtain ⟨same, -⟩ := cons_prefix_cons said₁ said₂
    · obtain rfl := Option.some.inj same
      exact ⟨rfl, rfl, rfl⟩
    all_goals cases same
  | exhausted onlyOnce =>
    cases k with
    | ended => cases (cons_prefix_cons said₁ said₂).1
    | exhausted _ =>
      obtain ⟨same, -⟩ := cons_prefix_cons answered₁ answered₂
      exact ⟨rfl, congrArg ([·]) same, rfl⟩
    | stuck loops nonempty => exact absurd onlyOnce (by simp [loops, nonempty])
    | rewound loops nonempty _ => exact absurd onlyOnce (by simp [loops, nonempty])
    | frame _ => cases (cons_prefix_cons answered₁ answered₂).1
  | stuck loops nonempty =>
    cases k with
    | ended => cases (cons_prefix_cons said₁ said₂).1
    | exhausted onlyOnce => exact absurd onlyOnce (by simp [loops, nonempty])
    | stuck _ _ =>
      obtain ⟨same, -⟩ := cons_prefix_cons answered₁ answered₂
      exact ⟨rfl, congrArg ([·, _]) same, rfl⟩
    | rewound _ _ _ =>
      obtain ⟨-, rest, stuck, back⟩ := cons_prefix_cons answered₁ answered₂
      cases (cons_prefix_cons stuck back).1
    | frame _ => cases (cons_prefix_cons answered₁ answered₂).1
  | rewound loops nonempty later ih =>
    cases k with
    | ended => cases (cons_prefix_cons said₁ said₂).1
    | exhausted onlyOnce => exact absurd onlyOnce (by simp [loops, nonempty])
    | stuck _ _ =>
      obtain ⟨-, rest, back, stuck⟩ := cons_prefix_cons answered₁ answered₂
      cases (cons_prefix_cons back stuck).1
    | rewound _ _ later' =>
      obtain ⟨-, rest, said₁, said₂⟩ := cons_prefix_cons said₁ said₂
      obtain ⟨same, rest, back₁, back₂⟩ := cons_prefix_cons answered₁ answered₂
      obtain ⟨-, rest, answered₁, answered₂⟩ := cons_prefix_cons back₁ back₂
      obtain ⟨rfl, rfl, rfl⟩ := ih later' said₁ said₂ answered₁ answered₂
      exact ⟨rfl, congrArg (· :: _) same, rfl⟩
    | frame _ => cases (cons_prefix_cons answered₁ answered₂).1
  | frame later ih =>
    cases k with
    | ended => cases (cons_prefix_cons said₁ said₂).1
    | exhausted _ => cases (cons_prefix_cons answered₁ answered₂).1
    | stuck _ _ => cases (cons_prefix_cons answered₁ answered₂).1
    | rewound _ _ _ => cases (cons_prefix_cons answered₁ answered₂).1
    | frame later' =>
      obtain ⟨-, rest, said₁, said₂⟩ := cons_prefix_cons said₁ said₂
      obtain ⟨same, rest, answered₁, answered₂⟩ := cons_prefix_cons answered₁ answered₂
      obtain ⟨rfl, rfl, rfl⟩ := ih later' said₁ said₂ answered₁ answered₂
      exact ⟨rfl, congrArg (· :: _) same, rfl⟩

/-! ## The loop of a session -/

variable {M : Media H S F} {D : Detector H F} {plan : Plan} {handle : Nat}

section Steps

variable {r r' : Running (Traced σ F) S} {ending : SessionEnd}

/-- Taking the next frame, and the course from there on. -/
theorem course_pulled {verdicts : List (Option SessionEnd)} {answers : List (Event F)}
    (pulled : Pulled M plan handle r (.goOn r'))
    (later : Course plan.start.loop r'.index verdicts answers ending) :
    ∃ first, replies r'.world.trace = replies r.world.trace ++ first ∧
      Course plan.start.loop r.index (none :: verdicts) (first ++ answers) ending := by
  cases pulled with
  | rewound loops nonempty left =>
    rw [left.index_eq] at later
    exact ⟨_, replies_happened left.happened, .rewound loops nonempty later⟩
  | skipped _ left =>
    rw [left.index_eq] at later
    exact ⟨_, replies_happened left.happened, .frame later⟩
  | unencodable _ _ left =>
    rw [left.index_eq] at later
    exact ⟨_, replies_happened left.happened, .frame later⟩
  | sent _ _ left =>
    rw [left.index_eq] at later
    exact ⟨_, replies_happened left.happened, .frame later⟩

/-- Finding no frame any more. -/
theorem course_exhausted (pulled : Pulled M plan handle r (.finished ending r'))
    (unbroken : ¬ BrokenOff r'.world.trace) :
    ∃ answers, replies r'.world.trace = replies r.world.trace ++ answers ∧
      Course plan.start.loop r.index [none] answers ending := by
  cases pulled with
  | exhausted onlyOnce left => exact ⟨_, replies_happened left.happened, .exhausted onlyOnce⟩
  | stuck loops nonempty left =>
    exact ⟨_, replies_happened left.happened, .stuck loops nonempty⟩
  | failed _ _ incomplete left =>
    have broken : BrokenOff r'.world.trace :=
      brokenOff_of_happened [.pulled _ _, .detected _ _] left.happened incomplete
    exact absurd broken unbroken

/-- The last iteration. -/
theorem course_finished (attached : Attached handle r.client)
    (last : iterate M.traced D.traced plan r = .finished ending r')
    (unbroken : ¬ BrokenOff r'.world.trace) :
    ∃ answers, replies r'.world.trace = replies r.world.trace ++ answers ∧
      Course plan.start.loop r.index [(polled (H.traced F) r).1.verdict] answers ending := by
  have iterated := iterated_iterate M D plan attached
  have polled := happened_polled (H := H) r
  rw [last] at iterated
  cases iterated with
  | stopped poll left =>
    rw [poll]
    exact ⟨[], replies_happened (polled.trans left.happened), .ended⟩
  | lost poll =>
    rw [poll]
    exact ⟨[], replies_happened polled, .ended⟩
  | went poll left pulled =>
    have quiet := replies_quiet (polled.trans left.happened)
    obtain ⟨answers, same, course⟩ := course_exhausted pulled unbroken
    rw [left.index_eq] at course
    rw [CommandEvent.verdict_of_continues poll, ← quiet]
    exact ⟨answers, same, course⟩

end Steps

/-- As long as every write is complete, the loop of a session takes a course. -/
theorem course_runFrom (positive : 0 < plan.interval) (r : Running (Traced σ F) S)
    (faithful : Faithful plan handle r)
    (unbroken : ¬ BrokenOff (runFrom M.traced D.traced plan r).2.world.trace) :
    ∃ answers, replies (runFrom M.traced D.traced plan r).2.world.trace =
        replies r.world.trace ++ answers ∧
      Course plan.start.loop r.index ((polls M.traced D.traced plan r).map CommandEvent.verdict)
        answers (runFrom M.traced D.traced plan r).1 := by
  have connected := faithful.attached.isConnected
  induction r using runFrom.induct M.traced D.traced plan with
  | case1 r ending r' last =>
    rw [runFrom_finished last] at unbroken ⊢
    rw [polls_finished connected last]
    exact course_finished faithful.attached last unbroken
  | case2 r r' went spent ih =>
    have iterated := iterated_iterate M D plan faithful.attached
    have next := faithful_next positive faithful went
    rw [runFrom_goOn went] at unbroken ⊢
    obtain ⟨answers, all, later⟩ := ih next unbroken next.attached.isConnected
    rw [polls_goOn connected went, all]
    rw [went] at iterated
    cases iterated with
    | went poll left pulled =>
      have quiet := replies_quiet ((happened_polled (H := H) r).trans left.happened)
      obtain ⟨first, grown, course⟩ := course_pulled pulled later
      rw [left.index_eq] at course
      rw [List.map_cons, CommandEvent.verdict_of_continues poll, grown, quiet, List.append_assoc]
      exact ⟨first ++ answers, rfl, course⟩

/-! ## Whole sessions -/

section Smooth

variable {settings : SessionSettings} {start : StartCommand} {k : Client} {w : σ}
  {find : F → List RawDetection}

variable (M D settings start k w find) in
/-- A session whose detector is a function of the frame and whose writes are all complete. -/
structure Smooth : Prop where
  sound : k.channel.Sound
  finds : ∀ frame w, (D.detect frame w).1 = find frame
  complete : ∀ wire ∈ wires (run M.traced D.traced settings start k (.start w)).2.2.trace,
    wire.2 = .complete

/-- The line of an analysed frame, if what is found on it makes a message. -/
def lineOf (plan : Plan) (find : F → List RawDetection) (shot : Shot F × Nat) : Option Bytes :=
  message plan.fps shot (find shot.1.frame)

variable (M D settings start k w) in
/-- The verdicts of a session's polls. Without a connection there is one without a poll. -/
def verdictsOf : List (Option SessionEnd) :=
  if k.isConnected then (pollsOf M D settings start k w).map CommandEvent.verdict
  else [some .disconnected]

/-- Polls that bring some events come to the verdicts of these. -/
theorem verdictsOf_isPrefix {events : List CommandEvent}
    (polled : pollsOf M D settings start k w <+: events) :
    verdictsOf M D settings start k w <+:
      if k.isConnected then events.map CommandEvent.verdict else [some .disconnected] := by
  unfold verdictsOf
  split
  · exact polled.map _
  · exact List.prefix_refl _

/-- What a session on open media shows: that it took a course, and that its source's answers say
what else it did. -/
structure Shown (plan : Plan) (find : F → List RawDetection) (verdicts : List (Option SessionEnd))
    (report : SessionReport) (trace : List (Event F)) : Prop where
  course : Course plan.start.loop 0 verdicts (replies trace) report.ending
  handed_eq : handed trace =
    ((passes trace).due plan.interval).map fun shot => (shot.1.frame, find shot.1.frame)
  wires_eq : wires trace =
    (((passes trace).due plan.interval).filterMap (lineOf plan find)).map (·, .complete)
  counts_eq : report.toSessionCounts = ⟨(passes trace).frames,
    ((passes trace).due plan.interval).length,
    (((passes trace).due plan.interval).filterMap (lineOf plan find)).length, loops trace⟩

namespace Shown

variable {verdicts : List (Option SessionEnd)} {report : SessionReport} {trace : List (Event F)}

theorem framesRead_eq (h : Shown plan find verdicts report trace) :
    report.framesRead = (passes trace).frames :=
  congrArg SessionCounts.framesRead h.counts_eq

theorem messagesSent_eq (h : Shown plan find verdicts report trace) :
    report.messagesSent =
      (((passes trace).due plan.interval).filterMap (lineOf plan find)).length :=
  congrArg SessionCounts.messagesSent h.counts_eq

/-- The frames handed to the detector. -/
theorem frames_eq (h : Shown plan find verdicts report trace) :
    (handed trace).map (·.1) = ((passes trace).due plan.interval).map (·.1.frame) := by
  rw [h.handed_eq, List.map_map]
  rfl

/-- The lines written. -/
theorem lines_eq (h : Shown plan find verdicts report trace) :
    (wires trace).map (·.1) = ((passes trace).due plan.interval).filterMap (lineOf plan find) := by
  rw [h.wires_eq, List.map_map]
  exact List.map_id _

end Shown

/-- Everything handed to the detector is in the trace with what is found on it. -/
theorem handed_of_finds (finds : ∀ frame w, (D.detect frame w).1 = find frame) :
    let trace := (run M.traced D.traced settings start k (.start w)).2.2.trace
    handed trace = ((handed trace).map (·.1)).map fun frame => (frame, find frame) := by
  intro trace
  have found : Along M.traced D.traced settings.realtime
      (Added fun event : Event F => ∀ frame found, event = .detected frame found →
        found = find frame) := by
    have link : (H.traced F).Along (Added fun event => ∀ frame found,
        event = .detected frame found → found = find frame) :=
      Added.host H (fun _ _ _ => nofun) (fun _ _ _ _ => nofun) (fun _ _ _ _ _ => nofun)
        (fun _ _ _ => nofun)
    refine Added.session link M D (fun _ _ _ _ => nofun) (fun _ _ _ _ => nofun)
      (fun _ _ _ => nofun) (fun frame w frame' found same => ?_) (fun _ _ _ _ => nofun)
    obtain ⟨rfl, rfl⟩ := Event.detected.inj same
    exact finds frame w
  have all := (along_run found start k (.start w)).of_start
  rw [List.map_map]
  refine (List.map_id _).symm.trans (List.map_congr_left fun pair mem => ?_)
  obtain ⟨event, member, shown⟩ := List.mem_filterMap.mp mem
  cases event with
  | detected frame found =>
    obtain rfl := Option.some.inj shown
    exact congrArg (frame, ·) (all _ member frame found rfl)
  | _ => exact absurd shown nofun

/-- A frame and what is found on it make the line there is. -/
theorem messages_eq {trace : List (Event F)}
    (handed_eq : handed trace =
      ((passes trace).due plan.interval).map fun shot => (shot.1.frame, find shot.1.frame)) :
    messages plan trace = ((passes trace).due plan.interval).filterMap (lineOf plan find) := by
  rw [messages, handed_eq, List.map_map, List.zipWith_map_right, List.zipWith_self,
    List.filterMap_map]
  rfl

/-- Complete writes are written lines. -/
theorem wires_of_complete {trace : List (Event F)}
    (complete : ∀ wire ∈ wires trace, wire.2 = .complete) :
    wires trace = ((wires trace).map (·.1)).map (·, .complete) := by
  rw [List.map_map]
  refine (List.map_id _).symm.trans (List.map_congr_left fun wire mem => ?_)
  exact Prod.ext rfl (complete wire mem)

theorem course_run (smooth : Smooth M D settings start k w find) {source : S}
    (opened : (M.opening start w).1 = .ok source) :
    let done := run M.traced D.traced settings start k (.start w)
    Course start.loop 0 (verdictsOf M D settings start k w) (replies done.2.2.trace)
      done.1.ending := by
  intro done
  let plan := planOf settings start (M.rate source)
  let begun := started (H.traced F) settings plan source k (M.traced.opening start (.start w)).2
  have whole : done = _ := run_opened (M := M.traced) (D := D.traced) opened
  -- behind the loop there is only the record of how the session ended
  have ends : Happened [] (runFrom M.traced D.traced plan begun).2.world done.2.2 := by
    rw [whole]
    exact happened_note H _ _
  have ending : done.1.ending = (runFrom M.traced D.traced plan begun).1 :=
    congrArg (·.1.ending) whole
  rw [replies_quiet ends, ending, verdictsOf]
  cases connected : k.isConnected with
  | false =>
    have gone : iterate M.traced D.traced plan begun = .finished .disconnected begun :=
      iterate_of_not_connected connected
    rw [runFrom_finished gone]
    exact .ended
  | true =>
    obtain ⟨handle, attached⟩ := exists_attached smooth.sound connected
    have unbroken : ¬ BrokenOff (runFrom M.traced D.traced plan begun).2.world.trace := by
      have unbroken := not_brokenOff_of_complete smooth.complete
      rw [BrokenOff, ends.deeds_eq, List.append_nil] at unbroken
      exact unbroken
    obtain ⟨answers, all, course⟩ := course_runFrom
      (planOf_interval_pos settings start (M.rate source)) begun (faithful_started attached)
      unbroken
    rw [if_pos rfl, pollsOf_opened opened, all]
    exact course

theorem shown_run (smooth : Smooth M D settings start k w find) {source : S}
    (opened : (M.opening start w).1 = .ok source) :
    let plan := planOf settings start (M.rate source)
    let done := run M.traced D.traced settings start k (.start w)
    Shown plan find (verdictsOf M D settings start k w) done.1 done.2.2.trace := by
  intro plan done
  obtain ⟨closing, counts, -⟩ := accounted_run (D := D) settings start smooth.sound opened
  have exact_trace : Exact plan done.2.2.trace := closing.exact_trace
  have handed_eq : handed done.2.2.trace = ((passes done.2.2.trace).due plan.interval).map
      fun shot => (shot.1.frame, find shot.1.frame) := by
    rw [handed_of_finds smooth.finds, exact_trace.handed_eq, List.map_map]
    rfl
  have lines := exact_trace.wires_eq.trans (messages_eq handed_eq)
  refine ⟨course_run smooth opened, handed_eq, ?_, ?_⟩
  · rw [wires_of_complete smooth.complete, lines]
  · rw [counts, tally_eq, completeLines_of_complete smooth.complete, lines, handed_eq,
      List.length_map]

/-! Media that cannot be opened -/

/-- The report of a session on media that cannot be opened, and what it writes. -/
def untold (connected : Bool) : SessionReport × List (Bytes × WriteOutcome) :=
  if connected then (⟨{ noCounts with messagesSent := 1 }, .mediaUnavailable⟩,
    [((DetectionMessage.empty 0).encode ++ [lineTerminator], .complete)])
  else (⟨noCounts, .disconnected⟩, [])

theorem told_of_complete (start : StartCommand) (e : MediaError) {k : Client}
    (sound : k.channel.Sound) (t : Traced σ F)
    (complete : ∀ wire ∈ wires (unavailable (H.traced F) start e k t).2.2.trace,
      wire.2 = .complete) :
    ∃ writes, Happened writes t (unavailable (H.traced F) start e k t).2.2 ∧
      ((unavailable (H.traced F) start e k t).1, wires writes) = untold k.isConnected ∧
      handed writes = [] ∧ replies writes = [] := by
  have noted := happened_note H t (unavailableRecord (H.traced F).wording start e)
  unfold unavailable at complete ⊢
  generalize (H.traced F).note _ t = t' at noted complete ⊢
  cases stream : k.channel.stream with
  | none =>
    obtain ⟨e, refused, -⟩ := perform_of_closed (H := H.traced F) stream (.detections 0 []) t'
    have refused : k.sendDetections (H.traced F) 0 [] t' = (.error e, k, t') := refused
    have gone : k.isConnected = false := sound.isConnected_eq_false stream
    rw [refused, gone]
    exact ⟨[], noted.quiet (happened_note H _ _), rfl, rfl, rfl⟩
  | some handle =>
    have connected : k.isConnected = true := Attached.isConnected ⟨sound, stream⟩
    have emission := emission_sendDetections (H := H) stream 0 [] t'
    generalize k.sendDetections (H.traced F) 0 [] t' = sent at emission complete ⊢
    rw [connected]
    cases emission with
    | unencodable fault => cases (encodeDetections_nil 0).symm.trans fault
    | sent encoded wrote =>
      obtain rfl := Except.ok.inj ((encodeDetections_nil 0).symm.trans encoded)
      exact ⟨_, noted.trans wrote, rfl, rfl, rfl⟩
    | failed _ incomplete _ wrote =>
      refine absurd ?_ (not_brokenOff_of_complete complete)
      exact brokenOff_of_happened [] (wrote.quiet (happened_note H _ _)) incomplete

theorem shown_unavailable (smooth : Smooth M D settings start k w find) {e : MediaError}
    (failed : (M.opening start w).1 = .error e) :
    let done := run M.traced D.traced settings start k (.start w)
    (done.1, wires done.2.2.trace) = untold k.isConnected ∧ handed done.2.2.trace = [] ∧
      replies done.2.2.trace = [] := by
  intro done
  have unopened : done = unavailable (H.traced F) start e k
      (M.traced.opening start (.start w)).2 := run_failed (M := M.traced) failed
  have complete : ∀ wire ∈ wires done.2.2.trace, wire.2 = .complete := smooth.complete
  rw [unopened] at complete ⊢
  obtain ⟨writes, happened, told, nothingHanded, noAnswer⟩ :=
    told_of_complete start e smooth.sound _ complete
  refine ⟨?_, ?_, ?_⟩
  · rw [wires_happened happened]
    exact told
  · rw [handed_happened happened, nothingHanded]
    rfl
  · rw [replies_happened happened, noAnswer]
    rfl

/-! ## Two sessions -/

/-- Two openings that come to the same: a source of the same rate each time, or none. -/
def OpensAlike (M : Media H S F) (start : StartCommand) (w w' : σ) : Prop :=
  (M.opening start w).1.toOption.map M.rate = (M.opening start w').1.toOption.map M.rate

/-- Reports that agree on their counts and on the ending. -/
theorem report_ext {report report' : SessionReport}
    (counts : report.toSessionCounts = report'.toSessionCounts)
    (ending : report.ending = report'.ending) : report = report' := by
  cases report
  cases report'
  cases counts
  cases ending
  rfl

theorem OpensAlike.sources {w w' : σ} (alike : OpensAlike M start w w') :
    (∃ source source', (M.opening start w).1 = .ok source ∧
      (M.opening start w').1 = .ok source' ∧ M.rate source = M.rate source') ∨
    ∃ e e', (M.opening start w).1 = .error e ∧ (M.opening start w').1 = .error e' := by
  unfold OpensAlike at alike
  cases opened : (M.opening start w).1 with
  | ok source =>
    cases opened' : (M.opening start w').1 with
    | ok source' =>
      rw [opened, opened'] at alike
      exact .inl ⟨source, source', rfl, rfl, Option.some.inj alike⟩
    | error e =>
      rw [opened, opened'] at alike
      cases alike
  | error e =>
    cases opened' : (M.opening start w').1 with
    | ok source' =>
      rw [opened, opened'] at alike
      cases alike
    | error e' => exact .inr ⟨e, e', rfl, rfl⟩

/-- Two sessions whose polls and sources agree as far as both of them get take the same course. -/
theorem same_course {D' : Detector H F} {k' : Client} {w' : σ} {find' : F → List RawDetection}
    {said : List (Option SessionEnd)} {schedule : List (Event F)}
    (smooth : Smooth M D settings start k w find) (smooth' : Smooth M D' settings start k' w' find')
    (connected : k.isConnected = k'.isConnected) (alike : OpensAlike M start w w') :
    let done := run M.traced D.traced settings start k (.start w)
    let done' := run M.traced D'.traced settings start k' (.start w')
    verdictsOf M D settings start k w <+: said → verdictsOf M D' settings start k' w' <+: said →
    replies done.2.2.trace <+: schedule → replies done'.2.2.trace <+: schedule →
    replies done.2.2.trace = replies done'.2.2.trace ∧ done.1.ending = done'.1.ending := by
  intro done done' heard heard' answered answered'
  rcases alike.sources with ⟨source, source', opened, opened', -⟩ | ⟨e, e', failed, failed'⟩
  · obtain ⟨-, same, ending⟩ := (course_run smooth opened).unique (course_run smooth' opened')
      heard heard' answered answered'
    exact ⟨same, ending⟩
  · obtain ⟨told, -, none⟩ := shown_unavailable smooth failed
    obtain ⟨told', -, none'⟩ := shown_unavailable smooth' failed'
    rw [connected, ← told'] at told
    exact ⟨none.trans none'.symm, congrArg (·.1.ending) told⟩

end Smooth
end Session
end DetectionLink
