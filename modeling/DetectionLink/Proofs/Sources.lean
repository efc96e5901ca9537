import DetectionLink.Proofs.Course
import Mathlib.Logic.Function.Iterate

/-!
# Sources that play alone

What some sources answer depends on how often they were asked and on nothing else, a synthetic
clip's for one. A session that does not loop then gets the first answers of its source, in order,
whatever else happens to it.

* `PlaysAlone`: media with such sources; `deliveries`: their first answers;
* `Follows`, `Follows.run`: what holds of a session by what its source answers;
* `answers_run`: what a session gets of them; `exists_schedule`: what two sessions get;
* `smooth_of_along`: sessions whose writes are all complete;
* `countP_isFrame_deliveries_le`: a clip has no more frames than its length says;
* `smooth_of_script`: a clip on a script that names no write;
* `replies_crowdedClient`, `passes_crowdedClient`: a clip that is stopped behind two frames.
-/

namespace DetectionLink

variable {σ S F : Type} {H : Host σ}

/-- Media whose sources answer from their own state. -/
def Media.PlaysAlone (M : Media H S F) (next : S → Option F × S) : Prop :=
  ∀ s w, (M.next s w).1 = (next s).1 ∧ (M.next s w).2.1 = (next s).2

/-- The first answers of a source. -/
def deliveries (next : S → Option F × S) (position : S → Option Binary64) :
    Nat → S → List (Event F)
  | 0, _ => []
  | n + 1, s => .pulled (next s).1 (position (next s).2) :: deliveries next position n (next s).2

section Deliveries

variable (next : S → Option F × S) (position : S → Option Binary64)

theorem deliveries_add (n m : Nat) (s : S) :
    deliveries next position (n + m) s =
      deliveries next position n s ++ deliveries next position m ((fun s => (next s).2)^[n] s) := by
  induction n generalizing s with
  | zero => rw [Nat.zero_add]; rfl
  | succ n ih =>
    rw [Nat.succ_add, deliveries, ih]
    rfl

/-- The first answers of a source come first among its first answers, if these are more. -/
theorem deliveries_isPrefix {n m : Nat} (le : n ≤ m) (s : S) :
    deliveries next position n s <+: deliveries next position m s := by
  obtain ⟨more, rfl⟩ := Nat.exists_eq_add_of_le le
  rw [deliveries_add]
  exact List.prefix_append _ _

end Deliveries

namespace Session

/-- Analysing a frame asks the source for nothing. -/
theorem alongAnalysis_replies (D : Detector H F) (paced : Bool) :
    AlongAnalysis D.traced paced fun t t' => replies t'.trace = replies t.trace where
  refl _ := rfl
  trans h k := k.trans h
  note record t := replies_quiet (happened_note H t record)
  write _ _ _ _ := (replies_append _ _).trans (List.append_nil _)
  release handle t := replies_quiet (happened_release H t handle)
  detect _ _ := (replies_append _ _).trans (List.append_nil _)
  sleep _ length t := replies_quiet (happened_sleep H t length)

theorem source_conclude (outcome : Except LinkError Unit) (r : Running σ S) :
    (conclude H outcome r).running.source = r.source := by
  unfold conclude
  split
  · rfl
  · split <;> rfl

/-! ## What comes of a source -/

section Following

variable {M : Media H S F} (D : Detector H F) {plan : Plan}
  {R : Running (Traced σ F) S → Running (Traced σ F) S → Prop}

/-- The session when its source was asked for a frame. -/
def asked (M : Media H S F) (r : Running (Traced σ F) S) : Running (Traced σ F) S :=
  let pulled := M.traced.next r.source r.world
  { r with source := pulled.2.1, world := pulled.2.2 }

/-- What holds between two states of a session by its source and the answers of that: it holds over
a question for a frame and over the end of a pass, and where neither is in between. -/
structure Follows (M : Media H S F) (plan : Plan)
    (R : Running (Traced σ F) S → Running (Traced σ F) S → Prop) : Prop where
  of_same {r r' : Running (Traced σ F) S} (same : replies r'.world.trace = replies r.world.trace)
    (source : r'.source = r.source) : R r r'
  trans {r r' r'' : Running (Traced σ F) S} (h : R r r') (k : R r' r'') : R r r''
  next (r : Running (Traced σ F) S) : R r (asked M r)
  atEnd (r : Running (Traced σ F) S) : R r (atEnd M.traced plan r).running

namespace Follows

/-- Taking a frame asks the source once. -/
theorem pull (h : Follows M plan R) (r : Running (Traced σ F) S) :
    R r (pull M.traced D.traced plan r).running := by
  let counted : Running (Traced σ F) S :=
    { asked M r with counts := { r.counts with framesRead := r.counts.framesRead + 1 } }
  have analysis := alongAnalysis_replies (H := H) D r.pace.enabled
  have analyzed (frame : F) : R counted (analyze M.traced D.traced plan frame counted).running :=
    h.of_same (along_analyze (M := M.traced) plan analysis frame counted rfl).world
      (source_conclude _ _)
  have settled : R counted (settle (H.traced F) counted).running :=
    h.of_same (along_settle analysis counted rfl).world rfl
  have begun : R r counted := h.trans (h.next r) (h.of_same rfl rfl)
  unfold Session.pull
  dsimp only
  split
  · exact h.trans (h.next r) (h.atEnd _)
  · split
    · exact h.trans begun (analyzed _)
    · exact h.trans begun settled

theorem iterate (h : Follows M plan R) (r : Running (Traced σ F) S) :
    R r (iterate M.traced D.traced plan r).running := by
  have polled : R r (polled (H.traced F) r).2 :=
    h.of_same (replies_quiet (happened_polled r)) rfl
  have noted (record : Record) {r : Running (Traced σ F) S} :
      R r (r.note (H.traced F) record) :=
    h.of_same (replies_quiet (happened_note H _ record)) rfl
  unfold Session.iterate
  split
  · refine h.trans polled ?_
    unfold heed
    split
    · exact noted _
    · exact h.trans (noted _) (h.pull D _)
    · exact h.trans (noted _) (h.pull D _)
    · exact h.pull D _
    · exact h.of_same rfl rfl
  · exact h.of_same rfl rfl

theorem runFrom (h : Follows M plan R) (r : Running (Traced σ F) S) :
    R r (runFrom M.traced D.traced plan r).2 := by
  induction r using runFrom.induct M.traced D.traced plan with
  | case1 r ending r' last =>
    have step := h.iterate D r
    rw [last] at step
    rw [runFrom_finished last]
    exact step
  | case2 r r' went spent ih =>
    have step := h.iterate D r
    rw [went] at step
    rw [runFrom_goOn went]
    exact h.trans step ih

/-- A session on open media, between the first state of its loop and the last. -/
theorem run {settings : SessionSettings} {start : StartCommand} {source : S} (k : Client) {w : σ}
    (h : Follows M (planOf settings start (M.rate source)) R)
    (opened : (M.opening start w).1 = .ok source) :
    ∃ begun ended, R begun ended ∧ begun.source = source ∧ replies begun.world.trace = [] ∧
      replies (Session.run M.traced D.traced settings start k (.start w)).2.2.trace =
        replies ended.world.trace := by
  have opened : (M.traced.opening start (.start w)).1 = .ok source := opened
  refine ⟨_, _, h.runFrom D (started (H.traced F) settings (planOf settings start (M.rate source))
    source k (M.traced.opening start (.start w)).2), rfl, rfl, ?_⟩
  rw [run_opened opened]
  exact replies_quiet (happened_note H _ _)

end Follows
end Following

/-! ## Sources that are never taken back -/

variable {M : Media H S F} {next : S → Option F × S} (D : Detector H F) (plan : Plan)

/-- What a session got of its source between two states. -/
def Played (M : Media H S F) (next : S → Option F × S) (r r' : Running (Traced σ F) S) : Prop :=
  ∃ n, replies r'.world.trace = replies r.world.trace ++ deliveries next M.position n r.source ∧
    r'.source = (fun s => (next s).2)^[n] r.source

theorem Played.trans {r r' r'' : Running (Traced σ F) S} (h : Played M next r r')
    (k : Played M next r' r'') : Played M next r r'' := by
  obtain ⟨n, grown, source⟩ := h
  obtain ⟨m, grown', source'⟩ := k
  refine ⟨n + m, ?_, ?_⟩
  · rw [grown', grown, source, List.append_assoc, ← deliveries_add]
  · rw [source', source, ← Function.iterate_add_apply, Nat.add_comm]

/-- A source that plays alone, in a session that does not loop. -/
theorem follows_played (alone : M.PlaysAlone next) (once : plan.start.loop = false) :
    Follows M plan (Played M next) where
  of_same same source := ⟨0, same.trans (List.append_nil _).symm, source⟩
  trans := Played.trans
  next r := by
    obtain ⟨answer, source⟩ := alone r.source r.world.world
    refine ⟨1, ?_, source⟩
    rw [deliveries, ← answer, ← source]
    exact replies_append _ _
  atEnd r := by
    rw [Session.atEnd, once]
    exact ⟨0, (List.append_nil _).symm, rfl⟩

/-- A session that does not loop gets the first answers of its source. -/
theorem answers_run (alone : M.PlaysAlone next) (settings : SessionSettings)
    {start : StartCommand} (once : start.loop = false) (k : Client) {w : σ} {source : S}
    (opened : (M.opening start w).1 = .ok source) :
    ∃ n, ∀ m, n ≤ m → replies (run M.traced D.traced settings start k (.start w)).2.2.trace <+:
      deliveries next M.position m source := by
  have follows := follows_played (planOf settings start (M.rate source)) alone once
  obtain ⟨begun, ended, ⟨n, answers, -⟩, same, none, all⟩ := follows.run D k opened
  rw [none, same, List.nil_append] at answers
  rw [all, answers]
  exact ⟨n, fun m le => deliveries_isPrefix next M.position le source⟩

/-- Two sessions that do not loop, on one source that plays alone, get the answers of one
schedule. -/
theorem exists_schedule {D D' : Detector H F} {k k' : Client} {w w' : σ}
    {find find' : F → List RawDetection} (alone : M.PlaysAlone next)
    {settings : SessionSettings} {start : StartCommand} (once : start.loop = false)
    (same : (M.opening start w).1 = (M.opening start w').1)
    (smooth : Smooth M D settings start k w find)
    (smooth' : Smooth M D' settings start k' w' find') :
    ∃ schedule,
      replies (run M.traced D.traced settings start k (.start w)).2.2.trace <+: schedule ∧
      replies (run M.traced D'.traced settings start k' (.start w')).2.2.trace <+: schedule := by
  cases opened : (M.opening start w).1 with
  | ok source =>
    obtain ⟨n, answers⟩ := answers_run D alone settings once k opened
    obtain ⟨n', answers'⟩ := answers_run D' alone settings once k' (same.symm.trans opened)
    exact ⟨_, answers (n + n') (Nat.le_add_right n n'), answers' (n + n') (Nat.le_add_left n' n)⟩
  | error e =>
    obtain ⟨-, -, none⟩ := shown_unavailable smooth opened
    obtain ⟨-, -, none'⟩ := shown_unavailable smooth' (same.symm.trans opened)
    exact ⟨[], none ▸ List.prefix_refl [], none' ▸ List.prefix_refl []⟩

/-! ## Complete writes -/

/-- In a good state, and all writes were complete. -/
def Unbroken (good : σ → Prop) (t : Traced σ F) : Prop :=
  good t.world ∧ ∀ wire ∈ wires t.trace, wire.2 = .complete

theorem unbroken_log {good : σ → Prop} {t : Traced σ F} (h : Unbroken good t) (event : Event F)
    {w : σ} (still : good w)
    (complete : ∀ handle bytes outcome, event = .wrote handle bytes outcome → outcome = .complete) :
    Unbroken good (t.log event w) := by
  refine ⟨still, fun wire mem => ?_⟩
  rw [wires, Traced.log, List.filterMap_append] at mem
  rcases List.mem_append.mp mem with earlier | last
  · exact h.2 wire earlier
  · obtain ⟨event', member, shown⟩ := List.mem_filterMap.mp last
    obtain rfl := List.mem_singleton.mp member
    cases event' with
    | wrote handle bytes outcome =>
      obtain rfl := Option.some.inj shown
      exact complete handle bytes outcome rfl
    | _ => cases shown

section Complete

variable {M : Media H S F} {D : Detector H F} {paced : Bool} {good : σ → Prop}

theorem along_unbroken (kept : Along M D paced fun w w' => good w → good w')
    (writes : ∀ handle bytes timeout w, good w → (H.write handle bytes timeout w).1 = .complete) :
    Along M.traced D.traced paced fun t t' => Unbroken good t → Unbroken good t' where
  refl _ h := h
  trans h k unbroken := k (h unbroken)
  note record t h := unbroken_log h _ (kept.note record t.world h.1) nofun
  read handle deadline t h := unbroken_log h _ (kept.read handle deadline t.world h.1) nofun
  write handle bytes timeout t h := by
    refine unbroken_log h _ (kept.write handle bytes timeout t.world h.1) ?_
    intro _ _ outcome same
    rw [← (Event.wrote.inj same).2.2]
    exact writes handle bytes timeout t.world h.1
  release handle t h := unbroken_log h _ (kept.release handle t.world h.1) nofun
  opening start t h := unbroken_log h _ (kept.opening start t.world h.1) nofun
  next s t h := unbroken_log h _ (kept.next s t.world h.1) nofun
  rewind s t h := unbroken_log h _ (kept.rewind s t.world h.1) nofun
  detect frame t h := unbroken_log h _ (kept.detect frame t.world h.1) nofun
  sleep paced length t h := unbroken_log h _ (kept.sleep paced length t.world h.1) nofun

/-- Where a session keeps to states in which writes are complete, it is smooth. -/
theorem smooth_of_along {settings : SessionSettings} {find : F → List RawDetection}
    (kept : Along M D settings.realtime fun w w' => good w → good w')
    (writes : ∀ handle bytes timeout w, good w → (H.write handle bytes timeout w).1 = .complete)
    (finds : ∀ frame w, (D.detect frame w).1 = find frame) (start : StartCommand) {k : Client}
    (sound : k.channel.Sound) {w : σ} (begun : good w) :
    Smooth M D settings start k w find where
  sound := sound
  finds := finds
  complete := (along_run (along_unbroken kept writes) start k (.start w) ⟨begun, nofun⟩).2

end Complete

end Session

/-! ## Clips on a script -/

/-- Opening a clip is a record, and playing it is no call at all. -/
theorem along_clip {R : σ → σ → Prop} {D : Detector H Nat} {paced : Bool} (link : H.Along R)
    (detect : ∀ frame w, R w (D.detect frame w).2)
    (sleep : paced = true → ∀ length w, R w (H.sleep length w)) :
    Session.Along (SyntheticClip.media H) D paced R where
  toAlong := link
  opening start w := by
    show R w (SyntheticClip.opening H start w).2
    unfold SyntheticClip.opening
    split
    · exact link.note _ w
    · exact link.refl w
  next _ w := link.refl w
  rewind _ w := link.refl w
  detect := detect
  sleep := sleep

theorem clip_playsAlone (H : Host σ) : (SyntheticClip.media H).PlaysAlone SyntheticClip.next :=
  fun _ _ => ⟨rfl, rfl⟩

namespace Event

def isFrame : Event F → Bool
  | .pulled (some _) _ => true
  | _ => false

end Event

/-- A clip delivers no more frames than it has left. -/
theorem countP_isFrame_deliveries_le (position : SyntheticClip → Option Binary64) (n : Nat)
    (c : SyntheticClip) :
    (deliveries SyntheticClip.next position n c).countP Event.isFrame ≤ c.frames - c.upcoming := by
  induction n generalizing c with
  | zero => exact Nat.zero_le _
  | succ n ih =>
    rw [deliveries]
    by_cases more : c.upcoming < c.frames
    · have next : c.next = (some c.upcoming, { c with upcoming := c.upcoming + 1 }) := by
        rw [SyntheticClip.next, if_pos more]
      have later := ih { c with upcoming := c.upcoming + 1 }
      rw [next, List.countP_cons_of_pos rfl]
      dsimp only at later ⊢
      omega
    · have next : c.next = (none, c) := by rw [SyntheticClip.next, if_neg more]
      rw [next, List.countP_cons_of_neg Bool.false_ne_true]
      exact ih c

/-- A detector that looks up what it finds. -/
def lookupDetector (find : Nat → List RawDetection) : Detector Script.host Nat where
  detect frame s := (find frame, s)
  detect_le _ _ := Nat.le_refl _

namespace Session

theorem writes_read (s : Script) : s.read.2.writes = s.writes := by
  unfold Script.read
  split <;> rfl

/-- A script that says nothing about writes lets all of them be complete. -/
theorem write_of_unwritten {s : Script} (unwritten : s.writes = []) : s.write = (.complete, s) := by
  rw [Script.write, unwritten]

/-- Nothing of a link adds to what its script says about writes. -/
theorem along_unwritten : Script.host.Along fun s s' => s.writes = [] → s'.writes = [] where
  refl _ h := h
  trans h k unwritten := k (h unwritten)
  note _ _ h := h
  read _ _ s h := (writes_read s).trans h
  write _ _ _ _ h := (congrArg (·.2.writes) (write_of_unwritten h)).trans h
  release _ _ h := h

/-- A clip on a script that says nothing about writes makes a smooth session. -/
theorem smooth_of_script (find : Nat → List RawDetection) (settings : SessionSettings)
    (start : StartCommand) {k : Client} (sound : k.channel.Sound) (reads : List ReadOutcome) :
    Smooth (SyntheticClip.media Script.host) (lookupDetector find) settings start k ⟨reads, []⟩
      find :=
  smooth_of_along (along_clip along_unwritten (fun _ _ h => h) fun _ _ _ h => h)
    (fun _ _ _ _ unwritten => congrArg (·.1) (write_of_unwritten unwritten)) (fun _ _ => rfl)
    start sound rfl

/-! ## Clips that are stopped -/

/-- While a stop waits, the polls hand out the commands that wait. -/
theorem polls_isPrefix_queued (M : Media H S F) (D : Detector H F) (plan : Plan) (r : Running σ S)
    (waits : .stop ∈ queued r) : polls M D plan r <+: (queued r).map .command := by
  induction r using runFrom.induct M D plan with
  | case1 r ending r' last =>
    cases connected : r.client.isConnected with
    | false =>
      rw [polls_gone connected]
      exact List.nil_prefix
    | true =>
      obtain ⟨command, rest, waiting⟩ := List.exists_cons_of_ne_nil (List.ne_nil_of_mem waits)
      obtain ⟨taken, polled, -⟩ := polled_queued (H := H) waiting
      rw [polls_finished connected last, polled, waiting]
      exact ⟨rest.map .command, rfl⟩
  | case2 r r' went spent ih =>
    cases connected : r.client.isConnected with
    | false => cases went.symm.trans (iterate_of_not_connected connected)
    | true =>
      obtain ⟨command, rest, waiting⟩ := List.exists_cons_of_ne_nil (List.ne_nil_of_mem waits)
      obtain ⟨taken, polled, -⟩ := polled_queued (H := H) waiting
      rcases stop_or_ignored command with rfl | ignored
      · obtain ⟨last, finished, -⟩ := iterate_stop M D plan connected waiting
        cases went.symm.trans finished
      · obtain ⟨heeded, step, others, -⟩ := iterate_ignored M D plan connected waiting ignored
        have left : queued r' = rest := by
          have advanced := advanced_pull M D plan heeded
          rw [← step, went] at advanced
          cases advanced with
          | frame channel _ _ => rw [queued, channel, ← others, queued]
          | rewound channel _ _ _ => rw [queued, channel, ← others, queued]
        have later : .stop ∈ queued r' := by
          rw [waiting] at waits
          rcases List.mem_cons.mp waits with rfl | later
          · cases ignored
          · exact left ▸ later
        rw [polls_goOn connected went, polled, waiting, List.map_cons, ← left]
        exact (List.prefix_cons_inj _).mpr (ih later)

/-- The polls of a session with two unknown commands and a stop. -/
theorem polls_crowdedClient (M : Media H S F) (D : Detector H F) (settings : SessionSettings)
    (start : StartCommand) (w : σ) : pollsOf M D settings start crowdedClient w <+:
      [.command (.unknown (.object [])), .command (.unknown (.object [])), .command .stop] := by
  unfold pollsOf
  split
  · next source _ =>
    let plan := planOf settings start (M.rate source)
    let begun := started H settings plan source crowdedClient (M.opening start w).2
    have waiting : queued begun = _ := commands_crowdedClient
    have handedOut := polls_isPrefix_queued M D plan begun (by rw [waiting]; simp)
    rw [waiting] at handedOut
    exact handedOut
  · exact List.nil_prefix

theorem opening_everySecond (H : Host σ) (w : σ) :
    ((SyntheticClip.media H).opening everySecond w).1 = .ok (.ofFrames defaultClipFrames) := rfl

/-- A clip that such a client stops delivers two frames before. -/
theorem replies_crowdedClient {D : Detector H Nat} {settings : SessionSettings} {w : σ}
    {find : Nat → List RawDetection}
    (smooth : Smooth (SyntheticClip.media H) D settings everySecond crowdedClient w find) :
    replies (run (SyntheticClip.media H).traced D.traced settings everySecond crowdedClient
      (.start w)).2.2.trace =
      deliveries SyntheticClip.next (SyntheticClip.media H).position 2
        (.ofFrames defaultClipFrames) := by
  have opened := opening_everySecond H w
  obtain ⟨n, answers⟩ := answers_run D (clip_playsAlone H) settings rfl crowdedClient opened
  have answered := answers (n + 2) (Nat.le_add_right n 2)
  have polled := polls_crowdedClient (SyntheticClip.media H) D settings everySecond w
  have course : Course false 0 [none, none, some .stopped]
      (deliveries SyntheticClip.next (SyntheticClip.media H).position 2
        (.ofFrames defaultClipFrames)) .stopped :=
    .frame (.frame .ended)
  have first := deliveries_isPrefix SyntheticClip.next (SyntheticClip.media H).position
    (Nat.le_add_left 2 n) (.ofFrames defaultClipFrames)
  exact ((course_run smooth opened).unique course (verdictsOf_isPrefix polled)
    (List.prefix_refl _) answered first).2.1

theorem passes_crowdedClient {D : Detector H Nat} {settings : SessionSettings} {w : σ}
    {find : Nat → List RawDetection}
    (smooth : Smooth (SyntheticClip.media H) D settings everySecond crowdedClient w find) :
    passes (run (SyntheticClip.media H).traced D.traced settings everySecond crowdedClient
      (.start w)).2.2.trace = ⟨[], [⟨0, none⟩, ⟨1, none⟩]⟩ := by
  rw [← passes_replies, replies_crowdedClient smooth]
  rfl

end Session
end DetectionLink
