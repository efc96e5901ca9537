import DetectionLink.Proofs.Laps
import DetectionLink.Proofs.SessionEnding
import Mathlib.Algebra.BigOperators.Group.List.Basic

/-!
# A session does not spin on its source

A source may answer anything, each time it is asked. Whatever it answers, a session goes back to
the start only from a pass with a frame, it is over at the end of the media if there is nothing to
go back for or no way back, and each of its polls is followed by a frame, by a rewind or by its end.

* `Passes.Fruitful`, `fruitful_pulled`: every pass that a rewind ended has a frame;
* `RunsOut`, `runsOut_iff`: which iterations find the end of the media;
* `Advance`, `advance_iterate`, `length_polls`: what iterations get done, and how many polls it
  takes;
* `Progress`, `progress_started`, `length_pollsOf`: the loop of a session, and its polls;
* `loop_progress`: whole sessions.
-/

namespace DetectionLink

variable {σ S F : Type}

/-! ## Passes with a frame -/

namespace Passes

/-- Every pass that a rewind ended has a frame. -/
def Fruitful (p : Passes F) : Prop := ∀ pass ∈ p.finished, pass ≠ []

theorem Fruitful.rewound {p : Passes F} (h : p.Fruitful) (nonempty : p.current ≠ []) :
    (p.add (.rewound true)).Fruitful := by
  intro pass mem
  rcases List.mem_append.mp mem with earlier | last
  · exact h pass earlier
  · exact List.mem_singleton.mp last ▸ nonempty

theorem Fruitful.length_finished_le {p : Passes F} (h : p.Fruitful) :
    p.finished.length ≤ p.frames := by
  have each : ∀ length ∈ p.finished.map List.length, 1 ≤ length := by
    intro length listed
    obtain ⟨pass, mem, rfl⟩ := List.mem_map.mp listed
    exact List.length_pos_iff.mpr (h pass mem)
  calc p.finished.length = (p.finished.map List.length).length := (List.length_map _).symm
    _ ≤ (p.finished.map List.length).sum := List.length_le_sum_of_one_le _ each
    _ ≤ p.frames := by simp [frames, lengths, all]

end Passes

theorem length_finished (trace : List (Event F)) :
    (passes trace).finished.length = loops trace := by
  induction trace using List.reverseRecOn with
  | nil => rfl
  | append_singleton trace event ih =>
    rw [passes_concat, loops, List.countP_append, ← loops, ← ih]
    cases event with
    | pulled frame position => cases frame <;> rfl
    | rewound succeeded =>
      cases succeeded with
      | true => exact List.length_append
      | false => rfl
    | _ => rfl

theorem Happened.unique {a b : List (Event F)} {t t' : Traced σ F} (h : Happened a t t')
    (k : Happened b t t') : a = b :=
  List.append_cancel_left (h.deeds_eq.symm.trans k.deeds_eq)

/-- Frames read and loops completed. -/
def SessionCounts.steps (counts : SessionCounts) : Nat := counts.framesRead + counts.loopsCompleted

namespace Session

variable {H : Host σ} {M : Media H S F} {D : Detector H F} {plan : Plan} {handle : Nat}

/-! ## The end of the media -/

/-- An iteration that got no frame, in a session that does not loop, in a pass without a frame, or
from a source that could not go back. -/
def RunsOut (loop : Bool) (pass : List (Shot F)) (done : List (Event F)) : Prop :=
  (∃ position, .pulled none position ∈ done) ∧
    (loop = false ∨ pass = [] ∨ .rewound false ∈ done)

section Steps

variable {r r' : Running (Traced σ F) S} {step : Step (Traced σ F) S} {done : List (Event F)}

theorem runsOut_pulled {pass : List (Shot F)} (index_eq : r.index = pass.length)
    (pulled : Pulled M plan handle r step) :
    ∃ done, Happened done r.world step.running.world ∧
      (RunsOut plan.start.loop pass done ↔ ∃ r', step = .finished .endOfMedia r') := by
  -- the source says nothing about the pass: the index of the session does
  have empty : pass = [] ↔ r.index = 0 := by rw [index_eq, List.length_eq_zero_iff]
  cases pulled with
  | exhausted onlyOnce left =>
    exact ⟨_, left.happened, by simp [RunsOut, empty, onlyOnce]⟩
  | stuck _ _ left => exact ⟨_, left.happened, by simp [RunsOut]⟩
  | rewound loops nonempty left =>
    exact ⟨_, left.happened, by simp [RunsOut, empty, loops, nonempty]⟩
  | skipped _ left => exact ⟨_, left.happened, by simp [RunsOut]⟩
  | unencodable _ _ left => exact ⟨_, left.happened, by simp [RunsOut]⟩
  | sent _ _ left => exact ⟨_, left.happened, by simp [RunsOut]⟩
  | failed _ _ _ left => exact ⟨_, left.happened, by simp [RunsOut]⟩

/-- Nothing done is no end of the media. -/
theorem not_runsOut_nil (loop : Bool) (pass : List (Shot F)) : ¬ RunsOut loop pass [] := by
  rintro ⟨⟨_, mem⟩, -⟩
  exact List.not_mem_nil mem

theorem runsOut_iff (h : Faithful plan handle r)
    (happened : Happened done r.world (iterate M.traced D.traced plan r).running.world) :
    RunsOut plan.start.loop (passes r.world.trace).current done ↔
      ∃ r', iterate M.traced D.traced plan r = .finished .endOfMedia r' := by
  have iterated := iterated_iterate M D plan h.attached
  generalize iterate M.traced D.traced plan r = step at iterated happened
  have polled := happened_polled (H := H) r
  cases iterated with
  | stopped _ left =>
    obtain rfl := happened.unique (polled.trans left.happened)
    simp [not_runsOut_nil]
  | lost _ =>
    obtain rfl := happened.unique polled
    simp [not_runsOut_nil]
  | went poll left pulled =>
    have heeded := faithful_heeded h poll left
    obtain ⟨deeds, pulled, decided⟩ := runsOut_pulled (left.index_eq.trans h.index_eq) pulled
    -- the deeds of the iteration are those of its frame
    have quiet : Happened [] r.world _ := polled.trans left.happened
    obtain rfl := happened.unique (quiet.trans pulled)
    exact decided

/-! ## What an iteration gets done -/

/-- An iteration reads a frame or goes back to the start, once; the last one does neither, unless
it is the one whose write failed. -/
inductive Advance (r : Running (Traced σ F) S) : Step (Traced σ F) S → Prop
  | went {r' : Running (Traced σ F) S} (more : r'.counts.steps = r.counts.steps + 1) :
      Advance r (.goOn r')
  | ended {ending : SessionEnd} {r' : Running (Traced σ F) S}
      (same : r'.counts.steps = r.counts.steps) (unbroken : ¬ BrokenOff r'.world.trace) :
      Advance r (.finished ending r')
  | broken {r' : Running (Traced σ F) S} (more : r'.counts.steps = r.counts.steps + 1)
      (broken : BrokenOff r'.world.trace) : Advance r (.finished .disconnected r')

theorem advance_pulled (h : Faithful plan handle r) (pulled : Pulled M plan handle r step) :
    Advance r step := by
  have unbroken {r' : Running (Traced σ F) S} {done : List (Event F)}
      (happened : Happened done r.world r'.world) (nothingWritten : wires done = []) :
      ¬ BrokenOff r'.world.trace :=
    not_brokenOff_of_complete (complete_of_idle h happened nothingWritten)
  have frame {counts : SessionCounts} (read : counts.framesRead = r.counts.framesRead + 1)
      (loops : counts.loopsCompleted = r.counts.loopsCompleted) :
      counts.steps = r.counts.steps + 1 := by
    rw [SessionCounts.steps, read, loops, SessionCounts.steps, Nat.add_right_comm]
  cases pulled with
  | exhausted _ left =>
    exact .ended (congrArg SessionCounts.steps left.counts_eq) (unbroken left.happened rfl)
  | stuck _ _ left =>
    exact .ended (congrArg SessionCounts.steps left.counts_eq) (unbroken left.happened rfl)
  | rewound _ _ left => exact .went (congrArg SessionCounts.steps left.counts_eq)
  | skipped _ left => exact .went (left.counts_eq ▸ frame rfl rfl)
  | unencodable _ _ left => exact .went (left.counts_eq ▸ frame rfl rfl)
  | sent _ _ left => exact .went (left.counts_eq ▸ frame rfl rfl)
  | failed _ _ incomplete left =>
    exact .broken (left.counts_eq ▸ frame rfl rfl)
      (brokenOff_of_happened [.pulled _ _, .detected _ _] left.happened incomplete)

variable (M D) in
theorem advance_iterate (h : Faithful plan handle r) :
    Advance r (iterate M.traced D.traced plan r) := by
  have iterated := iterated_iterate M D plan h.attached
  generalize iterate M.traced D.traced plan r = step at iterated
  have polled := happened_polled (H := H) r
  cases iterated with
  | stopped _ left =>
    exact .ended (congrArg SessionCounts.steps left.counts_eq)
      (not_brokenOff_of_complete (complete_of_idle h (polled.trans left.happened) rfl))
  | lost _ => exact .ended rfl (not_brokenOff_of_complete (complete_of_idle h polled rfl))
  | went poll left pulled =>
    have same : _ = r.counts.steps := congrArg SessionCounts.steps left.counts_eq
    cases advance_pulled (faithful_heeded h poll left) pulled with
    | went more => exact .went (more.trans (congrArg (· + 1) same))
    | ended kept unbroken => exact .ended (kept.trans same) unbroken
    | broken more broken => exact .broken (more.trans (congrArg (· + 1) same)) broken

/-- Only a rewind ends a pass, and it needs a frame. -/
theorem fruitful_pulled (h : Faithful plan handle r) (fruitful : (passes r.world.trace).Fruitful)
    (pulled : Pulled M plan handle r step) : (passes step.running.world.trace).Fruitful := by
  cases pulled with
  | rewound _ nonempty left =>
    rw [h.index_eq, ne_eq, List.length_eq_zero_iff] at nonempty
    exact passes_happened left.happened ▸ fruitful.rewound nonempty
  | exhausted _ left => exact passes_happened left.happened ▸ fruitful
  | stuck _ _ left => exact passes_happened left.happened ▸ fruitful
  | skipped _ left => exact passes_happened left.happened ▸ fruitful
  | unencodable _ _ left => exact passes_happened left.happened ▸ fruitful
  | sent _ _ left => exact passes_happened left.happened ▸ fruitful
  | failed _ _ _ left => exact passes_happened left.happened ▸ fruitful

end Steps

/-! ## The whole loop -/

section Loop

variable {r r' : Running (Traced σ F) S}

variable (M D) in
/-- Each poll is followed by one frame or one rewind, but for the last, which is followed by
neither unless its frame could not be sent. -/
theorem length_polls (positive : 0 < plan.interval) (h : Faithful plan handle r) :
    let ended := (runFrom M.traced D.traced plan r).2
    let count := (polls M.traced D.traced plan r).length
    (BrokenOff ended.world.trace → r.counts.steps + count = ended.counts.steps) ∧
    (¬ BrokenOff ended.world.trace → r.counts.steps + count = ended.counts.steps + 1) := by
  induction r using runFrom.induct M.traced D.traced plan with
  | case1 r ending r' last =>
    have advance := advance_iterate M D h
    rw [polls_finished h.attached.isConnected last, runFrom_finished last]
    rw [last] at advance
    cases advance with
    | ended same unbroken =>
      exact ⟨fun broken => absurd broken unbroken, fun _ => congrArg (· + 1) same.symm⟩
    | broken more broken => exact ⟨fun _ => more.symm, fun unbroken => absurd broken unbroken⟩
  | case2 r r' went spent ih =>
    have advance := advance_iterate M D h
    obtain ⟨broken, unbroken⟩ := ih (faithful_next positive h went)
    rw [polls_goOn h.attached.isConnected went, runFrom_goOn went]
    rw [went] at advance
    cases advance with
    | went more =>
      have shifted (count : Nat) : r.counts.steps + (count + 1) = r'.counts.steps + count := by
        omega
      exact ⟨fun h => (shifted _).trans (broken h), fun h => (shifted _).trans (unbroken h)⟩

theorem Reaches.eq_of_finished {ending : SessionEnd} {r'' : Running (Traced σ F) S}
    (reached : Reaches M.traced D.traced plan r r')
    (last : iterate M.traced D.traced plan r = .finished ending r'') : r = r' := by
  induction reached with
  | here => rfl
  | next _ went ih =>
    rw [← ih, last] at went
    cases went

/-- What holds of the loop of a session that begins in this state. -/
structure Progress (M : Media H S F) (D : Detector H F) (plan : Plan) (connected : Bool)
    (begun : Running (Traced σ F) S) : Prop where
  runsOut_iff : ∀ r, Reaches M.traced D.traced plan begun r → ∀ done,
    Happened done r.world (iterate M.traced D.traced plan r).running.world →
    (RunsOut plan.start.loop (passes r.world.trace).current done ↔
      ∃ r', iterate M.traced D.traced plan r = .finished .endOfMedia r')
  polls_gone : connected = false → (polls M.traced D.traced plan begun).length = 0
  polls_broken : connected = true →
    BrokenOff (runFrom M.traced D.traced plan begun).2.world.trace →
    (polls M.traced D.traced plan begun).length =
      (runFrom M.traced D.traced plan begun).2.counts.steps
  polls_unbroken : connected = true →
    ¬ BrokenOff (runFrom M.traced D.traced plan begun).2.world.trace →
    (polls M.traced D.traced plan begun).length =
      (runFrom M.traced D.traced plan begun).2.counts.steps + 1

/-- A session of a client that is not connected does nothing. -/
theorem progress_of_gone (gone : r.client.isConnected = false) : Progress M D plan false r := by
  have stays : iterate M.traced D.traced plan r = .finished .disconnected r :=
    iterate_of_not_connected gone
  refine ⟨fun r' reached done happened => ?_, fun _ => ?_, nofun, nofun⟩
  · obtain rfl := reached.eq_of_finished stays
    rw [stays] at happened ⊢
    obtain rfl := happened.unique (.refl _)
    simp [not_runsOut_nil]
  · rw [polls_gone gone, List.length_nil]

theorem progress_of_faithful (positive : 0 < plan.interval) (h : Faithful plan handle r)
    (nothing : r.counts.steps = 0) : Progress M D plan true r := by
  obtain ⟨broken, unbroken⟩ := length_polls M D positive h
  rw [nothing, Nat.zero_add] at broken unbroken
  refine ⟨fun r' reached done happened => ?_, nofun, fun _ => broken, fun _ => unbroken⟩
  have faithful : Faithful plan handle r' :=
    reached.invariant h fun _ _ h went => faithful_next positive h went
  exact runsOut_iff faithful happened

end Loop

/-! ## Whole sessions -/

theorem progress_started (settings : SessionSettings) (start : StartCommand) (source : S)
    {k : Client} {w : σ} (sound : k.channel.Sound) :
    let plan := planOf settings start (M.rate source)
    Progress M D plan k.isConnected
      (started (H.traced F) settings plan source k (M.traced.opening start (.start w)).2) := by
  intro plan
  cases connected : k.isConnected with
  | false => exact progress_of_gone connected
  | true =>
    obtain ⟨handle, attached⟩ := exists_attached sound connected
    have positive := planOf_interval_pos settings start (M.rate source)
    exact progress_of_faithful positive (faithful_started attached) rfl

section Runs

variable (M : Media H S F) (D : Detector H F) (settings : SessionSettings) (start : StartCommand)
  {k : Client} {source : S} {w : σ} (opened : (M.opening start w).1 = .ok source)
include opened

/-- A session reports the counts of its loop, and ends with the log record of its report. -/
theorem ended_run :
    let plan := planOf settings start (M.rate source)
    let begun := started (H.traced F) settings plan source k (M.traced.opening start (.start w)).2
    let ended := runFrom M.traced D.traced plan begun
    let done := run M.traced D.traced settings start k (.start w)
    done.1 = ⟨ended.2.counts, ended.1⟩ ∧
      done.2.2.trace = ended.2.world.trace ++ [.noted (endedRecord done.1)] := by
  intro plan begun ended done
  have result : done = _ := run_opened (M := M.traced) (D := D.traced) opened
  have reported : done.1 = ⟨ended.2.counts, ended.1⟩ := congrArg (·.1) result
  exact ⟨reported, reported ▸ congrArg (·.2.2.trace) result⟩

variable (sound : k.channel.Sound)
include sound

theorem fruitful_run :
    (passes (run M.traced D.traced settings start k (.start w)).2.2.trace).Fruitful :=
  trace_invariant (P := fun trace => (passes trace).Fruitful) settings start sound opened
    (fun _ _ mem => absurd mem List.not_mem_nil)
    (fun quiet fruitful => passes_happened quiet ▸ fruitful) fruitful_pulled

/-- The frames are those of all passes, and the loops the passes that a rewind ended. -/
theorem steps_run :
    let done := run M.traced D.traced settings start k (.start w)
    done.1.framesRead = (passes done.2.2.trace).frames ∧
      done.1.loopsCompleted = (passes done.2.2.trace).finished.length := by
  intro done
  obtain ⟨-, counts, -⟩ := accounted_run (D := D) settings start sound opened
  have shown : done.1.toSessionCounts = _ := counts.trans (tally_eq done.2.2.trace)
  exact ⟨congrArg SessionCounts.framesRead shown,
    (congrArg SessionCounts.loopsCompleted shown).trans (length_finished _).symm⟩

/-- How many polls a session makes. -/
theorem length_pollsOf :
    let done := run M.traced D.traced settings start k (.start w)
    let count := (pollsOf M D settings start k w).length
    (k.isConnected = false → count = 0) ∧
    (k.isConnected = true → BrokenOff done.2.2.trace → count = done.1.steps) ∧
    (k.isConnected = true → ¬ BrokenOff done.2.2.trace → count = done.1.steps + 1) := by
  intro done count
  let plan := planOf settings start (M.rate source)
  let begun := started (H.traced F) settings plan source k (M.traced.opening start (.start w)).2
  obtain ⟨reported, ends⟩ := ended_run M D settings start (k := k) opened
  have progress : Progress M D plan k.isConnected begun :=
    progress_started settings start source sound
  have count_eq : count = (polls M.traced D.traced plan begun).length :=
    congrArg List.length (pollsOf_opened opened)
  have steps : (runFrom M.traced D.traced plan begun).2.counts.steps = done.1.steps :=
    congrArg (fun report => report.toSessionCounts.steps) reported.symm
  have quiet : Happened [] (runFrom M.traced D.traced plan begun).2.world done.2.2 :=
    ⟨_, ends, rfl⟩
  have broken_iff : BrokenOff (runFrom M.traced D.traced plan begun).2.world.trace ↔
      BrokenOff done.2.2.trace := by
    rw [BrokenOff, BrokenOff, quiet.deeds_eq, List.append_nil]
  refine ⟨fun gone => ?_, fun connected broken => ?_, fun connected whole => ?_⟩
  · exact count_eq.trans (progress.polls_gone gone)
  · rw [count_eq, progress.polls_broken connected (broken_iff.mpr broken), steps]
  · rw [count_eq, progress.polls_unbroken connected (mt broken_iff.mp whole), steps]

end Runs

/-- A session on media that open, whatever its source answers. Each rewind ends a pass that has a
frame, so there are at most as many loops as frames. An iteration that gets no frame, in a session
that does not loop, in a pass without a frame, or from a source that cannot go back, and no other,
finds the end of the media: it ends the session, and only a log record follows. Each frame and each
loop has a poll; there is one more unless a failed write ended the session; and there is none if the
client was not connected. -/
theorem loop_progress (M : Media H S F) (D : Detector H F) (settings : SessionSettings)
    (start : StartCommand) {k : Client} {source : S} {w : σ} (sound : k.channel.Sound)
    (opened : (M.opening start w).1 = .ok source) :
    let plan := planOf settings start (M.rate source)
    let begun := started (H.traced F) settings plan source k (M.traced.opening start (.start w)).2
    let done := run M.traced D.traced settings start k (.start w)
    let report := done.1
    let trace := done.2.2.trace
    let count := (pollsOf M D settings start k w).length
    untraced done = run M D settings start k w ∧
    (∀ pass ∈ (passes trace).finished, pass ≠ []) ∧
    report.loopsCompleted = (passes trace).finished.length ∧
    report.framesRead = (passes trace).lengths.sum ∧
    report.loopsCompleted ≤ report.framesRead ∧
    (∀ r, Reaches M.traced D.traced plan begun r →
      (∀ deeds, Happened deeds r.world (iterate M.traced D.traced plan r).running.world →
        (RunsOut start.loop (passes r.world.trace).current deeds ↔
          ∃ r', iterate M.traced D.traced plan r = .finished .endOfMedia r')) ∧
      ∀ r', iterate M.traced D.traced plan r = .finished .endOfMedia r' →
        report.ending = .endOfMedia ∧
        trace = r'.world.trace ++ [.noted (endedRecord report)]) ∧
    (k.isConnected = false → count = 0) ∧
    (k.isConnected = true → BrokenOff trace →
      report.ending = .disconnected ∧ count = report.framesRead + report.loopsCompleted) ∧
    (k.isConnected = true → ¬ BrokenOff trace →
      count = report.framesRead + report.loopsCompleted + 1) := by
  intro plan begun done report trace count
  obtain ⟨frames, loops⟩ := steps_run M D settings start opened sound
  have fruitful := fruitful_run M D settings start opened sound
  have fewer : report.loopsCompleted ≤ report.framesRead := by
    rw [loops, frames]
    exact fruitful.length_finished_le
  have progress : Progress M D plan k.isConnected begun :=
    progress_started settings start source sound
  obtain ⟨-, -, lost, -⟩ := accounted_run (D := D) settings start sound opened
  obtain ⟨gone, broken, unbroken⟩ := length_pollsOf M D settings start opened sound
  refine ⟨run_traced M D settings start k (.start w), fruitful, loops, frames, fewer,
    fun r reached => ⟨progress.runsOut_iff r reached, fun r' last => ?_⟩, gone,
    fun connected brokenOff => ⟨lost brokenOff, broken connected brokenOff⟩, unbroken⟩
  obtain ⟨reported, ends⟩ := ended_run M D settings start (k := k) opened
  have whole : runFrom M.traced D.traced plan begun = (.endOfMedia, r') :=
    (runFrom_of_reaches reached).trans (runFrom_finished last)
  rw [whole] at ends reported
  exact ⟨congrArg SessionReport.ending reported, ends⟩

/-- One second of one frame, again and again. -/
def everyFrameLooped : StartCommand where
  videoPath := "clip"
  durationSec := .one
  fps := .one
  loop := true
  frameInterval := some 1

/-- A clip of one frame in a loop, for a client whose supervisor sent two unknown commands and a
stop: one frame, one rewind, and three polls. -/
theorem loop_progress_of_clip :
    let M : Media Script.host SyntheticClip Nat := SyntheticClip.media Script.host
    let D := lookupDetector fun _ => []
    let done := run M.traced D.traced .default everyFrameLooped crowdedClient (.start ⟨[], []⟩)
    (crowdedClient.channel.Sound ∧
      (M.opening everyFrameLooped ⟨[], []⟩).1 = .ok (.ofFrames 1)) ∧
    done.1.framesRead = 1 ∧ done.1.loopsCompleted = 1 ∧
    (pollsOf M D .default everyFrameLooped crowdedClient ⟨[], []⟩).length = 3 := by
  intro M D done
  have sound : crowdedClient.channel.Sound := ⟨rfl, rfl, nofun⟩
  have opened : (M.opening everyFrameLooped ⟨[], []⟩).1 = .ok (.ofFrames 1) := by decide +kernel
  have smooth : Smooth M D .default everyFrameLooped crowdedClient ⟨[], []⟩ fun _ => [] :=
    smooth_of_script _ .default everyFrameLooped sound []
  obtain ⟨-, -, loops, frames, -, -, -, -, polls⟩ :=
    loop_progress M D .default everyFrameLooped sound opened
  obtain ⟨laps, rest, ends, passed⟩ := laps_run smooth opened
  obtain ⟨within, -, verdicts⟩ := ends.of_looped rfl Nat.one_pos
  obtain ⟨count, -⟩ := ended_crowdedClient verdicts
  obtain ⟨rfl, rfl⟩ : laps = 1 ∧ rest = 0 := by omega
  rw [passed] at loops frames
  have unbroken := not_brokenOff_of_complete smooth.complete
  refine ⟨⟨sound, opened⟩, frames, loops, (polls rfl unbroken).trans ?_⟩
  rw [frames, loops]
  rfl

end Session
end DetectionLink
