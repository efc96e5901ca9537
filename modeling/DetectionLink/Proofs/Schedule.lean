import DetectionLink.Proofs.MediaTime
import DetectionLink.Proofs.Slots
import DetectionLink.Proofs.Sources
import Mathlib.Algebra.GroupWithZero.Nat
import Mathlib.Data.Finset.Lattice.Fold
import Mathlib.Data.Finset.Range
import Mathlib.Order.Lattice.Nat

/-!
# Frames keep to their schedule

A session to real time sleeps after each frame until the frame's slot ends. The ends of the slots
are fixed when the session begins, and rewinds do not move them: whatever the session spends on a
frame, its slot is over when the work behind some slot's end, done without a break, is over, for
the latest such time.

* `Chain`, `chain_slots`: each slot follows the one before;
* `Chain.finish_eq`: when the last of some slots is over;
* `ofSeconds_no_frames`: no frames take no time, at any rate;
* `Host.timed`: a host with a clock that only sleeps move;
* `slots_follow_schedule`: whole sessions.
-/

namespace DetectionLink

variable {σ S F : Type} {H : Host σ}

namespace Session

variable {M : Media H S F} {D : Detector H F} {plan : Plan}

/-! ## Slot after slot -/

/-- The slots of a session that keeps to a schedule from a moment on: no frame is done before the
slot of the one before is over, and its own is over when the schedule says. -/
inductive Chain : Pace → Instant → List Slot → Prop
  | nil {p : Pace} {t : Instant} : Chain p t []
  | cons {p : Pace} {t : Instant} {slot : Slot} {rest : List Slot} (pace : slot.pace = p)
      (later : t.nanos ≤ slot.ready.nanos) (finish : slot.finish = p.slotEnd slot.ready)
      (others : Chain p.next slot.finish rest) : Chain p t (slot :: rest)

/-- A clock that a sleep moves on by just its length and that nothing moves back. -/
structure Clocked (M : Media H S F) (D : Detector H F) : Prop where
  sleep : ∀ length w, H.now (H.sleep length w) = (H.now w).after length
  forward : Along M D false fun w w' => (H.now w).nanos ≤ (H.now w').nanos

theorem now_sleepFor (clocked : Clocked M D) (p : Pace) (w : σ) :
    H.now (Pace.sleepFor H (p.delay? (H.now w)) w) = p.slotEnd (H.now w) := by
  unfold Pace.slotEnd
  cases p.delay? (H.now w) with
  | none => rfl
  | some delay => exact clocked.sleep delay w

theorem chain_slots (clocked : Clocked M D) (r : Running σ S) {t : Instant}
    (before : t.nanos ≤ (H.now r.world).nanos) : Chain r.pace t (slots M D plan r) := by
  induction r using runFrom.induct M D plan generalizing t with
  | case1 r ending r' last =>
    rw [slots_finished last]
    exact .nil
  | case2 r r' went spent ih =>
    have forward := (along_iterate plan clocked.forward r.unpaced rfl).world
    have ready := Nat.le_trans before forward
    cases onward went with
    | @frame done unslept pace _ slept slots_eq =>
      have finish : H.now r'.world = r.pace.slotEnd (H.now done.world) := by
        rw [slept]
        exact now_sleepFor clocked r.pace done.world
      rw [unslept] at ready
      rw [slots_eq]
      refine .cons rfl ready finish ?_
      rw [← pace]
      exact ih (Nat.le_refl _)
    | rewound unslept pace _ slots_eq =>
      rw [unslept] at ready
      rw [slots_eq, ← pace]
      exact ih ready

/-! ## The last of some slots -/

/-- When the last of some slots is over, or when they began if there is none. -/
def lastFinish (t : Instant) (slots : List Slot) : Instant :=
  slots.foldl (fun _ slot => slot.finish) t

/-- The time worked for each frame, in nanoseconds: from the end of the slot before to the moment
the frame is done. -/
def works (t : Instant) : List Slot → List Nat
  | [] => []
  | slot :: rest => (slot.ready.nanos - t.nanos) :: works slot.finish rest

theorem lastFinish_concat (t : Instant) (earlier : List Slot) (slot : Slot) :
    lastFinish t (earlier ++ [slot]) = slot.finish :=
  List.foldl_concat ..

theorem works_append (t : Instant) (earlier later : List Slot) :
    works t (earlier ++ later) = works t earlier ++ works (lastFinish t earlier) later := by
  induction earlier generalizing t with
  | nil => rfl
  | cons slot rest ih => exact congrArg (_ :: ·) (ih slot.finish)

theorem length_works (t : Instant) (slots : List Slot) : (works t slots).length = slots.length := by
  induction slots generalizing t with
  | nil => rfl
  | cons slot rest ih => exact congrArg (· + 1) (ih slot.finish)

namespace Chain

variable {p : Pace} {t : Instant} {earlier later : List Slot} {slot : Slot}

/-- The slots behind some others. -/
theorem append (chain : Chain p t (earlier ++ later)) :
    Chain p t earlier ∧
      Chain { p with framesDone := p.framesDone + earlier.length } (lastFinish t earlier)
        later := by
  induction earlier generalizing p t with
  | nil => exact ⟨.nil, chain⟩
  | cons first rest ih =>
    cases chain with
    | cons pace after finish others =>
      obtain ⟨front, behind⟩ := ih others
      refine ⟨.cons pace after finish front, ?_⟩
      have place : p.framesDone + 1 + rest.length = p.framesDone + (rest.length + 1) := by omega
      rw [Pace.next, place] at behind
      exact behind

end Chain

/-! ## When slots are over -/

/-- A delay is positive, and ends when the frames have taken their time. -/
theorem pacingDelay_spec {frames : Nat} {fps : Binary64} {elapsed delay : Duration}
    (h : pacingDelay frames fps elapsed = some delay) :
    0 < delay.nanos ∧ ∃ target,
      Duration.ofSeconds ((Binary64.ofNat frames).div fps) = .ok target ∧
        elapsed.nanos + delay.nanos = target.nanos := by
  unfold pacingDelay at h
  split at h
  · next target ok =>
    split at h
    · next short =>
      obtain rfl := Option.some.inj h
      exact ⟨Nat.sub_pos_of_lt short, target, ok, Nat.add_sub_cancel' (Nat.le_of_lt short)⟩
    · cases h
  · cases h

theorem pacingDelay_of_ok {frames : Nat} {fps : Binary64} {elapsed target : Duration}
    (ok : Duration.ofSeconds ((Binary64.ofNat frames).div fps) = .ok target) :
    pacingDelay frames fps elapsed =
      if elapsed.nanos < target.nanos then some ⟨target.nanos - elapsed.nanos⟩ else none := by
  unfold pacingDelay
  generalize Duration.ofSeconds ((Binary64.ofNat frames).div fps) = result at ok ⊢
  subst ok
  rfl

/-- A slot is over when its frame is done and its time has come. -/
theorem nanos_slotEnd {p : Pace} {ready : Instant} {target : Duration}
    (enabled : p.enabled = true) (begun : p.started.nanos ≤ ready.nanos)
    (ok : Duration.ofSeconds ((Binary64.ofNat (p.framesDone + 1)).div p.fps) = .ok target) :
    (p.slotEnd ready).nanos = max ready.nanos (p.started.nanos + target.nanos) := by
  unfold Pace.slotEnd Pace.delay?
  rw [if_pos enabled, pacingDelay_of_ok ok]
  unfold Instant.since
  dsimp only
  by_cases early : ready.nanos - p.started.nanos < target.nanos
  · rw [if_pos early]
    simp only [Instant.after]
    omega
  · rw [if_neg early]
    dsimp only
    omega

/-- The latest of some times, each of them put off by the same work. -/
theorem sup_add_work (n work : Nat) (f : Nat → Nat) :
    (Finset.range (n + 1)).sup (fun j => f j + work) = (Finset.range (n + 1)).sup f + work := by
  induction n with
  | zero => simp
  | succ n ih =>
    rw [Finset.range_add_one, Finset.sup_insert, Finset.sup_insert, ih]
    exact (Nat.add_max_add_right ..)

/-- For each slot end of the schedule the work done since, and of these times the latest. -/
def latest (T : Nat → Nat) (work : List Nat) : Nat :=
  (Finset.range (work.length + 1)).sup fun j => T j + (work.drop j).sum

/-- More work puts off the slot ends there are, and another one comes. -/
theorem latest_concat (T : Nat → Nat) (work : List Nat) (more : Nat) :
    latest T (work ++ [more]) = max (latest T work + more) (T (work.length + 1)) := by
  have putOff : ∀ j ∈ Finset.range (work.length + 1),
      T j + ((work ++ [more]).drop j).sum = T j + (work.drop j).sum + more := by
    intro j mem
    have within : j ≤ work.length := Nat.le_of_lt_succ (Finset.mem_range.mp mem)
    rw [List.drop_append_of_le_length within, List.sum_append, List.sum_singleton, Nat.add_assoc]
  have all : (work ++ [more]).length = work.length + 1 := by simp
  have none : (work ++ [more]).drop (work.length + 1) = [] :=
    List.drop_eq_nil_of_le (Nat.le_of_eq all)
  rw [latest, all, Finset.range_add_one, Finset.sup_insert, none, List.sum_nil, Nat.add_zero,
    Finset.sup_congr rfl putOff, sup_add_work, max_comm]
  rfl

theorem le_latest (T : Nat → Nat) {work : List Nat} {j : Nat} (within : j ≤ work.length) :
    T j + (work.drop j).sum ≤ latest T work :=
  Finset.le_sup (f := fun j => T j + (work.drop j).sum)
    (Finset.mem_range.mpr (Nat.lt_succ_of_le within))

/-- The last slot end counts alone when no work reaches beyond it. -/
theorem latest_eq {T : Nat → Nat} {work : List Nat}
    (caughtUp : ∀ j < work.length, T j + (work.drop j).sum ≤ T work.length) :
    latest T work = T work.length := by
  refine Nat.le_antisymm (Finset.sup_le fun j mem => ?_) ?_
  · have within : j ≤ work.length := Nat.le_of_lt_succ (Finset.mem_range.mp mem)
    rcases Nat.lt_or_eq_of_le within with before | rfl
    · exact caughtUp j before
    · simp
  · simpa using le_latest T (Nat.le_refl work.length)

/-- When the last of some slots is over. -/
theorem Chain.finish_eq {p : Pace} {T : Nat → Nat} {slots : List Slot}
    (chain : Chain p p.started slots) (enabled : p.enabled = true) (first : p.framesDone = 0)
    (targets : ∀ j ≤ slots.length,
      Duration.ofSeconds ((Binary64.ofNat j).div p.fps) = .ok ⟨T j⟩) (zero : T 0 = 0) :
    (lastFinish p.started slots).nanos = p.started.nanos + latest T (works p.started slots) := by
  -- the slot of one more frame is over when its work is done and its time has come
  induction slots using List.reverseRecOn with
  | nil => simp [lastFinish, latest, works, zero]
  | append_singleton earlier slot ih =>
    obtain ⟨front, last⟩ := chain.append
    rw [List.length_append, List.length_singleton] at targets
    have before := ih front fun j le => targets j (Nat.le_succ_of_le le)
    cases last with
    | cons pace after finish _ =>
      have ok := targets (earlier.length + 1) (Nat.le_refl _)
      have begun : p.started.nanos ≤ slot.ready.nanos := by omega
      rw [first, Nat.zero_add] at finish
      have slotEnd : (Pace.slotEnd { p with framesDone := earlier.length } slot.ready).nanos =
          max slot.ready.nanos (p.started.nanos + T (earlier.length + 1)) :=
        nanos_slotEnd enabled begun ok
      rw [← finish] at slotEnd
      rw [lastFinish_concat, slotEnd, works_append, works, works, latest_concat, length_works]
      omega

end Session

/-! ## No frames take no time -/

theorem ofSeconds_no_frames {fps : Binary64} (usable : usableFps fps = true) :
    Duration.ofSeconds ((Binary64.ofNat 0).div fps) = .ok ⟨0⟩ := by
  rw [noFrames_div usable]
  decide +kernel

/-! ## A clip on a clock -/

/-- A host with a clock that only sleeps move, each by its length. -/
def Host.timed (H : Host σ) : Host (Instant × σ) where
  wording := H.wording
  now w := w.1
  sleep length w := (w.1.after length, H.sleep length w.2)
  note record w := (w.1, H.note record w.2)
  attempt path size w := ((H.attempt path size w.2).1, w.1, (H.attempt path size w.2).2)
  pause interval timeout w :=
    ((H.pause interval timeout w.2).1, w.1, (H.pause interval timeout w.2).2)
  read handle deadline w :=
    ((H.read handle deadline w.2).1, w.1, (H.read handle deadline w.2).2)
  write handle bytes timeout w :=
    ((H.write handle bytes timeout w.2).1, w.1, (H.write handle bytes timeout w.2).2)
  release handle w := (w.1, H.release handle w.2)
  budget w := H.budget w.2
  sleep_le length w := H.sleep_le length w.2
  note_le record w := H.note_le record w.2
  attempt_le path size w := H.attempt_le path size w.2
  pause_le interval timeout w := H.pause_le interval timeout w.2
  pause_lt interval timeout w := H.pause_lt interval timeout w.2
  read_le handle deadline w := H.read_le handle deadline w.2
  read_lt handle deadline w := H.read_lt handle deadline w.2
  write_le handle bytes timeout w := H.write_le handle bytes timeout w.2
  release_le handle w := H.release_le handle w.2

namespace Host

/-- What the calls of a link keep, they keep beside a clock. -/
theorem Along.timed {R : σ → σ → Prop} (link : H.Along R) :
    H.timed.Along fun w w' => R w.2 w'.2 where
  refl w := link.refl w.2
  trans := link.trans
  note record w := link.note record w.2
  read handle deadline w := link.read handle deadline w.2
  write handle bytes timeout w := link.write handle bytes timeout w.2
  release handle w := link.release handle w.2

/-- No call of a link moves the clock back. -/
theorem forward_timed (H : Host σ) : H.timed.Along fun w w' => w.1.nanos ≤ w'.1.nanos where
  refl _ := Nat.le_refl _
  trans := Nat.le_trans
  note _ _ := Nat.le_refl _
  read _ _ _ := Nat.le_refl _
  write _ _ _ _ := Nat.le_refl _
  release _ _ := Nat.le_refl _

end Host

/-- Takes its time for each frame, and finds nobody. -/
def slowDetector (analysing : Duration) : Detector Script.host.timed Nat where
  detect _ w := ([], w.1.after analysing, w.2)
  detect_le _ _ := Nat.le_refl _

namespace Session

theorem clocked_slowDetector (analysing : Duration) :
    Clocked (SyntheticClip.media Script.host.timed) (slowDetector analysing) where
  sleep _ _ := rfl
  forward :=
    along_clip Script.host.forward_timed
      (fun _ w => Nat.le_add_right w.1.nanos analysing.nanos) nofun

variable {M : Media H S F} {D : Detector H F}

/-! ## Whole sessions -/

/-- Nothing of a session that is not paced sleeps. -/
theorem not_slept {settings : SessionSettings} (unpaced : settings.realtime = false)
    (start : StartCommand) (k : Client) (w : σ) (length : Duration) :
    .slept length ∉ (run M.traced D.traced settings start k (.start w)).2.2.trace := by
  intro mem
  have awake : Along M.traced D.traced settings.realtime
      (Added fun event : Event F => ∀ length, event ≠ .slept length) := by
    have link : (H.traced F).Along (Added fun event => ∀ length, event ≠ .slept length) :=
      Added.host H (fun _ _ => nofun) (fun _ _ _ => nofun) (fun _ _ _ _ => nofun)
        (fun _ _ => nofun)
    exact Added.session link M D (fun _ _ _ => nofun) (fun _ _ _ => nofun) (fun _ _ => nofun)
      (fun _ _ _ => nofun) fun paced => absurd (unpaced.symm.trans paced) Bool.false_ne_true
  exact (along_run awake start k (.start w)).of_start _ mem length rfl

/-- A trace keeps the clock. -/
theorem Clocked.traced (clocked : Clocked M D) : Clocked M.traced D.traced where
  sleep length t := clocked.sleep length t.world
  forward := clocked.forward.traced

/-- A session on a clock that only its sleeps move by a known length. Its frames, but for one with
which the connection was lost, have a slot each, which are counted through without regard to
rewinds. In a paced session the slot of the `n`-th frame is over, counted from the session's
beginning, at the latest of the times that one gets from each slot end `T j` of the schedule and
the work done since; so never before `T n`, and at `T n` just when the work has caught up. A delay
is positive and ends with its slot. A session that is not paced never sleeps. -/
theorem slots_follow_schedule (settings : SessionSettings) (start : StartCommand) {k : Client}
    {w : σ} (clocked : Clocked M D) (sound : k.channel.Sound) :
    let done := run M.traced D.traced settings start k (.start w)
    untraced done = run M D settings start k w ∧
    (∀ source, (M.opening start w).1 = .ok source →
      let plan := planOf settings start (M.rate source)
      let begun := started (H.traced F) settings plan source k (M.traced.opening start (.start w)).2
      let began := H.now (M.opening start w).2
      let slots := slots M.traced D.traced plan begun
      (∃ lost, done.1.framesRead = slots.length + lost ∧
        Unslotted lost done.1.ending done.2.2.trace) ∧
      ∀ earlier slot later, slots = earlier ++ slot :: later →
        let n := earlier.length + 1
        let work := works began (earlier ++ [slot])
        slot.pace = ⟨began, plan.fps, settings.realtime, earlier.length⟩ ∧
        (lastFinish began earlier).nanos ≤ slot.ready.nanos ∧
        (settings.realtime = true → ∀ T : Nat → Nat,
          (∀ j ≤ n, Duration.ofSeconds ((Binary64.ofNat j).div plan.fps) = .ok ⟨T j⟩) →
          T 0 = 0 ∧ slot.finish.nanos = began.nanos + latest T work ∧ T n ≤ latest T work ∧
          ((∀ j < n, T j + (work.drop j).sum ≤ T n) → slot.finish.nanos = began.nanos + T n)) ∧
        (settings.realtime = false → slot.finish = slot.ready)) ∧
    (settings.realtime = false → ∀ length, .slept length ∉ done.2.2.trace) ∧
    ∀ frames fps elapsed delay, pacingDelay frames fps elapsed = some delay →
      0 < delay.nanos ∧ ∃ target,
        Duration.ofSeconds ((Binary64.ofNat frames).div fps) = .ok target ∧
          elapsed.nanos + delay.nanos = target.nanos := by
  intro done
  refine ⟨run_traced M D settings start k (.start w), fun source opened => ?_,
    fun unpaced length => not_slept unpaced start k w length,
    fun frames fps elapsed delay h => pacingDelay_spec h⟩
  intro plan begun began slots
  refine ⟨framesRead_run settings start sound opened, fun earlier slot later shape => ?_⟩
  intro n work
  have chain : Chain begun.pace began slots := by
    have begins := clocked.traced.forward.note (startedRecord settings plan)
      (M.traced.opening start (.start w)).2
    exact chain_slots clocked.traced begun begins
  have whole : slots = (earlier ++ [slot]) ++ later := by
    rw [shape, List.append_assoc]
    rfl
  have front : Chain begun.pace began (earlier ++ [slot]) := (whole ▸ chain).append.1
  have last := (shape ▸ chain).append.2
  cases last with
  | cons pace after finish _ =>
    have place : slot.pace = ⟨began, plan.fps, settings.realtime, earlier.length⟩ := by
      rw [pace]
      show (⟨_, _, _, 0 + earlier.length⟩ : Pace) = _
      rw [Nat.zero_add]
      rfl
    refine ⟨place, after, fun paced T targets => ?_, fun unpaced => ?_⟩
    · have zero : T 0 = 0 := by
        have none := ofSeconds_no_frames (usableFps_effectiveFps (M.rate source) start.fps
          settings.defaultFps)
        have same := Except.ok.inj (none.symm.trans (targets 0 (Nat.zero_le n)))
        exact (congrArg Duration.nanos same).symm
      have length : work.length = n := by rw [length_works, List.length_append]; rfl
      have ends : slot.finish.nanos = began.nanos + latest T work := by
        have eq := front.finish_eq (T := T) paced rfl
          (fun j le => targets j (by simpa using le)) zero
        rwa [lastFinish_concat] at eq
      refine ⟨zero, ends, ?_, fun caughtUp => ?_⟩
      · have le := le_latest T (Nat.le_of_eq length.symm)
        exact Nat.le_trans (Nat.le_add_right ..) le
      · rw [ends, latest_eq (by rwa [length]), length]
    · rw [finish]
      exact Pace.slotEnd_of_unpaced unpaced slot.ready

/-- A clip that is stopped behind two frames, the first of which is analysed. -/
theorem slots_follow_schedule_of_clip :
    let M : Media Script.host.timed SyntheticClip Nat := SyntheticClip.media Script.host.timed
    let D := slowDetector ⟨50000000⟩
    let plan := planOf .default everySecond none
    let begun := started (Script.host.timed.traced Nat) .default plan (.ofFrames defaultClipFrames)
      crowdedClient (M.traced.opening everySecond (.start (⟨0⟩, ⟨[], []⟩))).2
    (Clocked M D ∧ crowdedClient.channel.Sound) ∧
    ∃ first second, slots M.traced D.traced plan begun = [first, second] ∧
      first.finish.nanos = max first.ready.nanos 33333333 ∧
      second.finish.nanos = max second.ready.nanos 66666667 := by
  intro M D plan begun
  have clocked : Clocked M D := clocked_slowDetector ⟨50000000⟩
  have sound : crowdedClient.channel.Sound := ⟨rfl, rfl, nofun⟩
  have smooth : Smooth M D .default everySecond crowdedClient (⟨0⟩, ⟨[], []⟩) fun _ => [] :=
    smooth_of_along (along_clip along_unwritten.timed (fun _ _ h => h) fun _ _ _ h => h)
      (fun _ _ _ _ unwritten => congrArg (·.1) (write_of_unwritten unwritten)) (fun _ _ => rfl)
      everySecond sound rfl
  have opened := opening_everySecond Script.host.timed (⟨0⟩, ⟨[], []⟩)
  obtain ⟨-, slotted, -⟩ :=
    slots_follow_schedule .default everySecond (w := (⟨0⟩, ⟨[], []⟩)) clocked sound
  obtain ⟨⟨lost, frames, few, broken⟩, placed⟩ := slotted _ opened
  -- two frames were read, and no write was incomplete
  have read : _ = 2 := (shown_run smooth opened).framesRead_eq.trans
    (congrArg Passes.frames (passes_crowdedClient smooth))
  have none : lost ≠ 1 := fun one =>
    not_brokenOff_of_complete smooth.complete (broken.mp one).2
  have two : (slots M.traced D.traced plan begun).length = 2 := by
    have all : 2 = (slots M.traced D.traced plan begun).length + lost := read.symm.trans frames
    omega
  obtain ⟨first, second, both⟩ := List.length_eq_two.mp two
  let T (n : Nat) : Nat := if n = 0 then 0 else if n = 1 then 33333333 else 66666667
  have targets : ∀ j ≤ 2, Duration.ofSeconds ((Binary64.ofNat j).div plan.fps) = .ok ⟨T j⟩ := by
    decide +kernel
  obtain ⟨-, -, finish, -⟩ := placed [] first [second] both
  obtain ⟨-, later, finish', -⟩ := placed [first] second [] both
  obtain ⟨-, ends, -⟩ := finish rfl T fun j le => targets j (Nat.le_succ_of_le le)
  obtain ⟨-, ends', -⟩ := finish' rfl T targets
  have alone (work : Nat) : latest T [work] = max work 33333333 := by
    simpa [latest, T] using latest_concat T [] work
  have pair (work work' : Nat) :
      latest T [work, work'] = max (max work 33333333 + work') 66666667 := by
    rw [← alone]
    exact latest_concat T [work] work'
  have firstEnd : first.finish.nanos = 0 + latest T [first.ready.nanos - 0] := ends
  have secondEnd : second.finish.nanos =
      0 + latest T [first.ready.nanos - 0, second.ready.nanos - first.finish.nanos] := ends'
  have next : first.finish.nanos ≤ second.ready.nanos := later
  rw [alone] at firstEnd
  rw [pair] at secondEnd
  exact ⟨⟨clocked, sound⟩, first, second, both, by omega, by omega⟩

end Session
end DetectionLink
