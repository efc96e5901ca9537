import DetectionLink.Proofs.Accounting

/-!
# The slots of a session's frames

Behind each frame a session lets the frame's slot end: a paced session sleeps as long as its
schedule says, any other goes on at once. A rewind has no slot, and does not begin a new schedule.

* `Slot`, `slots`: when the frames of a session were done and when their slots were over;
* `Paced`, `paced_iterate`: an iteration against the same iteration without pacing;
* `Onward`, `onward`: an iteration and the first slot;
* `pace_slots`: the slots are counted through;
* `Unslotted`, `framesRead_run`: every frame has a slot, but for one with which the connection was
  lost.
-/

namespace DetectionLink

variable {σ S F : Type} {H : Host σ}

/-! ## Slots -/

namespace Pace

/-- The schedule when one more frame is done. -/
def next (p : Pace) : Pace := { p with framesDone := p.framesDone + 1 }

/-- When the slot of a frame is over that is done at this moment. -/
def slotEnd (p : Pace) (ready : Instant) : Instant :=
  match p.delay? ready with
  | some delay => ready.after delay
  | none => ready

theorem slotEnd_of_unpaced {p : Pace} (unpaced : p.enabled = false) (ready : Instant) :
    p.slotEnd ready = ready := by
  rw [slotEnd, delay?, unpaced]
  rfl

end Pace

namespace Session

/-- A session that does not sleep. -/
def Running.unpaced (r : Running σ S) : Running σ S :=
  { r with pace := { r.pace with enabled := false } }

/-- The slot of a frame: the schedule it belongs to, when the frame was done and when its slot was
over. -/
structure Slot where
  pace : Pace
  ready : Instant
  finish : Instant

variable (M : Media H S F) (D : Detector H F) (plan : Plan)

/-- The slots of the frames from a state on. When a frame is done is seen on the same iteration
without its sleep. -/
def slots (r : Running σ S) : List Slot :=
  match went : iterate M D plan r with
  | .finished _ _ => []
  | .goOn r' =>
    have _spent := iterate_lessLeft M D plan went
    if r'.pace.framesDone = r.pace.framesDone then slots r'
    else
      ⟨r.pace, H.now (iterate M D plan r.unpaced).running.world, H.now r'.world⟩ :: slots r'
termination_by (H.budget r.world, r.client.channel.lines.pending)
decreasing_by
  · exact Channel.LessLeft.lex _spent
  · exact Channel.LessLeft.lex _spent

variable {M D plan} {r r' : Running σ S}

theorem slots_finished {ending : SessionEnd} (last : iterate M D plan r = .finished ending r') :
    slots M D plan r = [] := by
  rw [slots.eq_def]
  split <;> simp_all

theorem slots_same (went : iterate M D plan r = .goOn r')
    (same : r'.pace.framesDone = r.pace.framesDone) : slots M D plan r = slots M D plan r' := by
  rw [slots.eq_def]
  split <;> simp_all

theorem slots_frame (went : iterate M D plan r = .goOn r')
    (more : r'.pace.framesDone ≠ r.pace.framesDone) :
    slots M D plan r =
      ⟨r.pace, H.now (iterate M D plan r.unpaced).running.world, H.now r'.world⟩ ::
        slots M D plan r' := by
  rw [slots.eq_def]
  split <;> simp_all

/-! ## One iteration -/

/-- An iteration, and the same one without pacing: a frame is done, and the paced session sleeps;
or the source went back, or the session ended, and it does not. -/
inductive Paced (r : Running σ S) : Step σ S → Step σ S → Prop
  | frame {r' done : Running σ S} (pace : r'.pace = r.pace.next)
      (frames : r'.counts.framesRead = r.counts.framesRead + 1)
      (slept : r'.world = Pace.sleepFor H (r.pace.delay? (H.now done.world)) done.world) :
      Paced r (.goOn r') (.goOn done)
  | rewound {r' : Running σ S} (pace : r'.pace = r.pace)
      (frames : r'.counts.framesRead = r.counts.framesRead) : Paced r (.goOn r') (.goOn r'.unpaced)
  | ended {ending : SessionEnd} {r' : Running σ S} :
      Paced r (.finished ending r') (.finished ending r'.unpaced)

theorem paced_settle {r : Running σ S} (done : Running σ S) (pace : done.pace = r.pace)
    (frames : done.counts.framesRead = r.counts.framesRead + 1) :
    Paced (H := H) r (settle H done) (settle H done.unpaced) := by
  refine .frame ?_ frames ?_
  · rw [← pace]
    rfl
  · rw [← pace]
    rfl

theorem paced_conclude {r : Running σ S} (outcome : Except LinkError Unit) (done : Running σ S)
    (pace : done.pace = r.pace) (frames : done.counts.framesRead = r.counts.framesRead + 1) :
    Paced (H := H) r (conclude H outcome done) (conclude H outcome done.unpaced) := by
  unfold conclude
  split
  · exact paced_settle { done with
      counts := { done.counts with messagesSent := done.counts.messagesSent + 1 } } pace frames
  · split
    · exact .ended
    · exact paced_settle (done.note H _) pace frames

variable (M D plan)

theorem paced_atEnd {r pulled : Running σ S} (pace : pulled.pace = r.pace)
    (frames : pulled.counts.framesRead = r.counts.framesRead) :
    Paced (H := H) r (atEnd M plan pulled) (atEnd M plan pulled.unpaced) := by
  have index : pulled.unpaced.index = pulled.index := rfl
  unfold atEnd
  rw [index]
  split
  · exact .ended
  · split
    · exact .ended
    · have same : M.rewind pulled.unpaced.source pulled.unpaced.world =
          M.rewind pulled.source pulled.world := rfl
      dsimp only
      rw [same]
      split
      · exact .ended
      · exact .rewound pace frames

theorem paced_pull {r begun : Running σ S} (pace : begun.pace = r.pace)
    (frames : begun.counts.framesRead = r.counts.framesRead) :
    Paced (H := H) r (pull M D plan begun) (pull M D plan begun.unpaced) := by
  have same : M.next begun.unpaced.source begun.unpaced.world =
    M.next begun.source begun.world := rfl
  have index : begun.unpaced.index = begun.index := rfl
  unfold pull
  dsimp only
  rw [same, index]
  split
  · exact paced_atEnd M plan pace frames
  · split
    · exact paced_conclude _ (report M D plan _ _).2 pace (congrArg (· + 1) frames)
    · exact paced_settle _ pace (congrArg (· + 1) frames)

theorem paced_iterate (r : Running σ S) :
    Paced (H := H) r (iterate M D plan r) (iterate M D plan r.unpaced) := by
  have client : r.unpaced.client = r.client := rfl
  have polled : polled H r.unpaced = ((polled H r).1, (polled H r).2.unpaced) := rfl
  unfold iterate
  rw [client, polled]
  split
  · unfold heed
    dsimp only
    split
    · exact .ended
    · exact paced_pull M D plan rfl rfl
    · exact paced_pull M D plan rfl rfl
    · exact paced_pull M D plan rfl rfl
    · exact .ended
  · exact .ended

/-! ## The first slot -/

/-- An iteration with which a session goes on: it took a frame, whose slot comes first, or the
source went back. -/
inductive Onward (r r' : Running σ S) : Prop
  | frame {done : Running σ S} (unslept : iterate M D plan r.unpaced = .goOn done)
      (pace : r'.pace = r.pace.next) (frames : r'.counts.framesRead = r.counts.framesRead + 1)
      (slept : r'.world = Pace.sleepFor H (r.pace.delay? (H.now done.world)) done.world)
      (slots_eq : slots M D plan r =
        ⟨r.pace, H.now done.world, H.now r'.world⟩ :: slots M D plan r')
  | rewound (unslept : iterate M D plan r.unpaced = .goOn r'.unpaced) (pace : r'.pace = r.pace)
      (frames : r'.counts.framesRead = r.counts.framesRead)
      (slots_eq : slots M D plan r = slots M D plan r')

variable {M D plan} in
theorem onward (went : iterate M D plan r = .goOn r') : Onward M D plan r r' := by
  have paced := paced_iterate M D plan r
  rw [went] at paced
  generalize unslept : iterate M D plan r.unpaced = step at paced
  cases paced with
  | frame pace frames slept =>
    have more : r'.pace.framesDone ≠ r.pace.framesDone := by
      rw [pace]
      exact Nat.succ_ne_self _
    have first := slots_frame went more
    rw [unslept] at first
    exact .frame unslept pace frames slept first
  | rewound pace frames =>
    exact .rewound unslept pace frames (slots_same went (congrArg Pace.framesDone pace))

/-- Frames are counted through from the beginning of a session: a rewind does not start over. -/
theorem pace_slots (r : Running σ S) :
    (slots M D plan r).map (·.pace) = (List.range (slots M D plan r).length).map fun i =>
      { r.pace with framesDone := r.pace.framesDone + i } := by
  induction r using runFrom.induct M D plan with
  | case1 r ending r' last =>
    rw [slots_finished last]
    rfl
  | case2 r r' went spent ih =>
    cases onward went with
    | frame _ pace _ _ slots_eq =>
      rw [slots_eq, List.map_cons, ih, List.length_cons, List.range_succ_eq_map, List.map_cons,
        List.map_map, pace]
      refine congrArg (r.pace :: ·) (List.map_congr_left fun i _ => ?_)
      show (⟨_, _, _, _⟩ : Pace) = ⟨_, _, _, _⟩
      rw [Pace.next, Nat.add_assoc, Nat.add_comm 1 i]
    | rewound _ pace _ slots_eq => rw [slots_eq, ih, pace]

variable {M D plan} {handle : Nat}

/-! ## Every frame has its slot -/

/-- The frames that have no slot: none, or the one with which the connection was lost. -/
def Unslotted (frames : Nat) (ending : SessionEnd) (trace : List (Event F)) : Prop :=
  frames ≤ 1 ∧ (frames = 1 ↔ ending = .disconnected ∧ BrokenOff trace)

theorem unslotted_of_complete {trace : List (Event F)} {ending : SessionEnd}
    (complete : ∀ wire ∈ wires trace, wire.2 = .complete) : Unslotted 0 ending trace := by
  refine ⟨Nat.zero_le 1, nofun, fun ⟨_, broken⟩ => ?_⟩
  exact absurd broken (not_brokenOff_of_complete complete)

/-- Quiet events change nothing of this. -/
theorem Unslotted.quiet {frames : Nat} {ending : SessionEnd} {t t' : Traced σ F}
    (h : Unslotted frames ending t.trace) (quiet : Happened [] t t') :
    Unslotted frames ending t'.trace := by
  unfold Unslotted BrokenOff
  rw [quiet.deeds_eq, List.append_nil]
  exact h

/-- The last iteration takes no frame, or loses the connection with it. -/
theorem unslotted_finished {r r' : Running (Traced σ F) S} {ending : SessionEnd}
    (faithful : Faithful plan handle r)
    (last : iterate M.traced D.traced plan r = .finished ending r') :
    ∃ lost, r'.counts.framesRead = r.counts.framesRead + lost ∧
      Unslotted lost ending r'.world.trace := by
  have iterated := iterated_iterate M D plan faithful.attached
  have polled := happened_polled (H := H) r
  rw [last] at iterated
  -- a step without a write keeps all writes complete
  have idle {client : Client} {done : List (Event F)} {heeded : Running (Traced σ F) S}
      (h : Faithful plan handle heeded) (frames : heeded.counts.framesRead = r.counts.framesRead)
      (left : Left heeded r' heeded.counts heeded.index client done) (silent : wires done = []) :
      ∃ lost, r'.counts.framesRead = r.counts.framesRead + lost ∧
        Unslotted lost ending r'.world.trace := by
    refine ⟨0, ?_, unslotted_of_complete (complete_of_idle h left.happened silent)⟩
    rw [left.counts_eq, frames, Nat.add_zero]
  cases iterated with
  | stopped _ left =>
    exact idle faithful rfl ⟨left.counts_eq, left.index_eq, left.client_eq,
      polled.trans left.happened⟩ rfl
  | lost _ =>
    exact ⟨0, rfl, unslotted_of_complete (complete_of_idle faithful polled rfl)⟩
  | went poll left pulled =>
    have heeded := faithful_heeded faithful poll left
    have frames := congrArg SessionCounts.framesRead left.counts_eq
    cases pulled with
    | exhausted _ left' => exact idle heeded frames left' rfl
    | stuck _ _ left' => exact idle heeded frames left' rfl
    | failed _ _ incomplete left' =>
      have broken : BrokenOff r'.world.trace :=
        brokenOff_of_happened [.pulled _ _, .detected _ _] left'.happened incomplete
      refine ⟨1, ?_, Nat.le_refl 1, fun _ => ⟨rfl, broken⟩, fun _ => rfl⟩
      rw [left'.counts_eq]
      exact congrArg (· + 1) frames

theorem framesRead_runFrom (positive : 0 < plan.interval) (r : Running (Traced σ F) S)
    (faithful : Faithful plan handle r) :
    let done := runFrom M.traced D.traced plan r
    ∃ lost, done.2.counts.framesRead =
        r.counts.framesRead + (slots M.traced D.traced plan r).length + lost ∧
      Unslotted lost done.1 done.2.world.trace := by
  induction r using runFrom.induct M.traced D.traced plan with
  | case1 r ending r' last =>
    rw [runFrom_finished last, slots_finished last]
    exact unslotted_finished faithful last
  | case2 r r' went spent ih =>
    obtain ⟨lost, frames, unslotted⟩ := ih (faithful_next positive faithful went)
    rw [runFrom_goOn went]
    refine ⟨lost, ?_, unslotted⟩
    cases onward went with
    | frame _ _ more _ slots_eq =>
      rw [slots_eq, List.length_cons, frames, more]
      omega
    | rewound _ _ same slots_eq => rw [slots_eq, frames, same]

/-! ## Whole sessions -/

/-- The frames of a whole session that have no slot. -/
theorem framesRead_run (settings : SessionSettings) (start : StartCommand) {source : S}
    {k : Client} {w : σ} (sound : k.channel.Sound) (opened : (M.opening start w).1 = .ok source) :
    let plan := planOf settings start (M.rate source)
    let done := run M.traced D.traced settings start k (.start w)
    let begun := started (H.traced F) settings plan source k (M.traced.opening start (.start w)).2
    ∃ lost, done.1.framesRead = (slots M.traced D.traced plan begun).length + lost ∧
      Unslotted lost done.1.ending done.2.2.trace := by
  intro plan done begun
  have whole : done = _ := run_opened (M := M.traced) (D := D.traced) opened
  -- behind the loop there is only the record of how the session ended
  have ends : Happened [] (runFrom M.traced D.traced plan begun).2.world done.2.2 := by
    rw [whole]
    exact happened_note H _ _
  have ending : done.1.ending = (runFrom M.traced D.traced plan begun).1 :=
    congrArg (·.1.ending) whole
  have frames : done.1.framesRead = (runFrom M.traced D.traced plan begun).2.counts.framesRead :=
    congrArg (·.1.framesRead) whole
  suffices looped : ∃ lost, (runFrom M.traced D.traced plan begun).2.counts.framesRead =
      (slots M.traced D.traced plan begun).length + lost ∧
      Unslotted lost (runFrom M.traced D.traced plan begun).1
        (runFrom M.traced D.traced plan begun).2.world.trace by
    obtain ⟨lost, same, unslotted⟩ := looped
    exact ⟨lost, frames.trans same, ending ▸ unslotted.quiet ends⟩
  cases connected : k.isConnected with
  | false =>
    have gone : iterate M.traced D.traced plan begun = .finished .disconnected begun :=
      iterate_of_not_connected connected
    have silent : ∀ wire ∈ wires begun.world.trace, wire.2 = .complete := nofun
    rw [runFrom_finished gone, slots_finished gone]
    exact ⟨0, rfl, unslotted_of_complete silent⟩
  | true =>
    obtain ⟨handle, attached⟩ := exists_attached sound connected
    obtain ⟨lost, frames, unslotted⟩ := framesRead_runFrom (M := M) (D := D)
      (planOf_interval_pos settings start (M.rate source)) begun (faithful_started attached)
    have none : begun.counts.framesRead = 0 := rfl
    rw [none, Nat.zero_add] at frames
    exact ⟨lost, frames, unslotted⟩

end Session
end DetectionLink
