import DetectionLink.Proofs.Accounting
import DetectionLink.Proofs.MediaTime
import DetectionLink.Proofs.Rejection

/-!
# Timestamps follow the media

Each message is timed by the frame it is about. On a source that reports no position that is the
place of the frame in its pass at the rate of the session: within a pass timestamps do not go back,
and each pass begins at zero again.

* `stamp?`, `stamp?_of_encodeDetections`: the timestamp that is read from a line;
* `Bears`, `Stamped`, `stamped_pulled`: every line written is timed by the frame read last;
* `Untracked`, `stamp?_of_stamped`: without positions its place in the pass is all that counts;
* `length_current_le`: places go up until a rewind;
* `timestamps_follow_media`: whole sessions.
-/

namespace DetectionLink

variable {σ S F : Type}

/-! ## Lines and their timestamps -/

/-- The timestamp of a line with its terminator, if it is a message. -/
def stamp? (bytes : Bytes) : Option UInt64 :=
  if bytes.getLast? = some lineTerminator then
    (DetectionMessage.ofBytes? bytes.dropLast).map (·.timestampMs)
  else none

theorem stamp?_of_encodeDetections {timestampMs : UInt64} {found : List RawDetection}
    {line : Bytes} (encoded : encodeDetections timestampMs found = .ok line) :
    stamp? (line ++ [lineTerminator]) = some timestampMs := by
  rw [encodeDetections] at encoded
  split at encoded
  · next m built =>
    obtain rfl := Except.ok.inj encoded
    have readable := DetectionMessage.ofBytes?_encode_of_readsBack (readsBack_of_ofDetections built)
    rw [ofDetections_eq] at built
    obtain ⟨_, set, -, rfl⟩ := MessageBuilder.eq_of_build built
    rw [stamp?, if_pos List.getLast?_concat, List.dropLast_concat, readable, Option.map_some]
    exact set.symm
  · cases encoded

/-- A line of a message that is timed by the last frame of the pass under way. -/
inductive Bears (fps : Binary64) (p : Passes F) : Bytes → Prop
  | line {earlier : List (Shot F)} {shot : Shot F} {found : List RawDetection} {line : Bytes}
      (current : p.current = earlier ++ [shot])
      (encoded : encodeDetections (frameTimestampMs shot.position earlier.length fps) found =
        .ok line) :
      Bears fps p (line ++ [lineTerminator])

/-- Every line written is timed by the frame read last. -/
def Stamped (fps : Binary64) (trace : List (Event F)) : Prop :=
  ∀ before handle bytes outcome,
    before ++ [.wrote handle bytes outcome] <+: deeds trace → Bears fps (passes before) bytes

theorem passes_deeds (trace : List (Event F)) : passes (deeds trace) = passes trace :=
  (foldl_deeds Passes.add_quiet trace .empty).symm

namespace Stamped

variable {fps : Binary64} {done : List (Event F)} {t t' : Traced σ F}

/-- Deeds without a write. -/
theorem idle (h : Stamped fps t.trace) (happened : Happened done t t')
    (nothingWritten : wires done = []) : Stamped fps t'.trace := by
  intro before handle bytes outcome within
  rw [happened.deeds_eq] at within
  clear happened
  induction done using List.reverseRecOn with
  | nil => exact h before handle bytes outcome (List.append_nil (deeds t.trace) ▸ within)
  | append_singleton earlier event ih =>
    rw [wires, List.filterMap_append] at nothingWritten
    obtain ⟨earlierNone, none⟩ := List.append_eq_nil_iff.mp nothingWritten
    rw [← List.append_assoc, List.prefix_concat_iff] at within
    rcases within with last | within
    · -- the last of these deeds is no write
      obtain ⟨-, same⟩ := List.append_inj' last rfl
      obtain rfl := (List.singleton_inj.mp same).symm
      cases none
    · exact ih earlierNone within

/-- A frame and its line. -/
theorem wrote {frame : F} {position : Option Binary64} {found : List RawDetection} {line : Bytes}
    {handle : Nat} {outcome : WriteOutcome} (h : Stamped fps t.trace)
    (happened : Happened [.pulled (some frame) position, .detected frame found,
      .wrote handle (line ++ [lineTerminator]) outcome] t t')
    (encoded : encodeDetections
      (frameTimestampMs position (passes t.trace).current.length fps) found = .ok line) :
    Stamped fps t'.trace := by
  intro before handle' bytes outcome' within
  have split : deeds t'.trace = deeds t.trace ++ [.pulled (some frame) position] ++
      [.detected frame found] ++ [.wrote handle (line ++ [lineTerminator]) outcome] := by
    rw [happened.deeds_eq]
    simp
  rw [split, List.prefix_concat_iff, List.prefix_concat_iff, List.prefix_concat_iff] at within
  rcases within with last | last | last | earlier
  · obtain ⟨rfl, same⟩ := List.append_inj' last rfl
    cases same
    have current : (passes (deeds t.trace ++ [.pulled (some frame) position] ++
        [.detected frame found])).current = (passes t.trace).current ++ [⟨frame, position⟩] := by
      rw [passes_concat, passes_concat, passes_deeds]
      rfl
    exact .line current encoded
  · cases (List.append_inj' last rfl).2
  · cases (List.append_inj' last rfl).2
  · exact h before handle' bytes outcome' earlier

end Stamped

/-! ## Frames of a pass -/

/-- No frame came with a position. -/
def Untracked (trace : List (Event F)) : Prop :=
  ∀ frame position, .pulled (some frame) position ∈ trace → position = none

theorem Untracked.happened {done : List (Event F)} {t t' : Traced σ F} (h : Untracked t.trace)
    (happened : Happened done t t') (new : Untracked done) : Untracked t'.trace := by
  obtain ⟨added, grown, rfl⟩ := happened
  intro frame position mem
  rw [grown] at mem
  rcases List.mem_append.mp mem with old | added
  · exact h frame position old
  · exact new frame position (List.mem_filter.mpr ⟨added, rfl⟩)

/-- The frames of a pass are those that were read. -/
theorem pulled_of_mem_current {trace : List (Event F)} {shot : Shot F}
    (mem : shot ∈ (passes trace).current) :
    .pulled (some shot.frame) shot.position ∈ trace := by
  induction trace using List.reverseRecOn with
  | nil => cases mem
  | append_singleton trace event ih =>
    rw [passes_concat] at mem
    have kept (old : shot ∈ (passes trace).current) :
        .pulled (some shot.frame) shot.position ∈ trace ++ [event] :=
      List.mem_append_left _ (ih old)
    -- only a frame joins the pass under way, and a rewind empties it
    cases event with
    | pulled frame position =>
      cases frame with
      | none => exact kept mem
      | some frame =>
        rcases List.mem_append.mp mem with old | new
        · exact kept old
        · rw [List.mem_singleton.mp new]
          exact List.mem_append_right _ List.mem_cons_self
    | rewound succeeded =>
      cases succeeded with
      | true => cases mem
      | false => exact kept mem
    | _ => exact kept mem

/-- Without a rewind a pass only grows. -/
theorem length_current_le (before : List (Event F)) {between : List (Event F)}
    (onward : loops between = 0) :
    (passes before).current.length ≤ (passes (before ++ between)).current.length := by
  induction between using List.reverseRecOn with
  | nil => rw [List.append_nil]
  | append_singleton between event ih =>
    rw [loops, List.countP_append, Nat.add_eq_zero_iff] at onward
    refine (ih onward.1).trans ?_
    rw [← List.append_assoc, passes_concat]
    cases event with
    | pulled frame position =>
      cases frame with
      | none => exact Nat.le_refl _
      | some frame =>
        rw [Passes.length_current_pulled]
        exact Nat.le_succ _
    | rewound succeeded =>
      cases succeeded with
      | true => cases onward.2
      | false => exact Nat.le_refl _
    | _ => exact Nat.le_refl _

/-- A line of a frame without a position is timed by its place. -/
theorem stamp?_of_stamped {fps : Binary64} {trace before : List (Event F)} {handle : Nat}
    {bytes : Bytes} {outcome : WriteOutcome} (stamped : Stamped fps trace)
    (untracked : Untracked trace)
    (within : before ++ [.wrote handle bytes outcome] <+: trace) :
    stamp? bytes = some (frameTimestampMs none ((passes before).current.length - 1) fps) := by
  have shown : deeds (before ++ [.wrote handle bytes outcome]) <+: deeds trace := within.filter _
  rw [deeds_append] at shown
  have bears := stamped (deeds before) handle bytes outcome shown
  rw [passes_deeds] at bears
  cases bears with
  | @line earlier shot _ _ current encoded =>
    have inside : shot ∈ (passes before).current := by simp [current]
    have position : shot.position = none :=
      untracked _ _ (within.subset (List.mem_append_left _ (pulled_of_mem_current inside)))
    rw [position] at encoded
    rw [stamp?_of_encodeDetections encoded, current, List.length_append]
    rfl

namespace Session

variable {H : Host σ} {M : Media H S F} {D : Detector H F} {plan : Plan} {handle : Nat}

theorem stamped_pulled {r : Running (Traced σ F) S} {step : Step (Traced σ F) S}
    (h : Faithful plan handle r) (stamped : Stamped plan.fps r.world.trace)
    (pulled : Pulled M plan handle r step) : Stamped plan.fps step.running.world.trace := by
  cases pulled with
  | exhausted _ left => exact stamped.idle left.happened rfl
  | stuck _ _ left => exact stamped.idle left.happened rfl
  | rewound _ _ left => exact stamped.idle left.happened rfl
  | skipped _ left => exact stamped.idle left.happened rfl
  | unencodable _ _ left => exact stamped.idle left.happened rfl
  | sent _ encoded left => exact stamped.wrote left.happened (h.index_eq ▸ encoded)
  | failed _ encoded _ left => exact stamped.wrote left.happened (h.index_eq ▸ encoded)

theorem stamped_opened {fps : Binary64} {start : StartCommand} (succeeded : Bool) :
    Stamped fps ([.opened start succeeded] : List (Event F)) := by
  intro before handle bytes outcome within
  have alone : deeds [.opened start succeeded] =
      ([] ++ [.opened start succeeded] : List (Event F)) := rfl
  rw [alone, List.prefix_concat_iff] at within
  rcases within with last | earlier
  · cases (List.append_inj' last rfl).2
  · simp at earlier

theorem untracked_pulled (silent : ∀ s, M.position s = none) {r : Running (Traced σ F) S}
    {step : Step (Traced σ F) S} (h : Untracked r.world.trace)
    (pulled : Pulled M plan handle r step) : Untracked step.running.world.trace := by
  cases pulled with
  | exhausted _ left => exact h.happened left.happened (by simp [Untracked])
  | stuck _ _ left => exact h.happened left.happened (by simp [Untracked])
  | rewound _ _ left => exact h.happened left.happened (by simp [Untracked])
  | skipped _ left => exact h.happened left.happened (by simp [Untracked, silent])
  | unencodable _ _ left => exact h.happened left.happened (by simp [Untracked, silent])
  | sent _ _ left => exact h.happened left.happened (by simp [Untracked, silent])
  | failed _ _ _ left => exact h.happened left.happened (by simp [Untracked, silent])

/-- Media that track no position. -/
theorem untracked_run (settings : SessionSettings) (start : StartCommand) {k : Client}
    {source : S} {w : σ} (silent : ∀ s, M.position s = none) (sound : k.channel.Sound)
    (opened : (M.opening start w).1 = .ok source) :
    Untracked (run M.traced D.traced settings start k (.start w)).2.2.trace :=
  trace_invariant (P := Untracked) settings start sound opened (fun _ => by simp [Untracked])
    (fun quiet h => h.happened quiet nofun) fun _ h pulled => untracked_pulled silent h pulled

/-- A session on media that open and report no position. Its rate is finite and above the least
there is. Every line that it writes is a message. If only one frame of the pass was read before,
its timestamp is zero; and no line that is written later in the pass has an earlier one. -/
theorem timestamps_follow_media (M : Media H S F) (D : Detector H F) (settings : SessionSettings)
    (start : StartCommand) {k : Client} {source : S} {w : σ} (sound : k.channel.Sound)
    (opened : (M.opening start w).1 = .ok source) :
    let plan := planOf settings start (M.rate source)
    let done := run M.traced D.traced settings start k (.start w)
    let trace := done.2.2.trace
    Untracked trace →
    untraced done = run M D settings start k w ∧
    plan.fps.isFinite = true ∧ fpsEpsilon.lt plan.fps = true ∧
    ∀ before handle bytes outcome, before ++ [.wrote handle bytes outcome] <+: trace →
      ∃ stamp, stamp? bytes = some stamp ∧
        ((passes before).current.length = 1 → stamp = 0) ∧
        ∀ between handle' bytes' outcome',
          before ++ .wrote handle bytes outcome :: between ++
            [.wrote handle' bytes' outcome'] <+: trace → loops between = 0 →
          ∃ stamp', stamp? bytes' = some stamp' ∧ stamp ≤ stamp' := by
  intro plan done trace untracked
  have usable : usableFps plan.fps = true := usableFps_effectiveFps ..
  obtain ⟨finite, above⟩ := Bool.and_eq_true_iff.mp usable
  have stamped : Stamped plan.fps trace :=
    trace_invariant (P := Stamped plan.fps) settings start sound opened stamped_opened
      (fun quiet stamped => stamped.idle quiet rfl) stamped_pulled
  have timed {before : List (Event F)} {handle : Nat} {bytes : Bytes} {outcome : WriteOutcome}
      (within : before ++ [.wrote handle bytes outcome] <+: trace) :=
    stamp?_of_stamped stamped untracked within
  have same : untraced done = run M D settings start k w :=
    run_traced M D settings start k (.start w)
  refine ⟨same, finite, above, fun before handle bytes outcome within => ?_⟩
  refine ⟨_, timed within, fun first => ?_, fun between handle' bytes' outcome' later onward => ?_⟩
  · rw [first]
    exact frameTimestampMs_first usable
  · have onward : loops (.wrote handle bytes outcome :: between) = 0 := onward
    have places := Nat.sub_le_sub_right (length_current_le before onward) 1
    exact ⟨_, timed later, frameTimestampMs_mono usable places⟩

/-- Every second frame of a clip, on a link that is silent for nine reads and then ends. -/
theorem timestamps_of_clip :
    let M : Media Script.host SyntheticClip Nat := SyntheticClip.media Script.host
    let script : Script := ⟨List.replicate 9 .expired, []⟩
    let trace := (run M.traced blindDetector.traced .default everySecond connectedClient
      (.start script)).2.2.trace
    (connectedClient.channel.Sound ∧
      (M.opening everySecond script).1 = .ok (.ofFrames defaultClipFrames) ∧ Untracked trace) ∧
    ∀ before handle bytes outcome, before ++ [.wrote handle bytes outcome] <+: trace →
      ∃ stamp, stamp? bytes = some stamp ∧ ((passes before).current.length = 1 → stamp = 0) := by
  intro M script trace
  have sound : connectedClient.channel.Sound := ⟨rfl, rfl, nofun⟩
  have opened : (M.opening everySecond script).1 = .ok (.ofFrames defaultClipFrames) := rfl
  have untracked : Untracked trace :=
    untracked_run .default everySecond (fun _ => rfl) sound opened
  obtain ⟨-, -, -, timed⟩ :=
    timestamps_follow_media M blindDetector .default everySecond sound opened untracked
  refine ⟨⟨sound, opened, untracked⟩, fun before handle bytes outcome within => ?_⟩
  obtain ⟨stamp, read, first, -⟩ := timed before handle bytes outcome within
  exact ⟨stamp, read, first⟩

end Session
end DetectionLink
