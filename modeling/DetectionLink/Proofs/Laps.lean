import DetectionLink.Proofs.Sources

/-!
# Clips played again and again

A session asks its clip for frames and takes it back to its start. Whatever else happens to the
session, its passes are then whole runs through the clip, and the first frames of one more.

* `clipShots`, `Passes.ofLaps`: whole runs through a clip, and the start of one more;
* `Plays`: what a clip answers, rewinds included;
* `LapEnd`, `Course.laps`: the courses there are on a clip, and where they end;
* `plays_run`, `laps_run`: sessions on clips;
* `LapEnd.of_unended`, `LapEnd.of_looped`: how they end when no poll ends them, or only a poll can.
-/

namespace DetectionLink

variable {σ : Type} {H : Host σ}

/-! ## Passes through a clip -/

/-- The first frames of a clip. -/
def clipShots (count : Nat) : List (Shot Nat) := (List.range count).map (⟨·, none⟩)

theorem length_clipShots (count : Nat) : (clipShots count).length = count := by
  rw [clipShots, List.length_map, List.length_range]

theorem clipShots_succ (count : Nat) :
    clipShots (count + 1) = clipShots count ++ [⟨count, none⟩] := by
  rw [clipShots, List.range_succ, List.map_append]
  rfl

namespace Passes

/-- Whole passes through a clip, and the first frames of one more. -/
def ofLaps (frames laps rest : Nat) : Passes Nat :=
  ⟨List.replicate laps (clipShots frames), clipShots rest⟩

theorem frames_ofLaps (frames laps rest : Nat) :
    (ofLaps frames laps rest).frames = laps * frames + rest := by
  simp [Passes.frames, lengths, all, ofLaps, length_clipShots]

/-- Of the first frames of a clip those are due whose number the interval divides. -/
theorem dueIn_clipShots {interval : Nat} (positive : 0 < interval) (count : Nat) :
    dueIn interval (clipShots count) = (List.range ((count + interval - 1) / interval)).map
      fun turn => (⟨interval * turn, none⟩, interval * turn) := by
  induction count with
  | zero =>
    rw [Nat.div_eq_of_lt (by omega)]
    rfl
  | succ count ih =>
    rw [clipShots_succ, dueIn_concat, ih, length_clipShots, turns_succ _ _ positive]
    split
    · next divides =>
      obtain ⟨turn, rfl⟩ := divides
      have turns : (interval * turn + interval - 1) / interval = turn := by
        rw [Nat.add_sub_assoc positive, Nat.mul_add_div positive, Nat.div_eq_of_lt (by omega),
          Nat.add_zero]
      rw [turns, List.range_succ, List.map_append]
      rfl
    · rw [List.append_nil, Nat.add_zero]

theorem due_ofLaps (interval frames laps rest : Nat) :
    (ofLaps frames laps rest).due interval =
      (List.replicate laps (dueIn interval (clipShots frames))).flatten ++
        dueIn interval (clipShots rest) := by
  rw [due, all, ofLaps, List.flatMap_append, List.flatMap_singleton, List.flatMap_def,
    List.map_replicate]

end Passes

/-! ## Answers of a clip -/

/-- The answers of a clip, and what becomes of it. -/
inductive Plays : SyntheticClip → List (Event Nat) → SyntheticClip → Prop
  | still {c : SyntheticClip} : Plays c [] c
  | pulled {c c' : SyntheticClip} {rest : List (Event Nat)} (later : Plays c.next.2 rest c') :
      Plays c (.pulled c.next.1 none :: rest) c'
  | rewound {c c' : SyntheticClip} {rest : List (Event Nat)} (later : Plays c.rewind rest c') :
      Plays c (.rewound true :: rest) c'

theorem Plays.trans {c c' c'' : SyntheticClip} {answers more : List (Event Nat)}
    (h : Plays c answers c') (k : Plays c' more c'') : Plays c (answers ++ more) c'' := by
  induction h with
  | still => exact k
  | pulled _ ih => exact .pulled (ih k)
  | rewound _ ih => exact .rewound (ih k)

/-- A clip that is asked for a frame has that of its place, or is at its end. -/
theorem Plays.of_pulled {frames index : Nat} {frame : Option Nat} {position : Option Binary64}
    {rest : List (Event Nat)} {c' : SyntheticClip}
    (h : Plays ⟨frames, index⟩ (.pulled frame position :: rest) c') :
    position = none ∧
      ((index < frames ∧ frame = some index ∧ Plays ⟨frames, index + 1⟩ rest c') ∨
        (frames ≤ index ∧ frame = none ∧ Plays ⟨frames, index⟩ rest c')) := by
  cases h with
  | pulled later =>
    refine ⟨rfl, ?_⟩
    by_cases more : index < frames
    · have next : SyntheticClip.next ⟨frames, index⟩ = (some index, ⟨frames, index + 1⟩) := by
        rw [SyntheticClip.next, if_pos more]
      rw [next] at later ⊢
      exact .inl ⟨more, rfl, later⟩
    · have next : SyntheticClip.next ⟨frames, index⟩ = (none, ⟨frames, index⟩) := by
        rw [SyntheticClip.next, if_neg more]
      rw [next] at later ⊢
      exact .inr ⟨Nat.le_of_not_lt more, rfl, later⟩

theorem Plays.of_rewound {frames index : Nat} {succeeded : Bool} {rest : List (Event Nat)}
    {c' : SyntheticClip} (h : Plays ⟨frames, index⟩ (.rewound succeeded :: rest) c') :
    succeeded = true ∧ Plays ⟨frames, 0⟩ rest c' := by
  cases h with
  | rewound later => exact ⟨rfl, later⟩

namespace Session

/-! ## Laps -/

/-- How a session goes on, from a place of its pass through a clip: after so many polls one of them
ends it, in the middle of a lap; or it gets to the end of the clip, and does not loop. -/
inductive LapEnd (loop : Bool) (frames index : Nat) :
    List (Option SessionEnd) → SessionEnd → Nat → Nat → Prop
  | polled (polls : Nat) {laps rest : Nat} {ending : SessionEnd} (within : rest ≤ frames)
      (total : polls + index = laps * (frames + 1) + rest) :
      LapEnd loop frames index (List.replicate polls none ++ [some ending]) ending laps rest
  | exhausted (polls : Nat) (onlyOnce : loop = false ∨ frames = 0)
      (total : polls + index = frames) :
      LapEnd loop frames index (List.replicate (polls + 1) none) .endOfMedia 0 frames

/-- The courses on a clip: each rewind ends a whole pass, and the last pass is the start of one. -/
theorem Course.laps {loop : Bool} {frames index : Nat} {verdicts : List (Option SessionEnd)}
    {answers : List (Event Nat)} {ending : SessionEnd} {clip' : SyntheticClip}
    (course : Course loop index verdicts answers ending)
    (played : Plays ⟨frames, index⟩ answers clip') (inside : index ≤ frames) :
    ∃ laps rest, LapEnd loop frames index verdicts ending laps rest ∧ ∀ finished,
      answers.foldl Passes.add ⟨finished, clipShots index⟩ =
        ⟨finished ++ List.replicate laps (clipShots frames), clipShots rest⟩ := by
  induction course with
  | @ended index _ =>
    refine ⟨0, index, .polled 0 inside (by omega), fun finished => ?_⟩
    rw [List.replicate_zero, List.append_nil]
    rfl
  | @exhausted index _ onlyOnce =>
    obtain ⟨-, more | ⟨atEnd, -⟩⟩ := played.of_pulled
    · cases more.2.1
    · obtain rfl := Nat.le_antisymm inside atEnd
      refine ⟨0, index, .exhausted 0 onlyOnce (Nat.zero_add _), fun finished => ?_⟩
      rw [List.replicate_zero, List.append_nil]
      rfl
  | stuck _ _ =>
    obtain ⟨-, more | ⟨-, -, played⟩⟩ := played.of_pulled
    · cases more.2.1
    · cases played.of_rewound.1
  | @rewound index _ _ _ _ loops nonempty _ ih =>
    obtain ⟨-, more | ⟨atEnd, -, played⟩⟩ := played.of_pulled
    · cases more.2.1
    · obtain rfl := Nat.le_antisymm inside atEnd
      obtain ⟨laps, rest, ends, passed⟩ := ih played.of_rewound.2 (Nat.zero_le _)
      refine ⟨laps + 1, rest, ?_, fun finished => ?_⟩
      · cases ends with
        | polled polls within total =>
          exact .polled (polls + 1) within (by rw [Nat.succ_mul]; omega)
        | exhausted _ onlyOnce _ => exact absurd onlyOnce (by simp [loops, nonempty])
      · rw [List.replicate_succ, List.append_cons]
        exact passed (finished ++ [clipShots index])
  | @frame index _ _ _ _ _ _ ih =>
    obtain ⟨rfl, ⟨more, same, played⟩ | none⟩ := played.of_pulled
    · obtain rfl := Option.some.inj same
      obtain ⟨laps, rest, ends, passed⟩ := ih played more
      refine ⟨laps, rest, ?_, fun finished => ?_⟩
      · cases ends with
        | polled polls within total =>
          exact .polled (polls + 1) within (by omega)
        | exhausted polls onlyOnce total =>
          exact .exhausted (polls + 1) onlyOnce (by omega)
      · rw [← passed finished, clipShots_succ]
        rfl
    · cases none.2.1

/-- What a session got of its clip between two states. -/
def Replayed (r r' : Running (Traced σ Nat) SyntheticClip) : Prop :=
  ∃ answers, replies r'.world.trace = replies r.world.trace ++ answers ∧
    Plays r.source answers r'.source

namespace Replayed

variable {r r' r'' : Running (Traced σ Nat) SyntheticClip}

theorem of_same (same : replies r'.world.trace = replies r.world.trace)
    (source : r'.source = r.source) : Replayed r r' :=
  ⟨[], same.trans (List.append_nil _).symm, source ▸ .still⟩

theorem trans (h : Replayed r r') (k : Replayed r' r'') : Replayed r r'' := by
  obtain ⟨answers, grown, played⟩ := h
  obtain ⟨more, grown', played'⟩ := k
  exact ⟨answers ++ more, by rw [grown', grown, List.append_assoc], played.trans played'⟩

/-- A log record on top. -/
theorem noted (h : Replayed r r') (record : Record) :
    Replayed r (r'.note (H.traced Nat) record) :=
  h.trans (of_same (replies_quiet (happened_note H _ record)) rfl)

end Replayed

/-- At its end a clip is taken back to its start, or the session is over. -/
theorem replayed_atEnd (plan : Plan) (r : Running (Traced σ Nat) SyntheticClip) :
    Replayed r (atEnd (SyntheticClip.media H).traced plan r).running := by
  have unmoved : Replayed r r := .of_same rfl rfl
  unfold atEnd
  split
  · exact unmoved
  · split
    · exact unmoved.noted (H := H) _
    · have back : Replayed r
          { r with
            source := ((SyntheticClip.media H).traced.rewind r.source r.world).2.1
            world := ((SyntheticClip.media H).traced.rewind r.source r.world).2.2 } :=
        ⟨[.rewound true], replies_append _ _, .rewound .still⟩
      exact back.noted (H := H) _

theorem follows_replayed (plan : Plan) :
    Follows (SyntheticClip.media H) plan Replayed where
  of_same := .of_same
  trans := .trans
  next r := ⟨[.pulled r.source.next.1 none], replies_append _ _, .pulled .still⟩
  atEnd := replayed_atEnd plan

/-- What a session gets of its source, if that is a clip. -/
theorem plays_run (D : Detector H Nat) (settings : SessionSettings) (start : StartCommand)
    (k : Client) {w : σ} {clip : SyntheticClip}
    (opened : ((SyntheticClip.media H).opening start w).1 = .ok clip) :
    ∃ clip', Plays clip (replies (run (SyntheticClip.media H).traced D.traced settings start k
      (.start w)).2.2.trace) clip' := by
  have follows : Follows (SyntheticClip.media H) (planOf settings start none) Replayed :=
    follows_replayed _
  obtain ⟨begun, ended, ⟨answers, got, played⟩, same, none, all⟩ := follows.run D k opened
  rw [none, List.nil_append] at got
  rw [same] at played
  rw [all, got]
  exact ⟨ended.source, played⟩

/-- A session with complete writes on a clip: it makes whole passes, and the start of one more. -/
theorem laps_run {D : Detector H Nat} {settings : SessionSettings} {start : StartCommand}
    {k : Client} {w : σ} {find : Nat → List RawDetection} {frames : Nat}
    (smooth : Smooth (SyntheticClip.media H) D settings start k w find)
    (opened : ((SyntheticClip.media H).opening start w).1 = .ok (.ofFrames frames)) :
    let done := run (SyntheticClip.media H).traced D.traced settings start k (.start w)
    ∃ laps rest,
      LapEnd start.loop frames 0 (verdictsOf (SyntheticClip.media H) D settings start k w)
        done.1.ending laps rest ∧
      passes done.2.2.trace = .ofLaps frames laps rest := by
  intro done
  obtain ⟨clip', played⟩ := plays_run D settings start k opened
  obtain ⟨laps, rest, ends, passed⟩ :=
    (course_run smooth opened).laps played (Nat.zero_le frames)
  refine ⟨laps, rest, ends, ?_⟩
  rw [← passes_replies]
  exact passed []

/-! ## How sessions on clips end -/

/-- Polls do not end the media. -/
theorem verdict_ne_endOfMedia (event : CommandEvent) : event.verdict ≠ some .endOfMedia := by
  cases event with
  | disconnected => exact nofun
  | noCommand => exact nofun
  | command command => cases command <;> exact nofun

section Runs

variable {M : Media H SyntheticClip Nat} {D : Detector H Nat} {settings : SessionSettings}
  {start : StartCommand} {k : Client} {w : σ} {loop : Bool} {frames index laps rest : Nat}
  {ending : SessionEnd}

/-- A verdict that ends a session is that of a poll. -/
theorem exists_poll_of_verdict (connected : k.isConnected = true)
    (ended : some ending ∈ verdictsOf M D settings start k w) :
    ∃ event ∈ pollsOf M D settings start k w, event.verdict = some ending := by
  rw [verdictsOf, if_pos connected] at ended
  exact List.mem_map.mp ended

/-- Without a poll that ends it, a session gets to the end of its clip. -/
theorem LapEnd.of_unended (connected : k.isConnected = true)
    (ends : LapEnd loop frames index (verdictsOf M D settings start k w) ending laps rest)
    (unended : ∀ event ∈ pollsOf M D settings start k w, event.verdict = none) :
    (loop = false ∨ frames = 0) ∧ ending = .endOfMedia ∧ laps = 0 ∧ rest = frames := by
  generalize all : verdictsOf M D settings start k w = verdicts at ends
  cases ends with
  | exhausted _ onlyOnce _ => exact ⟨onlyOnce, rfl, rfl, rfl⟩
  | polled _ _ _ =>
    obtain ⟨event, mem, ended⟩ := exists_poll_of_verdict connected
      (all ▸ List.mem_append_right _ (List.mem_singleton_self (some ending)))
    cases ended.symm.trans (unended event mem)

/-- Only a poll ends a session that plays its clip again and again. -/
theorem LapEnd.of_looped (connected : k.isConnected = true)
    (ends : LapEnd true frames 0 (verdictsOf M D settings start k w) ending laps rest)
    (nonempty : 0 < frames) :
    rest ≤ frames ∧ ending ≠ .endOfMedia ∧
      verdictsOf M D settings start k w =
        List.replicate (laps * (frames + 1) + rest) none ++ [some ending] := by
  generalize all : verdictsOf M D settings start k w = verdicts at ends ⊢
  cases ends with
  | exhausted _ onlyOnce _ => exact absurd onlyOnce (by simp [Nat.ne_of_gt nonempty])
  | polled polls within total =>
    obtain ⟨event, -, ended⟩ := exists_poll_of_verdict connected
      (all ▸ List.mem_append_right _ (List.mem_singleton_self (some ending)))
    refine ⟨within, ?_, by rw [← total, Nat.add_zero]⟩
    rintro rfl
    exact verdict_ne_endOfMedia event ended

/-- Two unknown commands and a stop that wait end a session by its third poll. -/
theorem ended_crowdedClient {polls : Nat}
    (said : verdictsOf M D settings start crowdedClient w =
      List.replicate polls none ++ [some ending]) : polls = 2 ∧ ending = .stopped := by
  have polled : verdictsOf M D settings start crowdedClient w <+: [none, none, some .stopped] :=
    verdictsOf_isPrefix (polls_crowdedClient M D settings start w)
  obtain ⟨more, all⟩ := said ▸ polled
  have ended := congrArg (·[polls]?) all
  match polls with
  | 0 | 1 | _ + 3 => simp at ended
  | 2 => exact ⟨rfl, by simpa using ended⟩

end Runs

end Session
end DetectionLink
