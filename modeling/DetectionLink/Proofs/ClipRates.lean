import DetectionLink.Proofs.Canonical
import DetectionLink.Proofs.MediaTime
import DetectionLink.Proofs.SettingsInUse
import DetectionLink.Proofs.Trace
import DetectionLink.Simulation.Clip

/-!
# The length of a clip and the rate it is played at

A clip is opened for a number of seconds at the rate asked for, and the session that plays it has a
rate of its own. Both take the rate of the start command if it says something. If it does not, the
clip takes the standard rate, and the session the one of its settings.

* `toCount_round`: numbers that are rounded and counted;
* `Lasts`, `lasts_mul`: so many frames for so many seconds, up to half a frame and one rounding;
* `clipRate`, `RatesAgree`, `planOf_fps_eq_iff`: the two choices, and when they are the same;
* `clip_lasts_iff_rates_agree`: clips in sessions with valid settings; `clip_overruns_session`:
  where the rates differ.
-/

namespace DetectionLink

open Binary64 (unitsPerOne units nearestRank binade)

/-! ## Whole numbers of frames -/

theorem roundHalfUp_spec (num : Nat) {den : Nat} (positive : 0 < den) :
    roundHalfUp num den * (2 * den) ≤ 2 * num + den ∧
      2 * num + den < (roundHalfUp num den + 1) * (2 * den) :=
  ⟨Nat.div_mul_le_self _ _,
    (Nat.div_lt_iff_lt_mul (Nat.mul_pos Nat.two_pos positive)).mp (Nat.lt_succ_self _)⟩

/-- A double of at least `2 ^ 52` steps is a whole number of them. -/
theorem pow_dvd_units {bits rank : Nat} (large : 2 ^ bits * binade ≤ units rank) :
    2 ^ bits ∣ units rank := by
  obtain ⟨shift, v, rfl, low, high⟩ := Binary64.exists_scaled rank
  rw [Binary64.units_scaled low (Nat.le_of_lt high)] at large ⊢
  have wide : bits ≤ shift := by
    by_contra narrow
    have spacing : 2 ^ shift * 2 ≤ 2 ^ bits := by
      rw [← Nat.pow_succ]
      exact Nat.pow_le_pow_right (by decide) (by omega)
    have less : v * 2 ^ shift * 2 < 2 ^ bits * binade * 2 := by
      calc v * 2 ^ shift * 2 = v * (2 ^ shift * 2) := Nat.mul_assoc ..
        _ < 2 * binade * 2 ^ bits := Nat.mul_lt_mul_of_lt_of_le high spacing (Nat.two_pow_pos _)
        _ = 2 ^ bits * binade * 2 := by ring
    exact absurd (Nat.mul_le_mul_right 2 large) (Nat.not_le.mpr less)
  exact Nat.dvd_mul_left_of_dvd (Nat.pow_dvd_pow 2 wide) v

theorem unitsPerOne_dvd_units {rank : Nat} (large : unitsPerOne * binade ≤ units rank) :
    unitsPerOne ∣ units rank := by
  have power (bits : Nat) (large : 1 <<< bits * binade ≤ units rank) : 1 <<< bits ∣ units rank := by
    rw [Nat.one_shiftLeft] at large ⊢
    exact pow_dvd_units large
  exact power 1074 large

/-- A number that is rounded and counted: the nearest whole number, a half going up, unless that is
beyond the largest count. -/
theorem toCount_round (rank : Fin 0x7FF0000000000000) :
    (Binary64.finite false rank).round.toCount =
      min (roundHalfUp (units rank) unitsPerOne) (UInt64.size - 1) := by
  have one : 0 < unitsPerOne := unitsPerOne_pos
  obtain ⟨least, most⟩ := roundHalfUp_spec (units rank) one
  -- a number below `2 ^ 53` is a double, and from there on nothing is rounded
  rcases Nat.lt_or_ge (roundHalfUp (units rank) unitsPerOne) (2 ^ 53) with small | large
  · obtain ⟨whole, rounded, value⟩ := Json.ofRatio_small false small
    rw [Binary64.round, rounded, Binary64.toCount, if_neg Bool.false_ne_true, value,
      Nat.mul_div_cancel_left _ one]
  · have beyond : unitsPerOne * binade ≤ units rank := by
      have many : 2 * binade * (2 * unitsPerOne) ≤ 2 * units rank + unitsPerOne :=
        (Nat.mul_le_mul_right _ large).trans least
      have some : unitsPerOne ≤ unitsPerOne * binade := Nat.le_mul_of_pos_right _ (by decide)
      have same : 2 * binade * (2 * unitsPerOne) = 4 * (unitsPerOne * binade) := by ring
      omega
    obtain ⟨count, value⟩ := unitsPerOne_dvd_units beyond
    have exact : roundHalfUp (units rank) unitsPerOne = count := by
      refine roundHalfUp_eq ?_ ?_
      · rw [value, Nat.mul_left_comm]
        omega
      · rw [value, Nat.mul_left_comm]
        omega
    rw [exact, Binary64.round, exact, Binary64.ofRatio, Binary64.ofUnits, ← value,
      Binary64.nearestRank_units, Binary64.ofRank_finite, Binary64.toCount,
      if_neg Bool.false_ne_true, value, Nat.mul_div_cancel_left _ one]

/-! ## How long a clip lasts -/

/-- So many frames last for a number of seconds at a rate: they are the product of the two up to
half a frame, and up to `2 ^ -53` of them and of one more for the rounding of the product. -/
def Lasts (frames : Nat) (seconds rate : Binary64) : Prop :=
  ∃ a b, seconds = .finite false a ∧ rate = .finite false b ∧
    binade * (2 * (units a * units b)) ≤
      (binade * (2 * frames + 1) + frames + 1) * (unitsPerOne * unitsPerOne) ∧
    binade * (2 * frames) * (unitsPerOne * unitsPerOne) ≤
      binade * (2 * (units a * units b)) + (binade + frames + 1) * (unitsPerOne * unitsPerOne)

/-- The two roundings put together: of a product to a double, and of that to a whole number. -/
theorem within_half {exact product count one : Nat} (fine : 2 * binade ≤ one)
    (below : binade * (2 * exact) ≤ (2 * (binade * product) + product + binade) * one)
    (above : 2 * (binade * product) * one ≤ binade * (2 * exact) + (product + binade) * one)
    (least : count * (2 * one) ≤ 2 * product + one)
    (most : 2 * product + one < (count + 1) * (2 * one)) :
    binade * (2 * exact) ≤ (binade * (2 * count + 1) + count + 1) * (one * one) ∧
      binade * (2 * count) * (one * one) ≤
        binade * (2 * exact) + (binade + count + 1) * (one * one) := by
  have rest : product + binade ≤ (count + 1) * one := by
    rw [Nat.mul_left_comm] at most
    omega
  have half : 2 * product ≤ (2 * count + 1) * one := by
    have same : (count + 1) * (2 * one) = (2 * count + 1) * one + one := by ring
    omega
  constructor
  · calc binade * (2 * exact) ≤ (binade * (2 * product) + (product + binade)) * one :=
          below.trans_eq (by ring)
      _ ≤ (binade * ((2 * count + 1) * one) + (count + 1) * one) * one :=
          Nat.mul_le_mul_right one (Nat.add_le_add (Nat.mul_le_mul_left binade half) rest)
      _ = _ := by ring
  · calc binade * (2 * count) * (one * one) = binade * (count * (2 * one)) * one := by ring
      _ ≤ binade * (2 * product + one) * one :=
          Nat.mul_le_mul_right one (Nat.mul_le_mul_left binade least)
      _ = 2 * (binade * product) * one + binade * (one * one) := by ring
      _ ≤ binade * (2 * exact) + (product + binade) * one + binade * (one * one) :=
          Nat.add_le_add_right above _
      _ ≤ binade * (2 * exact) + (count + 1) * one * one + binade * (one * one) :=
          Nat.add_le_add_right (Nat.add_le_add_left (Nat.mul_le_mul_right one rest) _) _
      _ = _ := by ring

theorem exists_rank_of_positive {x : Binary64} (finite : x.isFinite = true)
    (positive : Binary64.zero.lt x = true) : ∃ rank, x = .finite false rank := by
  cases x with
  | nan => cases finite
  | infinite negative => cases finite
  | finite negative rank =>
    cases negative with
    | false => exact ⟨rank, rfl⟩
    | true =>
      simp [Binary64.lt, Binary64.zero, Binary64.place] at positive
      omega

/-- A product that is rounded and counted lasts, unless it is beyond the largest count. -/
theorem lasts_mul {a b : Fin 0x7FF0000000000000}
    (fits : ((Binary64.finite false a).mul (.finite false b)).round.toCount < UInt64.size - 1) :
    Lasts ((Binary64.finite false a).mul (.finite false b)).round.toCount (.finite false a)
      (.finite false b) := by
  have one : 0 < unitsPerOne := unitsPerOne_pos
  have product : (Binary64.finite false a).mul (.finite false b) =
      Binary64.ofRank false (nearestRank (units a * units b) unitsPerOne) := rfl
  rcases Nat.lt_or_ge (nearestRank (units a * units b) unitsPerOne) 0x7FF0000000000000 with
    inside | beyond
  · rw [product, Binary64.ofRank_finite ⟨_, inside⟩, toCount_round] at fits ⊢
    rw [min_eq_left (by omega)]
    have fine : 2 * binade ≤ unitsPerOne :=
      (Nat.mul_le_mul_right binade (by decide)).trans million_binades_le
    obtain ⟨below, above⟩ := close_of_isNearest
      (Binary64.isNearest_nearestRank (units a * units b) one)
    obtain ⟨least, most⟩ := roundHalfUp_spec (units (nearestRank (units a * units b) unitsPerOne))
      one
    exact ⟨a, b, rfl, rfl, within_half fine below above least most⟩
  · rw [product, Binary64.ofRank_infinite beyond] at fits
    exact absurd fits (by decide)

/-! ## Two choices of a rate -/

/-- The rate that a clip is opened at. -/
def clipRate (start : StartCommand) : Binary64 :=
  if usableFps start.fps then start.fps else standardFps

/-- A clip and the session that plays it choose one rate: the start command has one, or the settings
have none to offer but the standard one. -/
inductive RatesAgree (settings : SessionSettings) (start : StartCommand) : Prop
  | asked (usable : usableFps start.fps = true)
  | noneOffered (tiny : fpsEpsilon.lt settings.defaultFps = false)
  | standard (same : settings.defaultFps = standardFps)

theorem ratesAgree_iff (settings : SessionSettings) (start : StartCommand) :
    RatesAgree settings start ↔ usableFps start.fps = true ∨
      fpsEpsilon.lt settings.defaultFps = false ∨ settings.defaultFps = standardFps := by
  constructor
  · rintro (usable | tiny | same)
    · exact .inl usable
    · exact .inr (.inl tiny)
    · exact .inr (.inr same)
  · rintro (usable | tiny | same)
    · exact .asked usable
    · exact .noneOffered tiny
    · exact .standard same

theorem usableFps_clipRate (start : StartCommand) : usableFps (clipRate start) = true := by
  unfold clipRate
  split
  · assumption
  · decide +kernel

variable {σ : Type} (H : Host σ)

theorem opening_eq (start : StartCommand) (w : σ) :
    ((SyntheticClip.media H).opening start w).1 = SyntheticClip.ofStart start := by
  show (SyntheticClip.opening H start w).1 = _
  unfold SyntheticClip.opening
  cases SyntheticClip.ofStart start <;> rfl

/-- Any path that is not blank opens a clip, as long as the start command asks for. -/
theorem ofStart_eq_ok_iff {start : StartCommand} {clip : SyntheticClip} :
    SyntheticClip.ofStart start = .ok clip ↔
      trim start.videoPath.toList ≠ [] ∧
        clip = .ofFrames (syntheticFrameCount start.durationSec start.fps) := by
  unfold SyntheticClip.ofStart
  split
  · next blank => simp [List.isEmpty_iff.mp blank]
  · next some =>
    have some : trim start.videoPath.toList ≠ [] := fun none => some (List.isEmpty_iff.mpr none)
    simp [some, eq_comm]

theorem planOf_fps (settings : SessionSettings) (start : StartCommand) :
    (Session.planOf settings start none).fps =
      if usableFps start.fps then start.fps
      else if usableFps settings.defaultFps then settings.defaultFps else standardFps := rfl

/-- The rate of valid settings is usable unless it is tiny. -/
theorem usableFps_defaultFps {s : Settings} (valid : s.validate = .ok ()) :
    usableFps s.session.defaultFps = fpsEpsilon.lt s.session.defaultFps := by
  rw [usableFps, s.isFinite_defaultFps valid, Bool.true_and]

theorem planOf_fps_eq_iff {s : Settings} (valid : s.validate = .ok ()) (start : StartCommand) :
    (Session.planOf s.session start none).fps = clipRate start ↔ RatesAgree s.session start := by
  rw [planOf_fps, clipRate, ratesAgree_iff, usableFps_defaultFps valid]
  cases usableFps start.fps with
  | true => simp
  | false => cases fpsEpsilon.lt s.session.defaultFps <;> simp

theorem planOf_fps_of_not_agree {s : Settings} (valid : s.validate = .ok ()) {start : StartCommand}
    (apart : ¬ RatesAgree s.session start) :
    (Session.planOf s.session start none).fps = s.session.defaultFps ∧
      clipRate start = standardFps := by
  rw [ratesAgree_iff, not_or, not_or] at apart
  obtain ⟨notAsked, above, -⟩ := apart
  rw [planOf_fps, clipRate, usableFps_defaultFps valid]
  simp [notAsked, above]

theorem syntheticFrameCount_eq {start : StartCommand} (finite : start.durationSec.isFinite = true)
    (positive : Binary64.zero.lt start.durationSec = true) :
    syntheticFrameCount start.durationSec start.fps =
      (start.durationSec.mul (clipRate start)).round.toCount := by
  rw [syntheticFrameCount, finite, positive]
  rfl

/-- Settings that are valid, and a start command with a time: its clip has the frames of that time
at the rate of the session if the two choose one rate, and lasts for it then. They do unless the
settings have a rate of their own and the start command has none; the session takes that rate then,
and the clip the standard one. -/
theorem clip_lasts_iff_rates_agree {s : Settings} (valid : s.validate = .ok ())
    {start : StartCommand} (finite : start.durationSec.isFinite = true)
    (positive : Binary64.zero.lt start.durationSec = true) (w : σ) :
    let M := SyntheticClip.media H
    let opened := (M.opening start w).1
    ((∃ clip, opened = .ok clip) ↔ trim start.videoPath.toList ≠ []) ∧
    ∀ clip, opened = .ok clip →
      let used := (Session.planOf s.session start (M.rate clip)).fps
      (used = clipRate start ↔ RatesAgree s.session start) ∧
      (RatesAgree s.session start →
        clip.frames = (start.durationSec.mul used).round.toCount ∧
        (clip.frames < UInt64.size - 1 → Lasts clip.frames start.durationSec used)) ∧
      (¬ RatesAgree s.session start →
        used = s.session.defaultFps ∧
        clip.frames = (start.durationSec.mul standardFps).round.toCount) := by
  intro M opened
  have ofStart : opened = SyntheticClip.ofStart start := opening_eq H start w
  have frames := syntheticFrameCount_eq finite positive
  rw [ofStart]
  refine ⟨?_, fun clip made => ?_⟩
  · simp [ofStart_eq_ok_iff]
  · obtain ⟨-, rfl⟩ := ofStart_eq_ok_iff.mp made
    intro used
    have agreed : used = clipRate start ↔ RatesAgree s.session start :=
      planOf_fps_eq_iff valid start
    refine ⟨agreed, fun agree => ?_, fun apart => ?_⟩
    · rw [agreed.mpr agree]
      refine ⟨frames, fun fits => ?_⟩
      obtain ⟨a, seconds⟩ := exists_rank_of_positive finite positive
      obtain ⟨b, rate, -⟩ := exists_rank_of_usableFps (usableFps_clipRate start)
      have fits : (start.durationSec.mul (clipRate start)).round.toCount < UInt64.size - 1 :=
        frames ▸ fits
      have count : (SyntheticClip.ofFrames (syntheticFrameCount start.durationSec start.fps)).frames
          = (start.durationSec.mul (clipRate start)).round.toCount := frames
      rw [count]
      rw [seconds, rate] at fits ⊢
      exact lasts_mul fits
    · obtain ⟨own, standard⟩ := planOf_fps_of_not_agree valid apart
      exact ⟨own, standard ▸ frames⟩

/-- Two seconds and a half at the rate asked for, which is not the one of the settings. -/
theorem clip_lasts_of_asked_rate :
    let s := withDefaultFps (.ofNat 10)
    let start : StartCommand :=
      ⟨"clip", (⟨false, 25, -1⟩ : Decimal).toBinary64, (⟨false, 125, -1⟩ : Decimal).toBinary64,
        false, none⟩
    let M := SyntheticClip.media Script.host
    (s.validate = .ok () ∧ start.durationSec.isFinite = true ∧
      Binary64.zero.lt start.durationSec = true ∧ RatesAgree s.session start) ∧
    (M.opening start ⟨[], []⟩).1 = .ok (.ofFrames 31) ∧
    Lasts 31 start.durationSec (Session.planOf s.session start none).fps := by
  intro s start M
  have valid : s.validate = .ok () := by decide +kernel
  have finite : start.durationSec.isFinite = true := by decide +kernel
  have positive : Binary64.zero.lt start.durationSec = true := by decide +kernel
  have asked : RatesAgree s.session start := .asked (by decide +kernel)
  have opened : (M.opening start ⟨[], []⟩).1 = .ok (.ofFrames 31) := by decide +kernel
  obtain ⟨-, lasts⟩ := clip_lasts_iff_rates_agree Script.host valid finite positive ⟨[], []⟩
  obtain ⟨-, agree, -⟩ := lasts _ opened
  exact ⟨⟨valid, finite, positive, asked⟩, opened, (agree asked).2 (by decide)⟩

/-- A clip of one second need not last for one second: without a rate of its own, in a session of
ten frames each second, it has thirty frames. And where the rates agree, the product of seven tenths
of a second and five frames each second is rounded before it is halved: four frames are more than
half a frame too many. -/
theorem clip_overruns_session :
    (let s := withDefaultFps (.ofNat 10)
    let start : StartCommand := ⟨"clip", .one, .zero, false, none⟩
    let M := SyntheticClip.media Script.host
    let used := (Session.planOf s.session start none).fps
    s.validate = .ok () ∧ (M.opening start ⟨[], []⟩).1 = .ok (.ofFrames 30) ∧
      used = .ofNat 10 ∧ (start.durationSec.mul used).round.toCount = 10) ∧
    let a : Fin 0x7FF0000000000000 := ⟨0x3FE6666666666666, by decide⟩
    let b : Fin 0x7FF0000000000000 := ⟨0x4014000000000000, by decide⟩
    (⟨false, 7, -1⟩ : Decimal).toBinary64 = .finite false a ∧ Binary64.ofNat 5 = .finite false b ∧
      syntheticFrameCount (.finite false a) (.finite false b) = 4 ∧
      2 * (units a * units b) + unitsPerOne * unitsPerOne < 8 * (unitsPerOne * unitsPerOne) := by
  decide +kernel

end DetectionLink
