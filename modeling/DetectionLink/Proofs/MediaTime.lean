import DetectionLink.Proofs.Thousandths
import DetectionLink.Session.Pacing

/-!
# The time of a frame

A frame without a position is timed by its place in the pass. Its time is computed in doubles, in
five steps, each of which rounds; each of them keeps the order, so a later frame is not timed
before an earlier one. The rate that is divided by is never zero, whatever was asked for.

* `usableFps_effectiveFps`, `exists_rank_of_usableFps`: the rate of a session is positive;
* `noFrames_div`: no frames take no time;
* `AtMost`: the order of numbers that are not negative, infinity included, and what keeps it;
* `frameTimestampMs_mono`, `frameTimestampMs_first`: the times of frames.
-/

namespace DetectionLink

open Binary64 (unitsPerOne units nearestRank ofRank)

/-! ## Rates -/

theorem usableFps_effectiveFps (source : Option Binary64) (requested fallback : Binary64) :
    usableFps (effectiveFps source requested fallback) = true := by
  unfold effectiveFps
  split
  · next fps given => exact (Option.filter_eq_some_iff.mp given).2
  · split
    · assumption
    · split
      · assumption
      · decide +kernel

theorem fpsEpsilon_eq : fpsEpsilon = .finite false ⟨0x3F50624DD2F1A9FC, by decide⟩ := by
  decide +kernel

/-- A rate is positive. -/
theorem exists_rank_of_usableFps {fps : Binary64} (usable : usableFps fps = true) :
    ∃ rank, fps = .finite false rank ∧ rank.val ≠ 0 := by
  cases fps with
  | nan => cases usable
  | infinite negative => cases usable
  | finite negative rank =>
    rw [usableFps, fpsEpsilon_eq] at usable
    cases negative with
    | true =>
      simp [Binary64.isFinite, Binary64.lt, Binary64.place] at usable
      omega
    | false =>
      simp [Binary64.isFinite, Binary64.lt, Binary64.place] at usable
      exact ⟨rank, rfl, by omega⟩

theorem ofUnits_zero (den : Nat) : Binary64.ofUnits false 0 den = .zero := by
  simp [Binary64.ofUnits, Binary64.nearestRank, roundHalfEven, Binary64.ofRank, Binary64.zero]

/-- No frames take no time, at any rate there is. -/
theorem noFrames_div {fps : Binary64} (usable : usableFps fps = true) :
    (Binary64.ofNat 0).div fps = .zero := by
  obtain ⟨rank, rfl, some⟩ := exists_rank_of_usableFps usable
  have zero : Binary64.ofNat 0 = .finite false ⟨0, by decide⟩ := by decide +kernel
  rw [zero, Binary64.div, if_neg some, Binary64.units_zero, Nat.mul_zero]
  exact ofUnits_zero _

/-! ## What keeps the order -/

namespace Binary64

theorem ofRank_finite (rank : Fin 0x7FF0000000000000) :
    ofRank false rank = .finite false rank :=
  dif_pos rank.isLt

theorem ofRank_infinite {rank : Nat} (beyond : infinityRank ≤ rank) :
    ofRank false rank = .infinite false :=
  dif_neg (Nat.not_lt.mpr beyond)

/-- Neither is negative or the NaN, and the first is not above the other. -/
def AtMost (x y : Binary64) : Prop :=
  ∃ a b, a ≤ b ∧ x = ofRank false a ∧ y = ofRank false b

/-- What maps the ranks in their order, and the infinity to itself, keeps the order. -/
theorem AtMost.map {x y : Binary64} {f : Binary64 → Binary64} {g : Nat → Nat}
    (finite : ∀ a, f (.finite false a) = ofRank false (g a))
    (infinite : f (.infinite false) = .infinite false) (mono : Monotone g) (h : AtMost x y) :
    AtMost (f x) (f y) := by
  obtain ⟨a, b, order, rfl, rfl⟩ := h
  have mapped {a : Nat} (low : a < infinityRank) : f (ofRank false a) = ofRank false (g a) := by
    rw [ofRank_finite ⟨a, low⟩, finite]
  have kept {a : Nat} (beyond : infinityRank ≤ a) : f (ofRank false a) = .infinite false := by
    rw [ofRank_infinite beyond, infinite]
  rcases Nat.lt_or_ge a infinityRank with low | beyond
  · rw [mapped low]
    rcases Nat.lt_or_ge b infinityRank with low' | beyond'
    · exact ⟨g a, g b, mono order, rfl, mapped low'⟩
    · refine ⟨g a, max (g a) infinityRank, Nat.le_max_left .., rfl, ?_⟩
      rw [kept beyond', ofRank_infinite (Nat.le_max_right ..)]
  · rw [kept beyond, kept (beyond.trans order)]
    exact ⟨infinityRank, infinityRank, Nat.le_refl _, rfl, rfl⟩

theorem atMost_ofRatio {m n den : Nat} (positive : 0 < den) (order : m ≤ n) :
    AtMost (.ofRatio false m den) (.ofRatio false n den) := by
  refine ⟨_, _, nearestRank_le positive positive ?_, rfl, rfl⟩
  exact Nat.mul_le_mul_right den (Nat.mul_le_mul_left unitsPerOne order)

theorem atMost_ofNat {m n : Nat} (order : m ≤ n) : AtMost (.ofNat m) (.ofNat n) :=
  atMost_ofRatio Nat.one_pos order

theorem AtMost.div {x y : Binary64} {rank : Fin 0x7FF0000000000000} (some : rank.val ≠ 0)
    (h : AtMost x y) : AtMost (x.div (.finite false rank)) (y.div (.finite false rank)) := by
  have positive : 0 < units rank := units_zero ▸ units_strictMono (Nat.pos_of_ne_zero some)
  refine h.map (f := fun x => x.div (.finite false rank))
    (g := fun a => nearestRank (unitsPerOne * units a) (units rank)) (fun a => ?_) rfl
    fun a b order => ?_
  · rw [Binary64.div, if_neg some]
    rfl
  · exact nearestRank_le positive positive (Nat.mul_le_mul_right _
      (Nat.mul_le_mul_left _ (units_strictMono.monotone order)))

theorem AtMost.mul {x y : Binary64} {rank : Fin 0x7FF0000000000000} (some : rank.val ≠ 0)
    (h : AtMost x y) : AtMost (x.mul (.finite false rank)) (y.mul (.finite false rank)) := by
  refine h.map (f := fun x => x.mul (.finite false rank))
    (g := fun a => nearestRank (units a * units rank) unitsPerOne)
    (fun a => rfl) (if_neg some) fun a b order => ?_
  exact nearestRank_le unitsPerOne_pos unitsPerOne_pos (Nat.mul_le_mul_right _
    (Nat.mul_le_mul_right _ (units_strictMono.monotone order)))

/-- Adding the same to both sides. -/
theorem AtMost.add {x y : Binary64} (rank : Fin 0x7FF0000000000000) (h : AtMost x y) :
    AtMost (x.add (.finite false rank)) (y.add (.finite false rank)) := by
  refine h.map (f := fun x => x.add (.finite false rank))
    (g := fun a => nearestRank (units a + units rank) 1) (fun a => ?_) rfl fun a b order => ?_
  · have sum :
        signedUnits false a + signedUnits false rank = ((units a + units rank : Nat) : Int) := rfl
    rw [Binary64.add, sum]
    split
    · next none =>
      rw [Int.natCast_eq_zero.mp none]
      rfl
    · rfl
  · exact nearestRank_le Nat.one_pos Nat.one_pos (Nat.mul_le_mul_right 1
      (Nat.add_le_add_right (units_strictMono.monotone order) _))

theorem AtMost.round {x y : Binary64} (h : AtMost x y) : AtMost x.round y.round := by
  refine h.map (f := Binary64.round)
    (g := fun a => nearestRank (unitsPerOne * roundHalfUp (units a) unitsPerOne) 1)
    (fun a => rfl) rfl fun a b order => ?_
  refine nearestRank_le Nat.one_pos Nat.one_pos (Nat.mul_le_mul_right 1
    (Nat.mul_le_mul_left _ (Nat.div_le_div_right ?_)))
  have := units_strictMono.monotone order
  omega

theorem toCount_lt (x : Binary64) : x.toCount < UInt64.size := by
  have size : 0 < UInt64.size := by decide
  unfold toCount
  split <;> (try split) <;> omega

theorem AtMost.toCount {x y : Binary64} (h : AtMost x y) : x.toCount ≤ y.toCount := by
  obtain ⟨a, b, order, rfl, rfl⟩ := h
  rcases Nat.lt_or_ge b infinityRank with low | beyond
  · rw [ofRank_finite ⟨a, order.trans_lt low⟩, ofRank_finite ⟨b, low⟩]
    exact min_le_min_right _ (Nat.div_le_div_right (units_strictMono.monotone order))
  · rw [ofRank_infinite beyond]
    exact Nat.le_of_lt_succ (toCount_lt _)

end Binary64

/-! ## Times of frames -/

/-- The time of a place in a pass, as a double. -/
def placeTime (index : Nat) (fps : Binary64) : Binary64 :=
  (((Binary64.ofNat index).div fps).mul (.ofNat 1000)).round

theorem frameTimestampMs_none (index : Nat) (fps : Binary64) :
    frameTimestampMs none index fps = (placeTime index fps).toCount.toUInt64 := rfl

section Times

variable {fps : Binary64} (usable : usableFps fps = true)
include usable

theorem atMost_placeTime {i j : Nat} (order : i ≤ j) :
    Binary64.AtMost (placeTime i fps) (placeTime j fps) := by
  obtain ⟨rank, rfl, some⟩ := exists_rank_of_usableFps usable
  have quotients := (Binary64.atMost_ofNat order).div some
  rw [placeTime, placeTime, ofNat_thousand]
  exact (quotients.mul (by decide)).round

/-- Of two frames of a pass the later one is not timed before the other. -/
theorem frameTimestampMs_mono {i j : Nat} (order : i ≤ j) :
    frameTimestampMs none i fps ≤ frameTimestampMs none j fps := by
  have counts := (atMost_placeTime usable order).toCount
  rw [frameTimestampMs_none, frameTimestampMs_none, UInt64.le_iff_toNat_le,
    Nat.toUInt64_eq, Nat.toUInt64_eq, UInt64.toNat_ofNat_of_lt' (Binary64.toCount_lt _),
    UInt64.toNat_ofNat_of_lt' (Binary64.toCount_lt _)]
  exact counts

/-- The first frame of a pass is timed zero, whatever the rate. -/
theorem frameTimestampMs_first : frameTimestampMs none 0 fps = 0 := by
  rw [frameTimestampMs_none, placeTime, noFrames_div usable]
  decide +kernel

end Times

end DetectionLink
