import DetectionLink.Number.Binary64
import Mathlib.Order.Monotone.Basic
import Mathlib.Tactic.Ring

/-!
# Rounding to the nearest double

The rank nearest a quotient is characterised by its neighbours: the quotient lies between the two
midpoints, which themselves count for an even rank only. So the rank depends on the quotient alone
and grows with it, and a quotient that is a double is left as it is.

* `units_scaled`, `units_strictMono`: values of ranks;
* `IsNearest`, `isNearest_nearestRank`: the rank nearest a quotient;
* `IsNearest.le_of_le`, `nearestRank_eq`: order, and with it uniqueness;
* `nearestRank_mul`, `nearestRank_units`: common factors, and quotients that are doubles.
-/

namespace DetectionLink

/-! ## Rounding to naturals -/

/-- `roundHalfEven` is within one half, and an exact half makes it even. -/
theorem roundHalfEven_spec (num : Nat) {den : Nat} (positive : 0 < den) :
    2 * (roundHalfEven num den * den) ≤ 2 * num + den ∧
    2 * num ≤ 2 * (roundHalfEven num den * den) + den ∧
    (roundHalfEven num den % 2 = 1 →
      2 * (roundHalfEven num den * den) < 2 * num + den ∧
      2 * num < 2 * (roundHalfEven num den * den) + den) := by
  have division : num / den * den + num % den = num := Nat.div_add_mod' num den
  have small : num % den < den := Nat.mod_lt num positive
  have succ : (num / den + 1) * den = num / den * den + den := Nat.succ_mul ..
  unfold roundHalfEven
  dsimp only
  split
  · omega
  · split
    · rw [succ]
      omega
    · -- exactly between two naturals
      have half : 2 * (num % den) = den := by omega
      rcases Nat.mod_two_eq_zero_or_one (num / den) with even | odd
      · rw [even, Nat.add_zero]
        omega
      · rw [odd, succ]
        omega

namespace Binary64

/-! ## Values of ranks -/

/-- `v` steps of `2 ^ shift`, for a `v` of `53` binary digits or the next power of two. -/
theorem units_scaled {shift v : Nat} (low : shift = 0 ∨ binade ≤ v) (high : v ≤ 2 * binade) :
    units (binade * shift + v) = v * 2 ^ shift := by
  unfold units
  simp only [binade, Nat.shiftLeft_eq] at *
  rcases Nat.lt_or_ge v 0x10000000000000 with small | normal
  · obtain rfl : shift = 0 := by omega
    rw [if_pos (by omega)]
    omega
  · rcases Nat.lt_or_ge v (2 * 0x10000000000000) with inside | top
    · have quotient : (0x10000000000000 * shift + v) / 0x10000000000000 = shift + 1 := by omega
      have rest : (0x10000000000000 * shift + v) % 0x10000000000000 = v - 0x10000000000000 := by
        omega
      rw [if_neg (by omega), quotient, rest, Nat.add_sub_cancel, Nat.add_sub_cancel' normal]
    · obtain rfl : v = 2 * 0x10000000000000 := by omega
      have quotient :
          (0x10000000000000 * shift + 2 * 0x10000000000000) / 0x10000000000000 = shift + 2 := by
        omega
      have rest : (0x10000000000000 * shift + 2 * 0x10000000000000) % 0x10000000000000 = 0 := by
        omega
      rw [if_neg (by omega), quotient, rest, Nat.add_zero]
      show 0x10000000000000 * 2 ^ (shift + 1) = 2 * 0x10000000000000 * 2 ^ shift
      rw [Nat.pow_succ]
      omega

/-- Every rank is of this form. -/
theorem exists_scaled (rank : Nat) : ∃ shift v, rank = binade * shift + v ∧
    (shift = 0 ∨ binade ≤ v) ∧ v < 2 * binade := by
  refine ⟨rank / binade - 1, rank - binade * (rank / binade - 1), ?_, ?_, ?_⟩ <;>
    simp only [binade] <;> omega

/-- The next rank is one step of the spacing further. -/
theorem units_succ_scaled {shift v : Nat} (low : shift = 0 ∨ binade ≤ v) (high : v < 2 * binade) :
    units (binade * shift + v + 1) = (v + 1) * 2 ^ shift :=
  units_scaled (low.imp_right fun h => Nat.le_succ_of_le h) high

theorem units_strictMono : StrictMono units := by
  refine strictMono_nat_of_lt_succ fun rank => ?_
  obtain ⟨shift, v, rfl, low, high⟩ := exists_scaled rank
  rw [units_succ_scaled low high, units_scaled low (Nat.le_of_lt high)]
  exact Nat.mul_lt_mul_of_pos_right (Nat.lt_succ_self v) (Nat.two_pow_pos shift)

@[simp] theorem units_zero : units 0 = 0 := rfl

/-! ## The nearest rank -/

/-- A quotient lies between the midpoints to the neighbours of a rank, and on one of them only if
the rank is even. Rank zero has no lower neighbour. -/
structure IsNearest (num den rank : Nat) : Prop where
  low : (units (rank - 1) + units rank) * den ≤ 2 * num
  high : 2 * num ≤ (units rank + units (rank + 1)) * den
  inside : rank % 2 = 1 → (units (rank - 1) + units rank) * den < 2 * num ∧
    2 * num < (units rank + units (rank + 1)) * den

namespace IsNearest

variable {num den num' den' rank rank' : Nat}

/-- Ranks grow with the quotient. -/
theorem le_of_le (h : IsNearest num den rank) (h' : IsNearest num' den' rank')
    (positive : 0 < den) (positive' : 0 < den') (order : num * den' ≤ num' * den) :
    rank ≤ rank' := by
  by_contra less
  have step : units rank' + units (rank' + 1) ≤ units (rank - 1) + units rank :=
    Nat.add_le_add (units_strictMono.monotone (by omega)) (units_strictMono.monotone (by omega))
  -- the upper midpoint of `rank'` is not below the lower one of `rank`, so all are equal
  have above : 2 * (num' * den) ≤ (units rank' + units (rank' + 1)) * (den' * den) := by
    calc 2 * (num' * den) = 2 * num' * den := by ring
      _ ≤ (units rank' + units (rank' + 1)) * den' * den := Nat.mul_le_mul_right den h'.high
      _ = _ := by ring
  have below : (units (rank - 1) + units rank) * (den' * den) ≤ 2 * (num * den') := by
    calc (units (rank - 1) + units rank) * (den' * den)
        = (units (rank - 1) + units rank) * den * den' := by ring
      _ ≤ 2 * num * den' := Nat.mul_le_mul_right den' h.low
      _ = _ := by ring
  have between := Nat.mul_le_mul_right (den' * den) step
  have meet : (units (rank - 1) + units rank) * (den' * den) =
      (units rank' + units (rank' + 1)) * (den' * den) := by omega
  have neighbours : rank = rank' + 1 := by
    by_contra apart
    have strict : units rank' + units (rank' + 1) < units (rank - 1) + units rank :=
      Nat.add_lt_add (units_strictMono (by omega)) (units_strictMono (by omega))
    have := Nat.mul_lt_mul_of_pos_right strict (Nat.mul_pos positive' positive)
    omega
  -- of two neighbours one is odd, and a midpoint does not count for it
  rcases Nat.mod_two_eq_zero_or_one rank' with even | odd
  · have strict := Nat.mul_lt_mul_of_pos_right (h.inside (by omega)).1 positive'
    have : (units (rank - 1) + units rank) * (den' * den) < 2 * (num * den') := by
      calc (units (rank - 1) + units rank) * (den' * den)
          = (units (rank - 1) + units rank) * den * den' := by ring
        _ < 2 * num * den' := strict
        _ = _ := by ring
    omega
  · have strict := Nat.mul_lt_mul_of_pos_right (h'.inside odd).2 positive
    have : 2 * (num' * den) < (units rank' + units (rank' + 1)) * (den' * den) := by
      calc 2 * (num' * den) = 2 * num' * den := by ring
        _ < (units rank' + units (rank' + 1)) * den' * den := strict
        _ = _ := by ring
    omega

theorem unique (h : IsNearest num den rank) (h' : IsNearest num den rank') (positive : 0 < den) :
    rank = rank' :=
  Nat.le_antisymm (h.le_of_le h' positive positive (Nat.le_refl _))
    (h'.le_of_le h positive positive (Nat.le_refl _))

end IsNearest

/-- A double is the nearest to itself. -/
theorem isNearest_units (rank : Nat) : IsNearest (units rank) 1 rank where
  low := by
    have := units_strictMono.monotone (Nat.sub_le rank 1)
    omega
  high := by
    have := units_strictMono (show rank < rank + 1 by omega)
    omega
  inside odd := by
    have below := units_strictMono (show rank - 1 < rank by omega)
    have above := units_strictMono (show rank < rank + 1 by omega)
    omega

/-! ## What `nearestRank` gives -/

/-- The spacing fits the quotient: with `53` digits it is not too small, and from the first
doubling on not too large. -/
theorem shift_spec (num : Nat) {den : Nat} (positive : 0 < den) :
    num < 2 * binade * (den * 2 ^ ((num / den).log2 - 52)) ∧
    ((num / den).log2 - 52 = 0 ∨ binade * (den * 2 ^ ((num / den).log2 - 52)) ≤ num) := by
  have width : binade = 2 ^ 52 := rfl
  generalize quotient : num / den = q
  have upper : q < 2 * binade * 2 ^ (q.log2 - 52) := by
    calc q < 2 ^ (q.log2 + 1) := Nat.lt_log2_self
      _ ≤ 2 ^ (53 + (q.log2 - 52)) := Nat.pow_le_pow_right (by decide) (by omega)
      _ = _ := by rw [Nat.pow_add]; rfl
  refine ⟨?_, ?_⟩
  · have := (Nat.div_lt_iff_lt_mul positive).mp (quotient.trans_lt upper)
    calc num < 2 * binade * 2 ^ (q.log2 - 52) * den := this
      _ = _ := by ring
  · refine Nat.eq_zero_or_pos (q.log2 - 52) |>.imp_right fun wide => ?_
    have lower : binade * 2 ^ (q.log2 - 52) ≤ q := by
      calc binade * 2 ^ (q.log2 - 52) = 2 ^ q.log2 := by
            rw [width, ← Nat.pow_add]
            congr 1
            omega
        _ ≤ q := Nat.log2_self_le (by rintro rfl; exact absurd wide (by decide))
    have := (Nat.le_div_iff_mul_le positive).mp (lower.trans_eq quotient.symm)
    calc binade * (den * 2 ^ (q.log2 - 52)) = binade * 2 ^ (q.log2 - 52) * den := by ring
      _ ≤ num := this

/-- The next rank is at least one step further, and two where the spacing doubles. -/
theorem le_units_succ {shift v : Nat} (low : shift = 0 ∨ binade ≤ v) (high : v ≤ 2 * binade) :
    (v + 1) * 2 ^ shift ≤ units (binade * shift + v + 1) := by
  rcases Nat.lt_or_ge v (2 * binade) with inside | top
  · exact Nat.le_of_eq (units_succ_scaled low inside).symm
  · obtain rfl : v = 2 * binade := Nat.le_antisymm high top
    have same : binade * shift + 2 * binade + 1 = binade * (shift + 1) + binade + 1 := by ring
    rw [same, units_succ_scaled (.inr (Nat.le_refl _)) (by decide)]
    calc (2 * binade + 1) * 2 ^ shift ≤ (2 * binade + 2) * 2 ^ shift :=
          Nat.mul_le_mul_right _ (by omega)
      _ = (binade + 1) * 2 ^ (shift + 1) := by ring

/-- The rank below stands one step lower, except where the spacing doubles. -/
theorem units_pred {shift v : Nat} (low : shift = 0 ∨ binade ≤ v) (high : v ≤ 2 * binade)
    (positive : 0 < v) (sameSpacing : ¬(v = binade ∧ shift ≠ 0)) :
    units (binade * shift + v - 1) + 2 ^ shift = v * 2 ^ shift := by
  obtain ⟨less, rfl⟩ : ∃ less, v = less + 1 := ⟨v - 1, by omega⟩
  have inner : units (binade * shift + less) = less * 2 ^ shift :=
    units_scaled (by omega) (by omega)
  rw [Nat.add_sub_assoc positive, Nat.add_sub_cancel, inner, Nat.succ_mul]

/-- A carry reaches the next power of two at most, and nothing falls below the normal digits. -/
theorem roundHalfEven_scaled {num step shift : Nat} (positive : 0 < step)
    (upper : num < 2 * binade * step) (lower : shift = 0 ∨ binade * step ≤ num) :
    (shift = 0 ∨ binade ≤ roundHalfEven num step) ∧ roundHalfEven num step ≤ 2 * binade := by
  obtain ⟨notAbove, notBelow, _⟩ := roundHalfEven_spec num positive
  refine ⟨lower.imp_right fun lower => ?_, ?_⟩
  · by_contra less
    have := Nat.mul_le_mul_right step (show roundHalfEven num step + 1 ≤ binade by omega)
    rw [Nat.succ_mul] at this
    omega
  · by_contra more
    have := Nat.mul_le_mul_right step (show 2 * binade + 1 ≤ roundHalfEven num step by omega)
    rw [Nat.succ_mul] at this
    omega

theorem isNearest_nearestRank (num : Nat) {den : Nat} (positive : 0 < den) :
    IsNearest num den (nearestRank num den) := by
  obtain ⟨upper, lower⟩ := shift_spec num positive
  unfold nearestRank
  simp only [Nat.shiftLeft_eq]
  generalize (num / den).log2 - 52 = shift at upper lower ⊢
  have step : 0 < den * 2 ^ shift := Nat.mul_pos positive (Nat.two_pow_pos shift)
  obtain ⟨notAbove, notBelow, inside⟩ := roundHalfEven_spec num step
  obtain ⟨low, high⟩ := roundHalfEven_scaled step upper lower
  generalize roundHalfEven num (den * 2 ^ shift) = v at notAbove notBelow inside low high ⊢
  have value : units (binade * shift + v) * den = v * (den * 2 ^ shift) := by
    rw [units_scaled low high]
    ring
  have above : v * (den * 2 ^ shift) + den * 2 ^ shift ≤ units (binade * shift + v + 1) * den := by
    calc v * (den * 2 ^ shift) + den * 2 ^ shift = (v + 1) * 2 ^ shift * den := by ring
      _ ≤ _ := Nat.mul_le_mul_right den (le_units_succ low high)
  have parity : (binade * shift + v) % 2 = v % 2 := by
    simp only [binade]
    omega
  -- where the spacing doubles the rank below is closer, but there the rank is even
  have below : (units (binade * shift + v - 1) * den + den * 2 ^ shift ≤ v * (den * 2 ^ shift)) ∨
      v % 2 = 0 ∧ units (binade * shift + v - 1) * den + v * (den * 2 ^ shift) ≤ 2 * num := by
    have before := units_strictMono.monotone (Nat.sub_le (binade * shift + v) 1)
    have before := Nat.mul_le_mul_right den before
    rw [value] at before
    by_cases atPower : v = binade ∧ shift ≠ 0
    · obtain ⟨rfl, wide⟩ := atPower
      have := lower.resolve_left wide
      exact .inr ⟨by decide, by omega⟩
    · rcases Nat.eq_zero_or_pos v with rfl | some
      · obtain rfl : shift = 0 := low.resolve_right (by decide)
        exact .inr ⟨rfl, by simp⟩
      · refine .inl (Nat.le_of_eq ?_)
        calc units (binade * shift + v - 1) * den + den * 2 ^ shift
            = (units (binade * shift + v - 1) + 2 ^ shift) * den := by ring
          _ = v * 2 ^ shift * den := by rw [units_pred low high some atPower]
          _ = v * (den * 2 ^ shift) := by ring
  constructor
  · rw [Nat.add_mul, value]
    omega
  · rw [Nat.add_mul, value]
    omega
  · intro odd
    rw [parity] at odd
    have := inside odd
    rw [Nat.add_mul, Nat.add_mul, value]
    omega

/-- Only the quotient counts. -/
theorem IsNearest.congr {num den num' den' rank : Nat} (h : IsNearest num den rank)
    (positive : 0 < den) (positive' : 0 < den') (same : num * den' = num' * den) :
    IsNearest num' den' rank := by
  have nearest := isNearest_nearestRank num' positive'
  have below := nearest.le_of_le h positive' positive (Nat.le_of_eq same.symm)
  have above := h.le_of_le nearest positive positive' (Nat.le_of_eq same)
  exact Nat.le_antisymm below above ▸ nearest

/-- What `IsNearest` says is all there is to the nearest rank. -/
theorem nearestRank_eq {num den rank : Nat} (h : IsNearest num den rank) (positive : 0 < den) :
    nearestRank num den = rank :=
  (isNearest_nearestRank num positive).unique h positive

theorem nearestRank_mul (num : Nat) {c den : Nat} (positive : 0 < c) (positive' : 0 < den) :
    nearestRank (c * num) (c * den) = nearestRank num den := by
  have nearest := isNearest_nearestRank num positive'
  have positive := Nat.mul_pos positive positive'
  exact nearestRank_eq (nearest.congr positive' positive (by ring)) positive

theorem nearestRank_units (rank : Nat) : nearestRank (units rank) 1 = rank :=
  nearestRank_eq (isNearest_units rank) Nat.one_pos

theorem nearestRank_le {num den num' den' : Nat} (positive : 0 < den) (positive' : 0 < den')
    (order : num * den' ≤ num' * den) : nearestRank num den ≤ nearestRank num' den' :=
  (isNearest_nearestRank num positive).le_of_le (isNearest_nearestRank num' positive') positive
    positive' order

/-! ## One -/

/-- The rank of one. -/
def rankOne : Nat := 0x3FF0000000000000

theorem units_rankOne : units rankOne = unitsPerOne := by decide +kernel

theorem nearestRank_unitsPerOne : nearestRank unitsPerOne 1 = rankOne := by
  rw [← units_rankOne, nearestRank_units]

theorem nearestRank_le_rankOne {num den : Nat} (positive : 0 < den)
    (order : num ≤ unitsPerOne * den) : nearestRank num den ≤ rankOne := by
  rw [← nearestRank_unitsPerOne]
  exact nearestRank_le positive Nat.one_pos (by omega)

theorem rankOne_le_nearestRank {num den : Nat} (positive : 0 < den)
    (order : unitsPerOne * den ≤ num) : rankOne ≤ nearestRank num den := by
  rw [← nearestRank_unitsPerOne]
  exact nearestRank_le Nat.one_pos positive (by omega)

end Binary64
end DetectionLink
