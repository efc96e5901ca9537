import DetectionLink.Detection.Basic
import DetectionLink.Proofs.ReadBack

/-!
# Confidences are thousandths

A confidence in a message is the double nearest a whole number of thousandths, from none to a
thousand. Such a double has few digits, so it is read back.

* `thousandths`, `exists_thousandths`: what a finite confidence becomes;
* `readsBack_thousandths`: thousandths are read back.
-/

namespace DetectionLink

open Binary64 (unitsPerOne units nearestRank rankOne units_rankOne nearestRank_le_rankOne)

/-- The double nearest `± count / 1000`. -/
def thousandths (negative : Bool) (count : Nat) : Binary64 := .ofRatio negative count 1000

theorem unitsPerOne_pos : 0 < unitsPerOne := by
  rw [unitsPerOne, Nat.one_shiftLeft]
  exact Nat.two_pow_pos 1074

/-- A positive double is no further from the next than from zero. -/
theorem units_succ_le {rank : Nat} (positive : 0 < rank) : units (rank + 1) ≤ 2 * units rank := by
  obtain ⟨shift, v, rfl, low, high⟩ := Binary64.exists_scaled rank
  have some : 0 < v := by
    rcases low with rfl | normal
    · omega
    · exact Nat.lt_of_lt_of_le (by decide) normal
  rw [Binary64.units_succ_scaled low high, Binary64.units_scaled low (Nat.le_of_lt high),
    ← Nat.mul_assoc]
  exact Nat.mul_le_mul_right _ (by omega)

/-! ## Leading digits -/

theorem floorLog10_le_zero {num den : Nat} (positive : 0 < num) (order : num ≤ den) :
    floorLog10 num den ≤ 0 := by
  unfold floorLog10
  split
  · next equal =>
    have same : num / den = 1 := by
      rw [Nat.le_antisymm order equal]
      exact Nat.div_self (Nat.lt_of_lt_of_le positive order)
    rw [same]
    decide
  · omega

theorem le_floorLog10 {num den k : Nat} (positive : 0 < num) (some : 0 < k)
    (order : den ≤ 10 ^ k * num) : -(k : Int) ≤ floorLog10 num den := by
  unfold floorLog10
  split
  · have := Nat.length_toDigits_pos (b := 10) (n := num / den)
    unfold decimalDigits
    omega
  · have quotient : (den + num - 1) / num < 10 ^ k + 1 := by
      rw [Nat.div_lt_iff_lt_mul positive, Nat.succ_mul]
      omega
    have powers : 0 < 10 ^ k := Nat.pow_pos (by decide)
    have length : (decimalDigits ((den + num - 1) / num - 1)).length ≤ k :=
      (Nat.length_toDigits_le_iff (by decide) some).mpr (by omega)
    omega

/-! ## Thousandths are read back -/

section Digits

variable {rank count : Nat}

/-- The rank of some thousandths, not none and at most all. -/
structure IsThousandths (rank count : Nat) : Prop where
  nearest : Binary64.IsNearest (unitsPerOne * count) 1000 rank
  some : 0 < count
  most : count ≤ 1000

namespace IsThousandths

theorem le_rankOne (h : IsThousandths rank count) : rank ≤ rankOne := by
  rw [← Binary64.nearestRank_eq h.nearest (by decide)]
  exact nearestRank_le_rankOne (by decide) (Nat.mul_le_mul_left _ h.most)

theorem units_le (h : IsThousandths rank count) : units rank ≤ unitsPerOne :=
  units_rankOne ▸ Binary64.units_strictMono.monotone h.le_rankOne

theorem pos (h : IsThousandths rank count) : 0 < rank := by
  refine Nat.pos_of_ne_zero fun zero => ?_
  subst zero
  have high := h.nearest.high
  have one : units (0 + 1) = 1 := by decide
  have large : 1000 < unitsPerOne := by decide +kernel
  have := Nat.mul_le_mul_left unitsPerOne h.some
  rw [Binary64.units_zero, one] at high
  omega

/-- Not below a tenth of a thousandth. -/
theorem le_units (h : IsThousandths rank count) : unitsPerOne ≤ 10 ^ 4 * units rank := by
  have high := h.nearest.high
  have next := units_succ_le h.pos
  have := Nat.mul_le_mul_left unitsPerOne h.some
  omega

theorem leadingExponent_mem (h : IsThousandths rank count) :
    -4 ≤ leadingExponent rank ∧ leadingExponent rank ≤ 0 := by
  have value := Binary64.units_strictMono h.pos
  exact ⟨le_floorLog10 (by omega) (by decide) h.le_units,
    floorLog10_le_zero (by omega) h.units_le⟩

theorem reads (h : IsThousandths rank count) : Reads rank (-(3 : Nat)) count := by
  have same : unitsPerOne * (count * 10 ^ (-((3 : Nat) : Int)).toNat) = unitsPerOne * count := by
    have none : (-((3 : Nat) : Int)).toNat = 0 := rfl
    rw [none, Nat.pow_zero, Nat.mul_one]
  rw [Reads, same]
  exact h.nearest

/-- The digits found are few, and none of them stands more than four places behind the point. -/
theorem shortest_mem (h : IsThousandths rank count) {n : Nat} {exponent : Int}
    (found : shortest Json.Number.layout.nearest rank = (n, exponent)) :
    Reads rank exponent n ∧ -4 ≤ exponent ∧ exponent ≤ 0 ∧ n ≤ 15000 := by
  obtain ⟨low, high⟩ := h.leadingExponent_mem
  obtain ⟨reads, least⟩ :=
    exponent_shortest_ge Json.Number.layout.nearest h.reads (by omega)
  rw [found] at reads least
  have some : 0 < n := reads.pos h.pos
  have next := units_succ_le h.pos
  have most := h.units_le
  -- the decimal is below one and a half
  have bound : 2 * (n * 10 ^ exponent.toNat) ≤ 3 * 10 ^ (-exponent).toNat := by
    refine Nat.le_of_mul_le_mul_left ?_ unitsPerOne_pos
    calc unitsPerOne * (2 * (n * 10 ^ exponent.toNat))
        = 2 * (unitsPerOne * (n * 10 ^ exponent.toNat)) := by ring
      _ ≤ (units rank + units (rank + 1)) * 10 ^ (-exponent).toNat := reads.high
      _ ≤ (3 * unitsPerOne) * 10 ^ (-exponent).toNat := Nat.mul_le_mul_right _ (by omega)
      _ = unitsPerOne * (3 * 10 ^ (-exponent).toNat) := by ring
  have below : exponent ≤ 0 := by
    by_contra above
    obtain ⟨k, rfl⟩ : ∃ k : Nat, exponent = (k : Int) + 1 := ⟨(exponent - 1).toNat, by omega⟩
    have exponents : ((k : Int) + 1).toNat = k + 1 ∧ (-((k : Int) + 1)).toNat = 0 := by omega
    have ten : 10 ^ 1 ≤ 10 ^ (k + 1) := Nat.pow_le_pow_right (by decide) (by omega)
    have := Nat.mul_le_mul some ten
    rw [exponents.1, exponents.2] at bound
    omega
  refine ⟨reads, by omega, below, ?_⟩
  have powers := Nat.pow_le_pow_right (n := 10) (by decide) (show (-exponent).toNat ≤ 4 by omega)
  have none : exponent.toNat = 0 := by omega
  rw [none, Nat.pow_zero, Nat.mul_one] at bound
  omega

end IsThousandths

end Digits

/-- Thousandths are written without an exponent, and in few digits. -/
theorem readsBack_thousandths (negative : Bool) {count : Nat} (most : count ≤ 1000) :
    Json.ReadsBack (thousandths negative count) := by
  rcases Nat.eq_zero_or_pos count with rfl | some
  · cases negative <;> decide +kernel
  · have h : IsThousandths (nearestRank (unitsPerOne * count) 1000) count :=
      ⟨Binary64.isNearest_nearestRank _ (by decide), some, most⟩
    have finite : nearestRank (unitsPerOne * count) 1000 < 0x7FF0000000000000 :=
      Nat.lt_of_le_of_lt h.le_rankOne (by decide)
    rw [thousandths, Binary64.ofRatio, Binary64.ofUnits, Binary64.ofRank, dif_pos finite]
    generalize nearestRank (unitsPerOne * count) 1000 = rank at h finite ⊢
    obtain ⟨n, exponent, found⟩ : ∃ n exponent,
        shortest Json.Number.layout.nearest rank = (n, exponent) := ⟨_, _, rfl⟩
    obtain ⟨reads, low, high, few⟩ := h.shortest_mem found
    have length : (decimalDigits n).length ≤ 5 :=
      (Nat.length_toDigits_le_iff (by decide) (by decide)).mpr (by omega)
    have nonempty := Nat.length_toDigits_pos (b := 10) (n := n)
    have positional :
        Json.Number.layout.positional (exponent + (decimalDigits n).length - 1) = true := by
      unfold decimalDigits at length ⊢
      simp only [Json.Number.layout, Bool.and_eq_true, decide_eq_true_eq]
      omega
    have digits : n * 10 ^ (exponent + max 1 (-exponent).toNat).toNat ≤ 15000 * 10 ^ 1 :=
      Nat.mul_le_mul few (Nat.pow_le_pow_right (by decide) (by omega))
    exact Json.readsBack_of_positional (Nat.pos_iff_ne_zero.mp h.pos) found positional reads
      (by omega) (Nat.lt_of_le_of_lt digits (by decide))

/-! ## What a confidence becomes -/

theorem one_eq : Binary64.one = .finite false ⟨rankOne, by decide⟩ := by decide +kernel

/-- A finite number kept within zero and one. Of the negative ones the zero keeps its sign. -/
theorem clamp_finite (negative : Bool) (rank : Fin 0x7FF0000000000000) :
    ∃ kept : Fin 0x7FF0000000000000,
      (Binary64.finite negative rank).clamp .zero .one =
        .finite (negative && decide (rank.val = 0)) kept ∧
      kept.val = if negative then 0 else min rank.val rankOne := by
  have zero : Binary64.zero = .finite false ⟨0, by decide⟩ := rfl
  cases negative with
  | true =>
    refine ⟨⟨0, by decide⟩, ?_, rfl⟩
    by_cases none : rank.val = 0
    · obtain rfl : rank = ⟨0, by decide⟩ := Fin.ext none
      decide +kernel
    · have below : (Binary64.finite true rank).lt .zero = true := by
        simp [Binary64.lt, Binary64.place, Binary64.zero]
        omega
      rw [Binary64.clamp, if_pos below]
      simp [none, zero]
  | false =>
    have notBelow : ¬ (Binary64.finite false rank).lt .zero = true := by
      simp [Binary64.lt, Binary64.place, Binary64.zero]
    rw [Binary64.clamp, if_neg notBelow, one_eq]
    by_cases above : rankOne < rank.val
    · rw [if_pos (by simpa [Binary64.lt, Binary64.place] using above)]
      exact ⟨_, rfl, (Nat.min_eq_right (Nat.le_of_lt above)).symm⟩
    · rw [if_neg (by simpa [Binary64.lt, Binary64.place] using above)]
      exact ⟨rank, rfl, (Nat.min_eq_left (Nat.le_of_not_lt above)).symm⟩

/-- The rank of a thousand. -/
def rankThousand : Nat := 0x408F400000000000

theorem ofNat_thousand : Binary64.ofNat 1000 = .finite false ⟨rankThousand, by decide⟩ := by
  decide +kernel

theorem units_rankThousand : units rankThousand = unitsPerOne * 1000 := by decide +kernel

/-- How many thousandths a number from zero to one is rounded to. The product with a thousand is
rounded to a double first, and that to a whole number. -/
def roundedCount (rank : Nat) : Nat :=
  roundHalfUp (units (nearestRank (units rank * units rankThousand) unitsPerOne)) unitsPerOne

theorem nearestRank_product_le {rank : Nat} (most : rank ≤ rankOne) :
    nearestRank (units rank * units rankThousand) unitsPerOne ≤ rankThousand := by
  have below : units rank ≤ unitsPerOne := units_rankOne ▸ Binary64.units_strictMono.monotone most
  have order : units rank * units rankThousand * 1 ≤ units rankThousand * unitsPerOne := by
    rw [Nat.mul_one, Nat.mul_comm]
    exact Nat.mul_le_mul_left _ below
  exact Nat.le_trans (Binary64.nearestRank_le unitsPerOne_pos Nat.one_pos order)
    (Nat.le_of_eq (Binary64.nearestRank_units rankThousand))

theorem roundedCount_le {rank : Nat} (most : rank ≤ rankOne) : roundedCount rank ≤ 1000 := by
  have product := Binary64.units_strictMono.monotone (nearestRank_product_le most)
  have positive := unitsPerOne_pos
  have value := units_rankThousand
  exact Nat.le_of_lt_succ ((Nat.div_lt_iff_lt_mul (by omega)).mpr (by omega))

theorem roundedCount_zero : roundedCount 0 = 0 := by decide +kernel

/-- A larger number is rounded to no fewer thousandths. -/
theorem roundedCount_mono {rank rank' : Nat} (order : rank ≤ rank') :
    roundedCount rank ≤ roundedCount rank' := by
  have products : units rank * units rankThousand * unitsPerOne ≤
      units rank' * units rankThousand * unitsPerOne :=
    Nat.mul_le_mul_right _ (Nat.mul_le_mul_right _ (Binary64.units_strictMono.monotone order))
  have ranks := Binary64.nearestRank_le unitsPerOne_pos unitsPerOne_pos products
  have values := Binary64.units_strictMono.monotone ranks
  exact Nat.div_le_div_right (by omega)

theorem roundConfidence_finite (negative : Bool) {rank : Fin 0x7FF0000000000000}
    (most : rank.val ≤ rankOne) :
    roundConfidence (.finite negative rank) = thousandths negative (roundedCount rank) := by
  have sign : (negative != false) = negative := by cases negative <;> rfl
  have finite : nearestRank (units rank * units rankThousand) unitsPerOne < 0x7FF0000000000000 :=
    Nat.lt_of_le_of_lt (nearestRank_product_le most) (by decide)
  have rounded : ((Binary64.finite negative rank).mul (.ofNat 1000)).round =
      .ofRatio negative (roundedCount rank) 1 := by
    rw [ofNat_thousand, Binary64.mul, sign, Binary64.ofUnits, Binary64.ofRank, dif_pos finite,
      Binary64.round, roundedCount]
  obtain ⟨whole, same, value⟩ := Json.ofRatio_small negative
    (Nat.lt_of_le_of_lt (roundedCount_le most) (show 1000 < 2 ^ 53 by decide))
  have thousand : Binary64.ofNat 1000 = Json.Significand.tenTo 3 := rfl
  rw [roundConfidence, rounded, same, thousand, Json.div_tenTo negative value (by decide)]
  rfl

/-- The confidence of a message, made of a finite one. Only none at all keeps a sign. -/
theorem exists_thousandths {x : Binary64} (finite : x.isFinite = true) :
    ∃ negative count, count ≤ 1000 ∧ (negative = true → count = 0) ∧
      roundConfidence (x.clamp .zero .one) = thousandths negative count := by
  cases x with
  | nan => exact absurd finite nofun
  | infinite _ => exact absurd finite nofun
  | finite negative rank =>
    obtain ⟨kept, clamped, value⟩ := clamp_finite negative rank
    have most : kept.val ≤ rankOne := by
      rw [value]
      split <;> omega
    rw [clamped]
    refine ⟨_, _, roundedCount_le most, fun sign => ?_, roundConfidence_finite _ most⟩
    have none : kept.val = 0 := by
      rw [value, (Bool.and_eq_true_iff.mp sign).1, if_pos rfl]
    rw [none, roundedCount_zero]

end DetectionLink
