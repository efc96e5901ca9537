import DetectionLink.Json.Number
import DetectionLink.Proofs.ReadBack

/-!
# Numbers that are read are finite

A number may be written with any exponent. One that is too large to be a double is not read, and
one that is too small is read as zero; whatever is read is finite. Its digits make a whole number
below `2 ^ 64`, far from the largest double, and dividing by powers of ten leads no further up.

* `Significand.ofText_lt`: the digits in use;
* `isFinite_div`, `isFinite_lowered`: divisions by at least one;
* `isFinite_ofText?`: what is read is finite.
-/

namespace DetectionLink

open Binary64 (unitsPerOne units nearestRank rankOne)

/-! ## Finite results -/

namespace Binary64

/-- A quotient that is not above a double is rounded to one. -/
theorem isFinite_ofUnits (negative : Bool) (rank : Fin 0x7FF0000000000000) {num den : Nat}
    (positive : 0 < den) (order : num ≤ units rank * den) :
    (ofUnits negative num den).isFinite = true := by
  have below := nearestRank_le positive Nat.one_pos
    (show num * 1 ≤ units rank * den by rwa [Nat.mul_one])
  rw [nearestRank_units] at below
  rw [ofUnits, ofRank, dif_pos (Nat.lt_of_le_of_lt below rank.isLt), isFinite]

/-- A finite double of magnitude one or more. -/
def AtLeastOne (x : Binary64) : Prop :=
  ∃ negative rank, x = .finite negative rank ∧ rankOne ≤ rank.val

theorem isFinite_div {x y : Binary64} (finite : x.isFinite = true) (one : y.AtLeastOne) :
    (x.div y).isFinite = true := by
  obtain ⟨negative, rank, rfl, least⟩ := one
  cases x with
  | nan => exact absurd finite nofun
  | infinite _ => exact absurd finite nofun
  | finite negative' rank' =>
    have value := units_strictMono.monotone least
    rw [units_rankOne] at value
    have nonzero : rank.val ≠ 0 := fun zero => by
      rw [zero] at least
      exact absurd least (by decide)
    have positive : 0 < units rank := Nat.lt_of_lt_of_le (by decide +kernel) value
    rw [div, if_neg nonzero]
    refine isFinite_ofUnits _ rank' positive ?_
    rw [Nat.mul_comm (units rank')]
    exact Nat.mul_le_mul_right _ value

end Binary64

namespace Json

/-! ## Powers of ten -/

theorem nearestRank_tenTo_maxPower :
    nearestRank (unitsPerOne * 10 ^ Significand.maxPower) 1 < 0x7FF0000000000000 := by
  decide +kernel

/-- Whole numbers up to the largest power of ten are finite. -/
theorem exists_ofRatio (negative : Bool) {n : Nat} (most : n ≤ 10 ^ Significand.maxPower) :
    ∃ rank : Fin 0x7FF0000000000000, Binary64.ofRatio negative n 1 = .finite negative rank ∧
      rank.val = nearestRank (unitsPerOne * n) 1 := by
  have below : nearestRank (unitsPerOne * n) 1 < 0x7FF0000000000000 :=
    Nat.lt_of_le_of_lt (Binary64.nearestRank_le Nat.one_pos Nat.one_pos
      (Nat.mul_le_mul_right _ (Nat.mul_le_mul_left _ most))) nearestRank_tenTo_maxPower
  refine ⟨⟨_, below⟩, ?_, rfl⟩
  rw [Binary64.ofRatio, Binary64.ofUnits, Binary64.ofRank, dif_pos below]

/-- Words are below the largest power of ten. -/
theorem isFinite_ofRatio (negative : Bool) {n : Nat} (fits : n ≤ UInt64.size) :
    (Binary64.ofRatio negative n 1).isFinite = true := by
  have most : n ≤ 10 ^ Significand.maxPower := Nat.le_trans fits (by decide +kernel)
  obtain ⟨rank, same, _⟩ := exists_ofRatio negative most
  rw [same, Binary64.isFinite]

theorem atLeastOne_tenTo {power : Nat} (most : power ≤ Significand.maxPower) :
    (Significand.tenTo power).AtLeastOne := by
  have powers : 10 ^ power ≤ 10 ^ Significand.maxPower := Nat.pow_le_pow_right (by decide) most
  obtain ⟨rank, same, value⟩ := exists_ofRatio false powers
  refine ⟨false, rank, same, ?_⟩
  rw [value]
  exact Binary64.rankOne_le_nearestRank Nat.one_pos
    (Nat.mul_le_mul_left _ (Nat.one_le_pow _ _ (by decide)))

/-! ## Doubles -/

namespace Significand

theorem push?_lt {value longer : Nat} {digit : Char} (h : push? value digit = some longer) :
    longer < UInt64.size := by
  unfold push? at h
  dsimp only at h
  split at h
  · next fits => exact Option.some.inj h ▸ fits
  · exact absurd h nofun

theorem takeWhole_lt {value : Nat} (digits : List Char) (fits : value < UInt64.size) :
    (takeWhole value digits).value < UInt64.size := by
  induction digits generalizing value with
  | nil => exact fits
  | cons digit rest ih =>
    rw [takeWhole_cons]
    split
    · next longer pushed => exact ih (push?_lt pushed)
    · exact fits

theorem takeFraction_lt {s : Significand} (digits : List Char) (fits : s.value < UInt64.size) :
    (s.takeFraction digits).value < UInt64.size := by
  induction digits generalizing s with
  | nil => exact fits
  | cons digit rest ih =>
    rw [takeFraction_cons]
    split
    · next longer pushed => exact ih (push?_lt pushed)
    · exact fits

theorem ofText_lt (text : NumberText) : (ofText text).value < UInt64.size :=
  takeFraction_lt _ (takeWhole_lt _ (by decide))

theorem isFinite_lowered {x : Binary64} (finite : x.isFinite = true) (power : Nat) :
    (lowered x power).isFinite = true := by
  unfold lowered
  split
  · next few => exact Binary64.isFinite_div finite (atLeastOne_tenTo few)
  · split
    · have once := Binary64.isFinite_div finite (atLeastOne_tenTo (Nat.le_refl maxPower))
      exact Binary64.isFinite_div once (atLeastOne_tenTo (by omega))
    · rfl

theorem isFinite_toBinary64? {s : Significand} {x : Binary64} (fits : s.value < UInt64.size)
    (h : s.toBinary64? = some x) : x.isFinite = true := by
  have digits : (Binary64.ofNat s.value).isFinite = true :=
    isFinite_ofRatio false (Nat.le_of_lt fits)
  unfold toBinary64? at h
  dsimp only at h
  split at h
  · exact Option.some.inj h ▸ digits
  · split at h
    · exact Option.some.inj h ▸ isFinite_lowered digits _
    · split at h
      · split at h
        · next finite => exact Option.some.inj h ▸ finite
        · exact absurd h nofun
      · exact absurd h nofun

end Significand

/-! ## Numbers -/

theorem isFinite_whole (n : Int) (fits : FitsWord n) :
    (Number.whole n fits).toBinary64.isFinite = true := by
  have size : UInt64.size = 0x10000000000000000 := rfl
  obtain ⟨low, high⟩ := fits
  exact isFinite_ofRatio _ (by omega)

/-- Nothing that is read is infinite or no number. -/
theorem isFinite_ofText? {text : NumberText} {n : Number} (h : Number.ofText? text = some n) :
    n.toBinary64.isFinite = true := by
  have real : ∀ {n : Number}, ((Significand.ofText text).toBinary64?.map fun x =>
      Number.real (if text.negative then x.neg else x)) = some n →
        n.toBinary64.isFinite = true := by
    intro n read
    obtain ⟨x, double, rfl⟩ := Option.map_eq_some_iff.mp read
    have finite := Significand.isFinite_toBinary64? (Significand.ofText_lt text) double
    cases x with
    | nan => exact absurd finite nofun
    | infinite _ => exact absurd finite nofun
    | finite _ _ => cases text.negative <;> rfl
  unfold Number.ofText? at h
  dsimp only at h
  generalize (if text.negative = true then -(Decimal.ofDigits text.whole : Int)
    else (Decimal.ofDigits text.whole : Int)) = whole at h
  split at h
  · by_cases zero : text.negative = true ∧ Decimal.ofDigits text.whole = 0
    · rw [if_pos zero] at h
      exact real h
    · rw [if_neg zero] at h
      by_cases fits : FitsWord whole
      · rw [dif_pos fits] at h
        obtain rfl := Option.some.inj h
        exact isFinite_whole whole fits
      · rw [dif_neg fits] at h
        exact real h
  · exact real h

end Json
end DetectionLink
