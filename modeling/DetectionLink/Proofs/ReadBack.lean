import DetectionLink.Proofs.PrintedNumbers

/-!
# Doubles that are read back

A double is written with digits that round to it, but reading rounds twice: the digits become a
double, and that is scaled by a power of ten. Where both are exact only the scaling rounds, and
the double that was written comes back. That is so of every double that is written without an
exponent in digits below `2 ^ 53`, with at most twenty-two of them behind the point.

* `readBack?`, `ReadsBack`: what the text of a double is read as, and that it is the double;
* `ofRatio_exact`, `div_tenTo`: small whole numbers and powers of ten are exact;
* `readsBack_of_positional`: the rule.
-/

namespace DetectionLink.Json

open Binary64 (unitsPerOne units nearestRank ofRank)

/-- What the text of a double is read as. -/
def readBack? (x : Binary64) : Option Binary64 :=
  (Number.ofText? (.ofChars (Number.real x).text.toList)).map Number.toBinary64

/-- The text of a double is read as that double. -/
def ReadsBack (x : Binary64) : Prop := readBack? x = some x

instance (x : Binary64) : Decidable (ReadsBack x) := inferInstanceAs (Decidable (_ = _))

/-! ## Digits and their values -/

/-- The number that digits write behind a number. -/
def appended (n : Nat) (digits : List Char) : Nat :=
  digits.foldl (fun n c => 10 * n + Decimal.digitValue c) n

theorem ofDigits_eq (digits : List Char) : Decimal.ofDigits digits = appended 0 digits := by
  rw [Decimal.ofDigits, ofDigitsIn_eq_foldl, List.foldl_map, appended]

theorem appended_cons (n : Nat) (c : Char) (rest : List Char) :
    appended n (c :: rest) = appended (10 * n + Decimal.digitValue c) rest := by
  simp only [appended, List.foldl_cons]

theorem appended_append (n : Nat) (a b : List Char) :
    appended n (a ++ b) = appended (appended n a) b := List.foldl_append

theorem le_appended (n : Nat) (digits : List Char) : n ≤ appended n digits := by
  induction digits generalizing n with
  | nil => exact Nat.le_refl n
  | cons c rest ih =>
    rw [appended_cons]
    refine Nat.le_trans ?_ (ih (10 * n + Decimal.digitValue c))
    omega

theorem appended_zeros (n count : Nat) :
    appended n (List.replicate count '0') = n * 10 ^ count := by
  induction count generalizing n with
  | zero => exact (Nat.mul_one n).symm
  | succ count ih =>
    rw [List.replicate_succ, appended_cons, ih]
    have digit : Decimal.digitValue '0' = 0 := rfl
    rw [digit, Nat.pow_succ]
    ring

/-! ## Significands -/

section Significands

theorem push?_of_lt {n : Nat} {c : Char} (fits : 10 * n + Decimal.digitValue c < UInt64.size) :
    Significand.push? n c = some (10 * n + Decimal.digitValue c) := if_pos fits

theorem takeWhole_cons (n : Nat) (c : Char) (rest : List Char) :
    Significand.takeWhole n (c :: rest) =
      match Significand.push? n c with
      | some longer => Significand.takeWhole longer rest
      | none => ⟨n, (rest.length + 1 : Nat)⟩ := (rfl)

theorem takeFraction_cons (s : Significand) (c : Char) (rest : List Char) :
    s.takeFraction (c :: rest) =
      match Significand.push? s.value c with
      | some longer => Significand.takeFraction ⟨longer, s.exponent - 1⟩ rest
      | none => s := (rfl)

/-- Digits in front of the point that all fit. -/
theorem takeWhole_eq {n : Nat} {digits : List Char} (fits : appended n digits < UInt64.size) :
    Significand.takeWhole n digits = ⟨appended n digits, 0⟩ := by
  induction digits generalizing n with
  | nil => rfl
  | cons c rest ih =>
    rw [appended_cons] at fits ⊢
    have first := Nat.lt_of_le_of_lt (le_appended _ rest) fits
    rw [takeWhole_cons, push?_of_lt first]
    exact ih fits

/-- Digits behind the point that all fit. -/
theorem takeFraction_eq {n : Nat} {exponent : Int} {digits : List Char}
    (fits : appended n digits < UInt64.size) :
    Significand.takeFraction ⟨n, exponent⟩ digits =
      ⟨appended n digits, exponent - digits.length⟩ := by
  induction digits generalizing n exponent with
  | nil => exact congrArg (Significand.mk n) (Int.sub_zero exponent).symm
  | cons c rest ih =>
    rw [appended_cons] at fits ⊢
    have first := Nat.lt_of_le_of_lt (le_appended _ rest) fits
    have places : exponent - 1 - (rest.length : Int) = exponent - ((c :: rest).length : Nat) := by
      rw [List.length_cons]
      omega
    rw [takeFraction_cons, push?_of_lt first, ← places]
    exact ih fits

theorem significand_of_fits {text : NumberText} {fraction : List Char}
    (point : text.fraction = some fraction) (noExponent : text.exponent = none)
    (fits : Decimal.ofDigits (text.whole ++ fraction) < UInt64.size) :
    Significand.ofText text =
      ⟨Decimal.ofDigits (text.whole ++ fraction), -(fraction.length : Int)⟩ := by
  rw [ofDigits_eq, appended_append] at fits ⊢
  have front := Nat.lt_of_le_of_lt (le_appended _ fraction) fits
  rw [Significand.ofText, point, noExponent, takeWhole_eq front, Option.getD_some,
    takeFraction_eq fits]
  simp

end Significands

/-! ## Exact doubles -/

theorem shiftLeft_mul (shift n power : Nat) :
    1 <<< shift * (n * 2 ^ power) = n * 2 ^ (power + shift) := by
  rw [Nat.one_shiftLeft, Nat.pow_add]
  ring

theorem unitsPerOne_mul (n power : Nat) :
    unitsPerOne * (n * 2 ^ power) = n * 2 ^ (power + 1074) := shiftLeft_mul 1074 n power

/-- A number of at most `53` binary digits, times a power of two, is a double. -/
theorem exists_units {n power : Nat} (small : n < 2 ^ 53) (low : 52 ≤ power) :
    ∃ rank, units rank = n * 2 ^ power ∧ rank < Binary64.binade * (power + 2) := by
  rcases Nat.eq_zero_or_pos n with rfl | positive
  · exact ⟨0, by simp, Nat.mul_pos (by decide) (by omega)⟩
  · have lower := Nat.log2_self_le (Nat.pos_iff_ne_zero.mp positive)
    have upper : n < 2 ^ (n.log2 + 1) := Nat.lt_log2_self
    have digits : n.log2 ≤ 52 := by
      by_contra more
      have := Nat.pow_le_pow_right (n := 2) (by decide) (show 53 ≤ n.log2 by omega)
      omega
    have width : Binary64.binade = 2 ^ 52 := rfl
    have least : Binary64.binade ≤ n * 2 ^ (52 - n.log2) := by
      calc Binary64.binade = 2 ^ n.log2 * 2 ^ (52 - n.log2) := by
            rw [width, ← Nat.pow_add]
            congr 1
            omega
        _ ≤ _ := Nat.mul_le_mul_right _ lower
    have most : n * 2 ^ (52 - n.log2) < 2 * Binary64.binade := by
      calc n * 2 ^ (52 - n.log2) < 2 ^ (n.log2 + 1) * 2 ^ (52 - n.log2) :=
            Nat.mul_lt_mul_of_pos_right upper (Nat.two_pow_pos _)
        _ = 2 * Binary64.binade := by
            rw [width, ← Nat.pow_add, ← Nat.pow_succ']
            congr 1
            omega
    refine ⟨Binary64.binade * (power - (52 - n.log2)) + n * 2 ^ (52 - n.log2), ?_, ?_⟩
    · rw [Binary64.units_scaled (.inr least) (Nat.le_of_lt most), Nat.mul_assoc, ← Nat.pow_add]
      congr 2
      omega
    · simp only [Binary64.binade] at *
      omega

theorem lt_infinityRank {rank power : Nat} (below : rank < Binary64.binade * (power + 2))
    (bounded : power < 2000) : rank < 0x7FF0000000000000 := by
  simp only [Binary64.binade] at below
  omega

/-- Whole numbers of at most `53` binary digits, zeros at the end not counted. -/
theorem ofRatio_exact (negative : Bool) {m n power : Nat} (small : n < 2 ^ 53)
    (shape : m = n * 2 ^ power) (bounded : power < 900) :
    ∃ rank, Binary64.ofRatio negative m 1 = .finite negative rank ∧
      units rank = unitsPerOne * m := by
  have value : unitsPerOne * m = n * 2 ^ (power + 1074) := by
    rw [shape, unitsPerOne_mul]
  obtain ⟨rank, same, below⟩ := exists_units small (show 52 ≤ power + 1074 by omega)
  have finite := lt_infinityRank below (by omega)
  refine ⟨⟨rank, finite⟩, ?_, same.trans value.symm⟩
  rw [Binary64.ofRatio, Binary64.ofUnits, value, ← same, Binary64.nearestRank_units, ofRank,
    dif_pos finite]

theorem ofRatio_small (negative : Bool) {n : Nat} (small : n < 2 ^ 53) :
    ∃ rank, Binary64.ofRatio negative n 1 = .finite negative rank ∧
      units rank = unitsPerOne * n :=
  ofRatio_exact negative small (show n = n * 2 ^ 0 by rw [Nat.pow_zero, Nat.mul_one]) (by decide)

theorem tenTo_exact {power : Nat} (small : power ≤ 22) :
    ∃ rank, Significand.tenTo power = .finite false rank ∧
      units rank = unitsPerOne * 10 ^ power := by
  have fives : 5 ^ power < 2 ^ 53 :=
    Nat.lt_of_le_of_lt (Nat.pow_le_pow_right (by decide) small) (by decide)
  exact ofRatio_exact false fives (show 10 ^ power = 5 ^ power * 2 ^ power by rw [← Nat.mul_pow])
    (by omega)

/-- Dividing a small whole number by a small power of ten rounds once. -/
theorem div_tenTo (negative : Bool) {n power : Nat} {rank : Fin 0x7FF0000000000000}
    (value : units rank = unitsPerOne * n) (small : power ≤ 22) :
    (Binary64.finite negative rank).div (Significand.tenTo power) =
      ofRank negative (nearestRank (unitsPerOne * n) (10 ^ power)) := by
  obtain ⟨ten, same, value'⟩ := tenTo_exact small
  have one : 0 < unitsPerOne := by decide
  have powers : 0 < 10 ^ power := Nat.pow_pos (by decide)
  have some : ten.val ≠ 0 := by
    intro zero
    rw [zero, Binary64.units_zero] at value'
    exact absurd value'.symm (Nat.pos_iff_ne_zero.mp (Nat.mul_pos one powers))
  rw [same, Binary64.div, if_neg some, Binary64.ofUnits, value, value',
    Binary64.nearestRank_mul _ one powers]
  cases negative <;> rfl

theorem toBinary64?_small {n places : Nat} (small : n < 2 ^ 53) (some : 0 < places)
    (few : places ≤ 22) :
    Significand.toBinary64? ⟨n, -(places : Int)⟩ =
      .some (ofRank false (nearestRank (unitsPerOne * n) (10 ^ places))) := by
  obtain ⟨rank, same, value⟩ := ofRatio_small false small
  unfold Significand.toBinary64? Binary64.ofNat
  dsimp only
  by_cases zero : n = 0
  · have nothing : nearestRank (unitsPerOne * 0) (10 ^ places) = 0 := by
      refine Binary64.nearestRank_eq ⟨?_, ?_, nofun⟩ (Nat.pow_pos (by decide)) <;> simp
    rw [if_pos zero, zero, nothing]
    rfl
  · have natAbs : (-(places : Int)).natAbs = places := by omega
    have power : places ≤ Significand.maxPower := Nat.le_trans few (by decide)
    rw [if_neg zero, if_pos (by omega), natAbs, Significand.lowered, if_pos power, same,
      div_tenTo false value few]

/-! ## The rule -/

section Rule

variable {negative : Bool} {rank : Fin 0x7FF0000000000000}

/-- A text with a point and no exponent whose digits, as a decimal, round to the double. -/
theorem readsBack_of_parts {fraction : List Char}
    (point : (realParts negative rank).fraction = some fraction)
    (noExponent : (realParts negative rank).exponent = none)
    (small : Decimal.ofDigits ((realParts negative rank).whole ++ fraction) < 2 ^ 53)
    (some : 0 < fraction.length) (few : fraction.length ≤ 22)
    (reads : Reads rank (-(fraction.length : Int))
      (Decimal.ofDigits ((realParts negative rank).whole ++ fraction))) :
    ReadsBack (.finite negative rank) := by
  have sign := negative_realParts negative rank
  have parts := ofChars_text (proper_realParts negative rank)
  rw [sign, point, noExponent] at parts
  rw [ReadsBack, readBack?, toList_realText, parts]
  generalize (realParts negative rank).whole = whole at small reads ⊢
  have fits : Decimal.ofDigits (whole ++ fraction) < UInt64.size := Nat.lt_trans small (by decide)
  have significand : Significand.ofText ⟨negative, whole, .some fraction, none⟩ = _ :=
    significand_of_fits rfl rfl fits
  have nearest : nearestRank (unitsPerOne * Decimal.ofDigits (whole ++ fraction))
      (10 ^ fraction.length) = rank := by
    have places : (-(-(fraction.length : Int))).toNat = fraction.length := by omega
    have whole' : (-(fraction.length : Int)).toNat = 0 := by omega
    rw [Reads, places, whole', Nat.pow_zero, Nat.mul_one] at reads
    exact Binary64.nearestRank_eq reads (Nat.pow_pos (by decide))
  have double := toBinary64?_small small some few
  rw [nearest, ofRank, dif_pos rank.isLt] at double
  simp only [Number.ofText?, Option.map_none]
  rw [significand, double]
  cases negative <;> rfl

/-- The digits of a positional text, and how many of them stand behind the point. -/
theorem positional_digits (negative : Bool) (n : Nat) (exponent : Int) :
    ∃ fraction, (positionalParts negative (decimalDigits n) exponent).fraction = some fraction ∧
      (positionalParts negative (decimalDigits n) exponent).exponent = none ∧
      fraction.length = max 1 (-exponent).toNat ∧
      Decimal.ofDigits ((positionalParts negative (decimalDigits n) exponent).whole ++ fraction) =
        n * 10 ^ (exponent + max 1 (-exponent).toNat).toNat := by
  have digits : appended 0 (decimalDigits n) = n := by
    rw [← ofDigits_eq, ofDigits_decimalDigits]
  unfold positionalParts
  split
  · next whole =>
    refine ⟨['0'], rfl, rfl, by rw [List.length_singleton]; omega, ?_⟩
    have one : appended (n * 10 ^ exponent.toNat) ['0'] = n * 10 ^ exponent.toNat * 10 :=
      appended_zeros _ 1
    have power : (exponent + max 1 (-exponent).toNat).toNat = exponent.toNat + 1 := by omega
    rw [ofDigits_eq, appended_append, appended_append, digits, appended_zeros, one, power]
    ring
  · next below =>
    refine ⟨_, rfl, rfl, ?_, ?_⟩
    · rw [List.length_drop, List.length_append, List.length_replicate]
      omega
    · have power : (exponent + max 1 (-exponent).toNat).toNat = 0 := by omega
      rw [List.take_append_drop, ofDigits_eq, appended_append, appended_zeros, Nat.zero_mul,
        digits, power, Nat.pow_zero, Nat.mul_one]

/-- A double written without an exponent is read back when its digits, the zero behind the point
of a whole number included, stay below `2 ^ 53`, and no more than twenty-two stand there. -/
theorem readsBack_of_positional (some : rank.val ≠ 0) {n : Nat} {exponent : Int}
    (found : shortest Number.layout.nearest rank = (n, exponent))
    (positional : Number.layout.positional (exponent + (decimalDigits n).length - 1) = true)
    (reads : Reads rank exponent n) (few : -22 ≤ exponent)
    (small : n * 10 ^ (exponent + max 1 (-exponent).toNat).toNat < 2 ^ 53) :
    ReadsBack (.finite negative rank) := by
  have parts : realParts negative rank = positionalParts negative (decimalDigits n) exponent := by
    rw [realParts, if_neg some, found]
    exact if_pos positional
  obtain ⟨fraction, point, noExponent, length, value⟩ := positional_digits negative n exponent
  rw [← parts] at point noExponent value
  refine readsBack_of_parts point noExponent (value ▸ small) (by omega) (by omega) ?_
  rw [value, length]
  refine reads.congr ?_
  have point : (-((max 1 (-exponent).toNat : Nat) : Int)).toNat = 0 := by omega
  have places : (-(-((max 1 (-exponent).toNat : Nat) : Int))).toNat = max 1 (-exponent).toNat := by
    omega
  have shift : exponent.toNat + max 1 (-exponent).toNat =
      (exponent + max 1 (-exponent).toNat).toNat + (-exponent).toNat := by omega
  rw [point, places, Nat.pow_zero, Nat.mul_one, Nat.mul_assoc, Nat.mul_assoc, ← Nat.pow_add,
    ← Nat.pow_add, shift]

-- with more digits another double may come back: the one below one, `0.9999999999999999`, is read
-- as one
example : ¬ ReadsBack (.finite false ⟨Binary64.rankOne - 1, by decide⟩) := by decide +kernel

end Rule

end DetectionLink.Json
