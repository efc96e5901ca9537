import DetectionLink.Proofs.NumberParts
import DetectionLink.Proofs.ShortestDigits

/-!
# The texts of numbers

Every number that is written has proper parts: whole numbers are digits behind a sign, doubles are
written with a point or an exponent, and neither begins with a zero that does not belong there.

* `wholeParts`, `realParts`: the parts that are written;
* `proper_wholeParts`, `proper_realParts`: they are proper;
* `ofText?_wholeText`: whole numbers are read as what they are.
-/

namespace DetectionLink.Json

/-! ## Whole numbers -/

def wholeParts (n : Int) : NumberParts := ⟨decide (n < 0), decimalDigits n.natAbs, none, none⟩

theorem proper_wholeParts (n : Int) : (wholeParts n).Proper where
  whole := isDigits_decimalDigits _
  unpadded := hasNoPadding_decimalDigits _
  fraction := nofun
  exponent := nofun

theorem toList_wholeText (n : Int) : (Number.wholeText n).toList = (wholeParts n).text := by
  have sign : (if n < 0 then "-" else "").toList = NumberParts.signText (decide (n < 0)) := by
    by_cases negative : n < 0
    · rw [if_pos negative, decide_eq_true negative]
      rfl
    · rw [if_neg negative, decide_eq_false negative]
      rfl
  rw [Number.wholeText, String.toList_append, sign, String.toList_ofList]
  simp [NumberParts.text, wholeParts, NumberParts.fractionText, NumberParts.exponentText]

/-- A whole number that fits is read as itself. -/
theorem ofText?_wholeText {n : Int} (fits : FitsWord n) :
    Number.ofText? (.ofChars (Number.wholeText n).toList) = some (.whole n fits) := by
  have magnitude : (if decide (n < 0) = true then -(n.natAbs : Int) else (n.natAbs : Int)) = n := by
    by_cases negative : n < 0
    · rw [if_pos (decide_eq_true negative)]
      omega
    · rw [if_neg (by simpa using negative)]
      omega
  rw [toList_wholeText, ofChars_text (proper_wholeParts n)]
  simp only [Number.ofText?, wholeParts, Option.map_none, ofDigits_decimalDigits]
  rw [if_neg (by rw [decide_eq_true_eq]; omega)]
  simp only [magnitude]
  rw [dif_pos fits]

/-! ## Doubles -/

/-- Digits with the point set for `digits * 10 ^ exponent`, or behind all of them. -/
def positionalParts (negative : Bool) (digits : List Char) (exponent : Int) : NumberParts :=
  if 0 ≤ exponent then
    ⟨negative, digits ++ List.replicate exponent.toNat '0', some ['0'], none⟩
  else
    let places := (-exponent).toNat
    let padded := List.replicate (places + 1 - digits.length) '0' ++ digits
    let cut := padded.length - places
    ⟨negative, padded.take cut, some (padded.drop cut), none⟩

/-- One digit before the point, the others behind it, and an exponent. -/
def scientificParts (negative : Bool) (digits : List Char) (leading : Int) : NumberParts :=
  ⟨negative, digits.take 1, if digits.drop 1 = [] then none else some (digits.drop 1),
    some (decide (leading < 0), decimalDigits leading.natAbs)⟩

/-- The parts of a finite double. -/
def realParts (negative : Bool) (rank : Nat) : NumberParts :=
  if rank = 0 then ⟨negative, ['0'], some ['0'], none⟩
  else
    let (significand, exponent) := shortest Number.layout.nearest rank
    let digits := decimalDigits significand
    let leading := exponent + digits.length - 1
    if Number.layout.positional leading then positionalParts negative digits exponent
    else scientificParts negative digits leading

theorem negative_realParts (negative : Bool) (rank : Nat) :
    (realParts negative rank).negative = negative := by
  unfold realParts
  split
  · rfl
  · dsimp only
    split
    · unfold positionalParts
      split <;> rfl
    · rfl

theorem toList_positionalText (negative : Bool) (digits : List Char) (exponent : Int) :
    (positionalParts negative digits exponent).text = NumberParts.signText negative ++
      (Layout.positionalText Number.layout.wholeSuffix digits exponent).toList := by
  unfold positionalParts Layout.positionalText
  split <;> simp [NumberParts.text, NumberParts.fractionText, NumberParts.exponentText,
    Number.layout]

theorem toList_scientificText (negative : Bool) (digits : List Char) (leading : Int) :
    (scientificParts negative digits leading).text = NumberParts.signText negative ++
      (Layout.scientificText digits leading).toList := by
  unfold scientificParts Layout.scientificText
  have sign : (if leading < 0 then "-" else "+").toList =
      [if decide (leading < 0) = true then '-' else '+'] := by
    by_cases negative : leading < 0 <;> simp [negative]
  have fraction : (if digits.drop 1 = [] then "" else
        "." ++ String.ofList (digits.drop 1)).toList =
      NumberParts.fractionText (if digits.drop 1 = [] then none else some (digits.drop 1)) := by
    split <;> simp [NumberParts.fractionText]
  simp only [NumberParts.text, NumberParts.exponentText, String.toList_append, fraction, sign,
    String.toList_ofList, List.append_assoc]
  rfl

theorem toList_realText (negative : Bool) (rank : Fin 0x7FF0000000000000) :
    (Number.real (.finite negative rank)).text.toList = (realParts negative rank).text := by
  have sign : (if negative then "-" else "").toList = NumberParts.signText negative := by
    cases negative <;> rfl
  have text : (Number.real (.finite negative rank)).text.toList = NumberParts.signText negative ++
      (Number.layout.magnitudeText rank).toList := by
    rw [← sign, ← String.toList_append]
    rfl
  rw [text]
  unfold realParts Layout.magnitudeText
  by_cases zero : rank.val = 0
  · rw [if_pos zero, if_pos zero]
    rfl
  · rw [if_neg zero, if_neg zero]
    dsimp only
    split
    · exact (toList_positionalText ..).symm
    · exact (toList_scientificText ..).symm

/-! ### Proper parts -/

theorem isDigits_zero : IsDigits ['0'] := isDigits_decimalDigits 0

/-- Digits without a zero in front, or the lone zero that stands for no digits found. -/
def Leading (digits : List Char) (exponent : Int) : Prop :=
  digits.head? ≠ some '0' ∨ digits = ['0'] ∧ exponent = 0

theorem isDigits_padded {digits : List Char} (h : IsDigits digits) (n : Nat) :
    ∀ c ∈ List.replicate n '0' ++ digits, c.isDigit = true := by
  refine List.forall_mem_append.mpr ⟨fun c mem => ?_, h.2⟩
  rw [List.eq_of_mem_replicate mem]
  rfl

theorem proper_positionalParts (negative : Bool) {digits : List Char} {exponent : Int}
    (h : IsDigits digits) (leading : Leading digits exponent) :
    (positionalParts negative digits exponent).Proper := by
  unfold positionalParts
  split
  · refine ⟨h.append fun c mem => ?_, ?_, ?_, nofun⟩
    · rw [List.eq_of_mem_replicate mem]
      rfl
    · rcases leading with first | ⟨rfl, rfl⟩
      · refine .inr ?_
        rwa [List.head?_append_of_ne_nil _ h.1]
      · exact .inl rfl
    · intro fraction mem
      obtain rfl := Option.some.inj mem
      exact isDigits_zero
  · next below =>
    have first : digits.head? ≠ some '0' := leading.resolve_right fun zero => by omega
    have all := isDigits_padded h ((-exponent).toNat + 1 - digits.length)
    have nonempty : 0 < digits.length := List.length_pos_of_ne_nil h.1
    have length : (List.replicate ((-exponent).toNat + 1 - digits.length) '0' ++ digits).length =
        (-exponent).toNat + 1 - digits.length + digits.length := by simp
    refine ⟨⟨?_, fun c mem => all c (List.mem_of_mem_take mem)⟩, ?_, ?_, nofun⟩
    · exact List.ne_nil_of_length_pos (by rw [List.length_take]; omega)
    · dsimp only
      rcases Nat.lt_or_ge (-exponent).toNat digits.length with long | short
      · -- more digits than places: no zero is put in front
        have none : (-exponent).toNat + 1 - digits.length = 0 := by omega
        rw [none, List.replicate_zero, List.nil_append, HasNoPadding, List.head?_take,
          if_neg (by omega)]
        exact .inr first
      · obtain ⟨zeros, more⟩ : ∃ zeros, (-exponent).toNat + 1 - digits.length = zeros + 1 :=
          ⟨(-exponent).toNat - digits.length, by omega⟩
        have one : (List.replicate ((-exponent).toNat + 1 - digits.length) '0' ++ digits).length -
            (-exponent).toNat = 1 := by omega
        rw [one, more, List.replicate_succ]
        exact .inl rfl
    · intro fraction mem
      obtain rfl := Option.some.inj mem
      refine ⟨List.ne_nil_of_length_pos ?_, fun c mem => all c (List.mem_of_mem_drop mem)⟩
      rw [List.length_drop]
      omega

theorem proper_scientificParts (negative : Bool) {digits : List Char} (exponent leading : Int)
    (h : IsDigits digits) (first : Leading digits exponent) :
    (scientificParts negative digits leading).Proper := by
  obtain ⟨c, rest, rfl⟩ := List.exists_cons_of_ne_nil h.1
  obtain ⟨digit, others⟩ := List.forall_mem_cons.mp h.2
  refine ⟨⟨nofun, List.forall_mem_singleton.mpr digit⟩, ?_, fun fraction mem => ?_, fun e mem => ?_⟩
  · rcases first with first | ⟨zero, _⟩
    · exact .inr first
    · obtain ⟨rfl, _⟩ := List.cons.inj zero
      exact .inl rfl
  · unfold scientificParts at mem
    dsimp only at mem
    split at mem
    · exact absurd mem nofun
    · next some =>
      obtain rfl := Option.some.inj mem
      exact ⟨some, others⟩
  · obtain rfl := Option.some.inj mem
    exact isDigits_decimalDigits _

theorem leading_shortest (nearest : Nat → Nat → Nat) {rank : Nat} (positive : 0 < rank) :
    Leading (decimalDigits (shortest nearest rank).1) (shortest nearest rank).2 := by
  rcases reads_shortest nearest rank with none | reads
  · rw [none]
    exact .inr ⟨rfl, rfl⟩
  · exact .inl (head?_decimalDigits (reads.pos positive))

theorem proper_realParts (negative : Bool) (rank : Nat) : (realParts negative rank).Proper := by
  unfold realParts
  split
  · refine ⟨isDigits_zero, .inl rfl, fun fraction mem => ?_, nofun⟩
    obtain rfl := Option.some.inj mem
    exact isDigits_zero
  · next some =>
    have leading := leading_shortest Number.layout.nearest (Nat.pos_of_ne_zero some)
    dsimp only
    split
    · exact proper_positionalParts negative (isDigits_decimalDigits _) leading
    · exact proper_scientificParts negative _ _ (isDigits_decimalDigits _) leading

end DetectionLink.Json
