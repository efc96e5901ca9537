import DetectionLink.Number.Decimal
import DetectionLink.Proofs.Rounding

/-!
# The digits of a double

The search for the fewest digits stops at a multiple of a power of ten that rounds to the double.
It stops at the first grid that has such a multiple, and it misses none.

* `Reads`: a decimal rounds to a rank;
* `reads_of_onGrid?`, `exists_onGrid?`: a grid gives such a decimal exactly when it has one;
* `reads_shortest`: so do the digits found;
* `exponent_shortest_ge`: a double near a short decimal has few digits.
-/

namespace DetectionLink

open Binary64 (unitsPerOne units IsNearest nearestRank)

/-- The double nearest `n * 10 ^ step` is that of the rank. -/
def Reads (rank : Nat) (step : Int) (n : Nat) : Prop :=
  IsNearest (unitsPerOne * (n * 10 ^ step.toNat)) (10 ^ (-step).toNat) rank

/-- The test of the search. -/
def readsAt (rank : Nat) (step : Int) (n : Nat) : Bool :=
  let down := Nat.pow 10 (-step).toNat
  let low := (units (rank - 1) + units rank) * down
  let high := (units rank + units (rank + 1)) * down
  let spacing := 2 * (unitsPerOne * Nat.pow 10 step.toNat)
  if rank % 2 = 0 then low ≤ spacing * n ∧ spacing * n ≤ high
  else low < spacing * n ∧ spacing * n < high

theorem readsAt_iff {rank : Nat} {step : Int} {n : Nat} :
    readsAt rank step n = true ↔ Reads rank step n := by
  have product : 2 * (unitsPerOne * Nat.pow 10 step.toNat) * n =
      2 * (unitsPerOne * (n * 10 ^ step.toNat)) := by
    show 2 * (unitsPerOne * 10 ^ step.toNat) * n = _
    ring
  unfold readsAt
  dsimp only
  rw [product]
  split
  · next even =>
    rw [decide_eq_true_eq]
    exact ⟨fun h => ⟨h.1, h.2, fun odd => by omega⟩, fun h => ⟨h.low, h.high⟩⟩
  · next odd =>
    rw [decide_eq_true_eq]
    exact ⟨fun h => ⟨Nat.le_of_lt h.1, Nat.le_of_lt h.2, fun _ => h⟩, fun h => h.inside (by omega)⟩

/-- Decimals of one value read alike. -/
theorem Reads.congr {rank n n' : Nat} {step step' : Int} (h : Reads rank step n)
    (same : n * 10 ^ step.toNat * 10 ^ (-step').toNat =
      n' * 10 ^ step'.toNat * 10 ^ (-step).toNat) : Reads rank step' n' := by
  have positive : 0 < 10 ^ (-step).toNat := Nat.pow_pos (by decide)
  have positive' : 0 < 10 ^ (-step').toNat := Nat.pow_pos (by decide)
  refine IsNearest.congr h positive positive' ?_
  calc unitsPerOne * (n * 10 ^ step.toNat) * 10 ^ (-step').toNat
      = unitsPerOne * (n * 10 ^ step.toNat * 10 ^ (-step').toNat) := by ring
    _ = _ := by rw [same]; ring

/-- The value of the rank lies above the lower midpoint and below the upper one. -/
theorem midpoints {rank : Nat} {num den : Nat} (positive : 0 < den) :
    (num ≤ units rank * den → 2 * num < (units rank + units (rank + 1)) * den) ∧
    (units rank * den < num → (units (rank - 1) + units rank) * den < 2 * num) := by
  have above := Binary64.units_strictMono (Nat.lt_add_one rank)
  have below := Binary64.units_strictMono.monotone (Nat.sub_le rank 1)
  have above := Nat.mul_lt_mul_of_pos_right above positive
  have below := Nat.mul_le_mul_right den below
  rw [Nat.add_mul, Nat.add_mul]
  omega

/-- Between a decimal that reads and the value of the rank all of a grid read. -/
theorem Reads.toward {rank n m : Nat} {step : Int} (h : Reads rank step n)
    (between : n ≤ m ∧ unitsPerOne * (m * 10 ^ step.toNat) ≤ units rank * 10 ^ (-step).toNat ∨
      m ≤ n ∧ units rank * 10 ^ (-step).toNat < unitsPerOne * (m * 10 ^ step.toNat)) :
    Reads rank step m := by
  have positive : 0 < 10 ^ (-step).toNat := Nat.pow_pos (by decide)
  have scaled {a b : Nat} (le : a ≤ b) :
      unitsPerOne * (a * 10 ^ step.toNat) ≤ unitsPerOne * (b * 10 ^ step.toNat) :=
    Nat.mul_le_mul_left _ (Nat.mul_le_mul_right _ le)
  have low := h.low
  have high := h.high
  have inside := h.inside
  rcases between with ⟨more, below⟩ | ⟨less, above⟩
  · have order := scaled more
    have strict := (midpoints positive).1 below
    exact ⟨by omega, by omega, by omega⟩
  · have order := scaled less
    have strict := (midpoints positive).2 above
    exact ⟨by omega, by omega, by omega⟩

/-! ## One grid -/

section Grid

variable {nearest : Nat → Nat → Nat} {rank n : Nat} {step : Int}

theorem onGrid?_eq (nearest : Nat → Nat → Nat) (rank : Nat) (step : Int) :
    onGrid? nearest rank step =
      let value := 2 * units rank * 10 ^ (-step).toNat
      let spacing := 2 * (unitsPerOne * 10 ^ step.toNat)
      if readsAt rank step (nearest value spacing) then some (nearest value spacing)
      else if readsAt rank step (value / spacing) then some (value / spacing)
      else if readsAt rank step (value / spacing + 1) then some (value / spacing + 1)
      else none := rfl

theorem reads_of_onGrid? (found : onGrid? nearest rank step = some n) : Reads rank step n := by
  rw [onGrid?_eq] at found
  rw [← readsAt_iff]
  dsimp only at found
  split at found
  · next reads => exact Option.some.inj found ▸ reads
  · split at found
    · next reads => exact Option.some.inj found ▸ reads
    · split at found
      · next reads => exact Option.some.inj found ▸ reads
      · exact absurd found nofun

/-- The value of the rank lies between two neighbours on the grid. -/
theorem readsAt_neighbour (reads : Reads rank step n) :
    readsAt rank step (2 * units rank * 10 ^ (-step).toNat /
        (2 * (unitsPerOne * 10 ^ step.toNat))) = true ∨
      readsAt rank step (2 * units rank * 10 ^ (-step).toNat /
        (2 * (unitsPerOne * 10 ^ step.toNat)) + 1) = true := by
  rw [readsAt_iff, readsAt_iff]
  have positive : 0 < 2 * (unitsPerOne * 10 ^ step.toNat) :=
    Nat.mul_pos (by decide) (Nat.mul_pos (by decide) (Nat.pow_pos (by decide)))
  have scaled (m : Nat) : m * (2 * (unitsPerOne * 10 ^ step.toNat)) =
      2 * (unitsPerOne * (m * 10 ^ step.toNat)) := by ring
  have value : 2 * units rank * 10 ^ (-step).toNat = 2 * (units rank * 10 ^ (-step).toNat) := by
    ring
  generalize below : 2 * units rank * 10 ^ (-step).toNat /
    (2 * (unitsPerOne * 10 ^ step.toNat)) = m
  have floor := (Nat.le_div_iff_mul_le positive).mp (Nat.le_of_eq below.symm)
  have ceiling := (Nat.div_lt_iff_lt_mul positive).mp (Nat.lt_add_one_of_le (Nat.le_of_eq below))
  rw [scaled, value] at floor ceiling
  rcases Nat.lt_or_ge m n with less | more
  · exact .inr (reads.toward (.inr ⟨less, by omega⟩))
  · exact .inl (reads.toward (.inl ⟨more, by omega⟩))

theorem exists_onGrid? (nearest : Nat → Nat → Nat) (reads : Reads rank step n) :
    ∃ found, onGrid? nearest rank step = some found := by
  have neighbour := readsAt_neighbour reads
  rw [onGrid?_eq]
  dsimp only
  split
  · exact ⟨_, rfl⟩
  · split
    · exact ⟨_, rfl⟩
    · next noBelow =>
      rw [if_pos (neighbour.resolve_left noBelow)]
      exact ⟨_, rfl⟩

end Grid

/-! ## The search -/

section Search

variable (nearest : Nat → Nat → Nat) (rank : Nat)

/-- The decimal exponent of the leading digit, where the search begins. -/
def leadingExponent : Int := floorLog10 (units rank) unitsPerOne

/-- Ten on a grid is one on the next. -/
def carried (digits : Nat) (step : Int) : Nat × Int :=
  if digits = 10 then (1, step + 1) else (digits, step)

/-- The search ends at the first grid that has a decimal for the rank. -/
theorem shortest_cases :
    (∀ fewer < 17, onGrid? nearest rank (leadingExponent rank - (fewer : Nat)) = none) ∧
      shortest nearest rank = (0, 0) ∨
    ∃ fewer digits, onGrid? nearest rank (leadingExponent rank - (fewer : Nat)) = some digits ∧
      (∀ more < fewer, onGrid? nearest rank (leadingExponent rank - (more : Nat)) = none) ∧
      shortest nearest rank = carried digits (leadingExponent rank - (fewer : Nat)) := by
  have unfolded : shortest nearest rank = ((List.range 17).findSome? fun (fewer : Nat) =>
      (onGrid? nearest rank (leadingExponent rank - fewer)).map fun digits =>
        carried digits (leadingExponent rank - fewer)).getD (0, 0) := rfl
  rw [unfolded]
  cases search : (List.range 17).findSome? fun (fewer : Nat) =>
      (onGrid? nearest rank (leadingExponent rank - fewer)).map fun digits =>
        carried digits (leadingExponent rank - fewer) with
  | none =>
    rw [List.findSome?_eq_none_iff] at search
    refine .inl ⟨fun fewer small => ?_, rfl⟩
    exact Option.map_eq_none_iff.mp (search fewer (List.mem_range.mpr small))
  | some found =>
    obtain ⟨before, fewer, after, range, here, notBefore⟩ := List.findSome?_eq_some_iff.mp search
    obtain ⟨digits, grid, rfl⟩ := Option.map_eq_some_iff.mp here
    refine .inr ⟨fewer, digits, grid, fun more less => ?_, rfl⟩
    have member : more ∈ before := by
      have sorted : (before ++ fewer :: after).Pairwise (· < ·) := range ▸ List.pairwise_lt_range
      have inRange : fewer ∈ List.range 17 := range ▸ List.mem_append_right _ List.mem_cons_self
      have bound := List.mem_range.mp inRange
      have somewhere : more ∈ before ++ fewer :: after :=
        range ▸ List.mem_range.mpr (Nat.lt_trans less bound)
      rcases List.mem_append.mp somewhere with earlier | other
      · exact earlier
      · rcases List.mem_cons.mp other with rfl | later
        · exact absurd less (Nat.lt_irrefl _)
        · have := (List.pairwise_cons.mp (List.pairwise_append.mp sorted).2.1).1 more later
          omega
    exact Option.map_eq_none_iff.mp (notBefore more member)

variable {rank}

theorem reads_carried {digits : Nat} {step : Int} (h : Reads rank step digits) :
    Reads rank (carried digits step).2 (carried digits step).1 := by
  unfold carried
  split
  · next ten =>
    subst ten
    refine h.congr ?_
    by_cases negative : step < 0
    · obtain ⟨n, rfl⟩ : ∃ n : Nat, step = -((n : Int) + 1) := ⟨(-step - 1).toNat, by omega⟩
      have exponents : (-((n : Int) + 1)).toNat = 0 ∧ (-((n : Int) + 1) + 1).toNat = 0 ∧
          (-(-((n : Int) + 1) + 1)).toNat = n ∧ (-(-((n : Int) + 1))).toNat = n + 1 := by omega
      rw [exponents.1, exponents.2.1, exponents.2.2.1, exponents.2.2.2]
      ring
    · obtain ⟨n, rfl⟩ := Int.eq_ofNat_of_zero_le (Int.not_lt.mp negative)
      have exponents : (n : Int).toNat = n ∧ ((n : Int) + 1).toNat = n + 1 ∧
          (-((n : Int) + 1)).toNat = 0 ∧ (-(n : Int)).toNat = 0 := by omega
      rw [exponents.1, exponents.2.1, exponents.2.2.1, exponents.2.2.2]
      ring
  · exact h

/-- The digits that are found read as the rank. -/
theorem reads_shortest (nearest : Nat → Nat → Nat) (rank : Nat) : shortest nearest rank = (0, 0) ∨
    Reads rank (shortest nearest rank).2 (shortest nearest rank).1 := by
  rcases shortest_cases nearest rank with ⟨_, none⟩ | ⟨fewer, digits, grid, _, found⟩
  · exact .inl none
  · rw [found]
    exact .inr (reads_carried (reads_of_onGrid? grid))

theorem Reads.pos {step : Int} {n : Nat} (h : Reads rank step n) (positive : 0 < rank) :
    0 < n := by
  have value := Binary64.units_strictMono positive
  have low : (units (rank - 1) + units rank) * 10 ^ (-step).toNat ≤ _ := h.low
  have product : 0 < (units (rank - 1) + units rank) * 10 ^ (-step).toNat :=
    Nat.mul_pos (by omega) (Nat.pow_pos (by decide))
  refine Nat.pos_of_ne_zero fun none => ?_
  rw [none, Nat.zero_mul, Nat.mul_zero] at low
  omega

/-- A double near a decimal of `places` places is found at no finer grid than that, nor than the
one where the search begins. -/
theorem exponent_shortest_ge {places n : Nat} (reads : Reads rank (-(places : Int)) n)
    (high : leadingExponent rank + places ≤ 16) :
    Reads rank (shortest nearest rank).2 (shortest nearest rank).1 ∧
      min (-(places : Int)) (leadingExponent rank) ≤ (shortest nearest rank).2 := by
  -- on the later of the two grids the decimal itself reads
  obtain ⟨fewer, small, le, m, there⟩ : ∃ fewer < 17,
      min (-(places : Int)) (leadingExponent rank) ≤ leadingExponent rank - (fewer : Nat) ∧
      ∃ m, Reads rank (leadingExponent rank - (fewer : Nat)) m := by
    by_cases below : leadingExponent rank < -(places : Int)
    · refine ⟨0, by decide, by omega, n * 10 ^ (-places - leadingExponent rank).toNat, ?_⟩
      refine reads.congr ?_
      have finer : (-(leadingExponent rank - (0 : Nat))).toNat =
          (-places - leadingExponent rank).toNat + places := by omega
      have whole : (-(places : Int)).toNat = 0 ∧ (leadingExponent rank - (0 : Nat)).toNat = 0 ∧
          (-(-(places : Int))).toNat = places := by omega
      rw [finer, whole.1, whole.2.1, whole.2.2]
      ring
    · refine ⟨(leadingExponent rank + places).toNat, by omega, by omega, n, ?_⟩
      have same : leadingExponent rank - ((leadingExponent rank + places).toNat : Nat) =
          -(places : Int) := by omega
      rwa [same]
  obtain ⟨found, grid⟩ := exists_onGrid? nearest there
  rcases shortest_cases nearest rank with ⟨none, _⟩ | ⟨first, digits, here, earlier, shape⟩
  · exact absurd (grid.symm.trans (none fewer small)) nofun
  · have order : first ≤ fewer := by
      by_contra later
      exact absurd (grid.symm.trans (earlier fewer (by omega))) nofun
    rw [shape]
    refine ⟨reads_carried (reads_of_onGrid? here), ?_⟩
    unfold carried
    split <;> dsimp only <;> omega

end Search

end DetectionLink
