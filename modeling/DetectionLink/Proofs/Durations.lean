import DetectionLink.Proofs.MediaTime
import DetectionLink.Proofs.ReadBack

/-!
# Seconds as durations

A number of seconds has a duration when it is not below zero and below `2 ^ 64`; its duration is
the nearest number of nanoseconds. So a positive number of seconds may have a duration of nothing:
that is what is left of half a nanosecond, or less.

* `Binary64.IsMagnitude`, `Binary64.FitsDuration`: numbers that have a duration;
* `ofSeconds_eq_ok_iff`, `exists_ofSeconds_iff`, `isNearest_ofSeconds`: which duration that is;
* `nanos_pos_iff`: when it is more than nothing;
* `inDouble_pos_iff`, `constantPause_pos_iff`: the wait between two attempts to connect passes
  through a double, where a part of a nanosecond joins it, and is nothing only if it was before.
-/

namespace DetectionLink

open Binary64 (unitsPerOne units nearestRank ofRank)

/-! ## Numbers that have a duration -/

namespace Binary64

/-- A number that is not below zero, with the rank of its value. A zero may have either sign. -/
def IsMagnitude (x : Binary64) (rank : Fin 0x7FF0000000000000) : Prop :=
  ∃ negative, x = .finite negative rank ∧ (negative = true → rank.val = 0)

/-- Not below zero, and below `2 ^ 64`. -/
def FitsDuration (x : Binary64) : Prop :=
  ∃ rank, x.IsMagnitude rank ∧ units rank < Duration.secondsLimit * unitsPerOne

/-- More than half a nanosecond, as a number of seconds. -/
def ExceedsHalfNano (x : Binary64) : Prop :=
  ∃ rank, x.IsMagnitude rank ∧ unitsPerOne < 2 * (Duration.nanosPerSecond * units rank)

theorem IsMagnitude.unique {x : Binary64} {rank rank' : Fin 0x7FF0000000000000}
    (h : x.IsMagnitude rank) (h' : x.IsMagnitude rank') : rank = rank' := by
  obtain ⟨negative, rfl, -⟩ := h
  obtain ⟨negative', same, -⟩ := h'
  exact (Binary64.finite.inj same).2

end Binary64

/-- `roundHalfEven` gives nothing up to one half, which is on the side of the even zero. -/
theorem roundHalfEven_pos_iff (num : Nat) {den : Nat} (positive : 0 < den) :
    0 < roundHalfEven num den ↔ den < 2 * num := by
  obtain ⟨notAbove, notBelow, inside⟩ := roundHalfEven_spec num positive
  generalize roundHalfEven num den = nearest at notAbove notBelow inside
  constructor
  · intro some
    rcases Nat.lt_or_ge 1 nearest with several | single
    · have := Nat.mul_le_mul_right den several
      omega
    · obtain rfl : nearest = 1 := by omega
      have := inside rfl
      omega
  · intro more
    refine Nat.pos_of_ne_zero fun none => ?_
    rw [none] at notBelow
    omega

namespace Duration

/-- At most half a nanosecond from a number of seconds. -/
def IsNearest (d : Duration) (x : Binary64) : Prop :=
  ∃ rank, x.IsMagnitude rank ∧
    2 * (d.nanos * unitsPerOne) ≤ 2 * (nanosPerSecond * units rank) + unitsPerOne ∧
    2 * (nanosPerSecond * units rank) ≤ 2 * (d.nanos * unitsPerOne) + unitsPerOne

theorem ofSeconds_eq_ok_iff {x : Binary64} {d : Duration} :
    ofSeconds x = .ok d ↔ ∃ rank, x.IsMagnitude rank ∧
      units rank < secondsLimit * unitsPerOne ∧
      d = ⟨roundHalfEven (nanosPerSecond * units rank) unitsPerOne⟩ := by
  constructor
  · intro converted
    cases x with
    | nan => cases converted
    | infinite _ => cases converted
    | finite negative rank =>
      rw [ofSeconds] at converted
      split at converted
      · cases converted
      · next notBelow =>
        split at converted
        · cases converted
        · next within =>
          refine ⟨rank, ⟨negative, rfl, fun sign => ?_⟩, Nat.lt_of_not_le within,
            (Except.ok.inj converted).symm⟩
          by_contra some
          have positive := Binary64.units_strictMono (Nat.pos_of_ne_zero some)
          exact notBelow ⟨sign, Nat.ne_of_gt positive⟩
  · rintro ⟨rank, ⟨negative, rfl, unsigned⟩, within, rfl⟩
    rw [ofSeconds, if_neg, if_neg (Nat.not_le_of_lt within)]
    rintro ⟨sign, some⟩
    exact some (by rw [unsigned sign, Binary64.units_zero])

theorem exists_ofSeconds_iff {x : Binary64} :
    (∃ d, ofSeconds x = .ok d) ↔ x.FitsDuration := by
  constructor
  · rintro ⟨d, converted⟩
    obtain ⟨rank, magnitude, within, -⟩ := ofSeconds_eq_ok_iff.mp converted
    exact ⟨rank, magnitude, within⟩
  · rintro ⟨rank, magnitude, within⟩
    exact ⟨_, ofSeconds_eq_ok_iff.mpr ⟨rank, magnitude, within, rfl⟩⟩

theorem isNearest_ofSeconds {x : Binary64} {d : Duration} (converted : ofSeconds x = .ok d) :
    d.IsNearest x := by
  obtain ⟨rank, magnitude, -, rfl⟩ := ofSeconds_eq_ok_iff.mp converted
  obtain ⟨notAbove, notBelow, -⟩ :=
    roundHalfEven_spec (nanosPerSecond * units rank) unitsPerOne_pos
  exact ⟨rank, magnitude, notAbove, notBelow⟩

/-- A duration is more than nothing when it was made of more than half a nanosecond. -/
theorem nanos_pos_iff {x : Binary64} {d : Duration} (converted : ofSeconds x = .ok d) :
    0 < d.nanos ↔ x.ExceedsHalfNano := by
  obtain ⟨rank, magnitude, -, rfl⟩ := ofSeconds_eq_ok_iff.mp converted
  have half := roundHalfEven_pos_iff (nanosPerSecond * units rank) unitsPerOne_pos
  constructor
  · exact fun some => ⟨rank, magnitude, half.mp some⟩
  · rintro ⟨rank', magnitude', more⟩
    obtain rfl := magnitude.unique magnitude'
    exact half.mpr more

end Duration

/-! ## Durations in doubles -/

namespace Binary64

/-- The rank of the nanoseconds of a second. -/
def rankBillion : Fin 0x7FF0000000000000 := ⟨0x41CDCD6500000000, by decide⟩

theorem ofNat_nanosPerSecond :
    Binary64.ofNat Duration.nanosPerSecond = .finite false rankBillion := by
  decide +kernel

/-- A sum is not below its first summand. -/
theorem atMost_add (a : Nat) (rank : Fin 0x7FF0000000000000) :
    AtMost (ofRank false a) ((ofRank false a).add (.finite false rank)) := by
  rcases Nat.lt_or_ge a infinityRank with low | beyond
  · rw [ofRank_finite ⟨a, low⟩, Binary64.add]
    simp only [signedUnits, Bool.false_eq_true, if_false, Bool.and_self]
    split
    · next none =>
      have least : a = 0 := by
        by_contra some
        have := units_strictMono (Nat.pos_of_ne_zero some)
        rw [units_zero] at this
        omega
      exact ⟨a, 0, Nat.le_of_eq least, (ofRank_finite _).symm, rfl⟩
    · next some =>
      have sum : ((units a : Int) + units rank).natAbs = units a + units rank := by omega
      have sign : decide ((units a : Int) + units rank < 0) = false := by simp; omega
      rw [sum, sign]
      refine ⟨a, nearestRank (units a + units rank) 1, ?_, (ofRank_finite _).symm, rfl⟩
      calc a = nearestRank (units a) 1 := (nearestRank_units a).symm
        _ ≤ nearestRank (units a + units rank) 1 :=
          nearestRank_le Nat.one_pos Nat.one_pos (Nat.mul_le_mul_right 1 (Nat.le_add_right ..))
  · rw [ofRank_infinite beyond]
    exact ⟨a, a, Nat.le_refl a, (ofRank_infinite beyond).symm, (ofRank_infinite beyond).symm⟩

theorem zero_add (rank : Fin 0x7FF0000000000000) :
    Binary64.zero.add (.finite false rank) = .finite false rank := by
  have sum : signedUnits false 0 + signedUnits false rank = (units rank : Int) := by
    simp [signedUnits]
  rw [Binary64.zero, Binary64.add]
  dsimp only
  rw [sum]
  split
  · next none =>
    have least : rank.val = 0 := by
      by_contra some
      have := units_strictMono (Nat.pos_of_ne_zero some)
      rw [units_zero] at this
      omega
    rw [← least]
    exact ofRank_finite rank
  · have sign : decide ((units rank : Int) < 0) = false := by simp
    rw [sign, Int.natAbs_natCast, ofUnits, nearestRank_units]
    exact ofRank_finite rank

theorem toCount_ofNat {n : Nat} (small : n < 2 ^ 53) : (Binary64.ofNat n).toCount = n := by
  obtain ⟨rank, same, value⟩ := Json.ofRatio_small false small
  have size : UInt64.size = 2 ^ 64 := rfl
  rw [Binary64.ofNat, same, toCount, value]
  rw [Nat.mul_div_cancel_left n unitsPerOne_pos]
  simp
  omega

/-- The whole part of a number reaches a count exactly if the number does. -/
theorem le_toCount_iff {n : Nat} (small : n < 2 ^ 53) (a : Nat) :
    n ≤ (ofRank false a).toCount ↔ AtMost (.ofNat n) (ofRank false a) := by
  refine ⟨fun reached => ?_, fun order => toCount_ofNat small ▸ order.toCount⟩
  obtain ⟨rank, same, value⟩ := Json.ofRatio_small false small
  rcases Nat.lt_or_ge a infinityRank with low | beyond
  · rw [ofRank_finite ⟨a, low⟩, toCount] at reached
    have enough : n * unitsPerOne ≤ units a :=
      (Nat.le_div_iff_mul_le unitsPerOne_pos).mp (reached.trans (Nat.min_le_left ..))
    rw [Nat.mul_comm, ← value] at enough
    exact ⟨rank, a, units_strictMono.le_iff_le.mp enough, same.trans (ofRank_finite rank).symm, rfl⟩
  · exact ⟨rank, a, rank.isLt.le.trans beyond, same.trans (ofRank_finite rank).symm, rfl⟩

theorem AtMost.finite {x : Binary64} {rank : Fin 0x7FF0000000000000}
    (h : AtMost x (.finite false rank)) : ∃ rank', x = .finite false rank' := by
  obtain ⟨a, b, order, rfl, same⟩ := h
  have low : b < infinityRank := by
    by_contra beyond
    rw [ofRank_infinite (Nat.le_of_not_lt beyond)] at same
    cases same
  exact ⟨⟨a, order.trans_lt low⟩, ofRank_finite ⟨a, order.trans_lt low⟩⟩

/-- A part of a one is a double, of which no whole part is left. -/
theorem exists_part (part : Fin Duration.partsPerNano) :
    ∃ rank, Binary64.ofRatio false part Duration.partsPerNano = .finite false rank ∧
      (Binary64.finite false rank).toCount = 0 := by
  have largest : Binary64.ofRatio false (Duration.partsPerNano - 1) Duration.partsPerNano =
      .finite false ⟨0x3FEFFFFFFFFFFFFF, by decide⟩ := by decide +kernel
  have nothing : (Binary64.finite false ⟨0x3FEFFFFFFFFFFFFF, by decide⟩).toCount = 0 := by
    decide +kernel
  have order := atMost_ofRatio (show 0 < Duration.partsPerNano by decide)
    (Nat.le_sub_one_of_lt part.isLt)
  rw [largest] at order
  obtain ⟨rank, finite⟩ := order.finite
  have counted := order.toCount
  rw [finite, nothing] at counted
  exact ⟨rank, finite, Nat.le_zero.mp counted⟩

end Binary64

namespace Duration

open Binary64 (AtMost atMost_add atMost_ofNat rankBillion ofNat_nanosPerSecond)

/-- Products and quotients with the nanoseconds of a second. -/
theorem billion_spec :
    (Binary64.ofNat 0).mul (.finite false rankBillion) = .zero ∧ inNanos ⟨0⟩ = .zero ∧
      1 ≤ ((Binary64.ofNat 1).mul (.finite false rankBillion)).toCount ∧
      ((Binary64.ofNat 1).div (.finite false rankBillion)).toCount = 0 ∧
      ((Binary64.finite false rankBillion).div (.finite false rankBillion)).toCount = 1 := by
  decide +kernel

theorem subsecond_lt (d : Duration) : d.subsecond < 2 ^ 53 :=
  (Nat.mod_lt d.nanos (show 0 < nanosPerSecond by decide)).trans (by decide)

/-- The nanoseconds in a double are at least those beyond the seconds, and at least as many as the
seconds have. -/
theorem exists_inNanos (d : Duration) : ∃ a, d.inNanos = ofRank false a ∧
    AtMost (.ofNat d.subsecond) d.inNanos ∧
    AtMost ((Binary64.ofNat d.seconds).mul (.ofNat nanosPerSecond)) d.inNanos := by
  have billion : rankBillion.val ≠ 0 := by decide
  obtain ⟨rest, finite, -⟩ := Json.ofRatio_small false d.subsecond_lt
  have least := (atMost_ofNat d.seconds.zero_le).mul billion
  have beyond := least.add rest
  rw [billion_spec.1, Binary64.zero_add] at beyond
  obtain ⟨-, b, -, -, product⟩ := least
  have whole := atMost_add b rest
  rw [← product] at whole
  have ⟨_, a, _, _, sum⟩ := whole
  unfold inNanos
  rw [ofNat_nanosPerSecond, show Binary64.ofNat d.subsecond = _ from finite]
  exact ⟨a, sum, beyond, whole⟩

theorem one_le_inNanos_iff (d : Duration) : 1 ≤ d.inNanos.toCount ↔ 0 < d.nanos := by
  obtain ⟨-, -, beyond, whole⟩ := d.exists_inNanos
  obtain ⟨-, nothing, second, -⟩ := billion_spec
  constructor
  · intro some
    refine Nat.pos_of_ne_zero fun none => ?_
    obtain rfl : d = ⟨0⟩ := congrArg Duration.mk none
    rw [nothing] at some
    exact absurd some (by decide)
  · intro some
    rcases Nat.eq_zero_or_pos d.subsecond with none | rest
    · have seconds : 1 ≤ d.seconds := Nat.pos_of_ne_zero fun none' => by
        have split : nanosPerSecond * d.seconds + d.subsecond = d.nanos := Nat.div_add_mod ..
        rw [none, none'] at split
        exact Nat.ne_of_lt some split
      have billion : rankBillion.val ≠ 0 := by decide
      rw [ofNat_nanosPerSecond] at whole
      exact (second.trans ((atMost_ofNat seconds).mul billion).toCount).trans whole.toCount
    · have counted := beyond.toCount
      rw [Binary64.toCount_ofNat d.subsecond_lt] at counted
      exact rest.trans_le counted

/-- Of a number of nanoseconds there is more than nothing left exactly if it has a whole part. -/
theorem ofNanos_pos_iff (a : Nat) :
    0 < (ofNanos (ofRank false a)).nanos ↔ 1 ≤ (ofRank false a).toCount := by
  have billion : rankBillion.val ≠ 0 := by decide
  obtain ⟨-, -, -, one, same⟩ := billion_spec
  unfold ofNanos
  rw [ofNat_nanosPerSecond]
  dsimp only
  rcases Nat.lt_or_ge (ofRank false a).toCount nanosPerSecond with short | long
  · rw [Nat.mod_eq_of_lt short]
    refine ⟨fun some => ?_, fun some => Nat.add_pos_right _ some⟩
    by_contra none
    -- what is below one is nothing after the division as well
    have below : AtMost (ofRank false a) (.ofNat 1) := by
      rcases Nat.le_total a (nearestRank (unitsPerOne * 1) 1) with order | order
      · exact ⟨a, _, order, rfl, rfl⟩
      · have reached : AtMost (.ofNat 1) (ofRank false a) := ⟨_, a, order, rfl, rfl⟩
        exact absurd ((Binary64.le_toCount_iff (by decide) a).mpr reached) none
    have quotient := (below.div billion).toCount
    rw [one, Nat.le_zero] at quotient
    rw [quotient] at some
    omega
  · have order := (Binary64.le_toCount_iff (by decide) a).mp long
    rw [ofNat_nanosPerSecond] at order
    have quotient := (order.div billion).toCount
    rw [same] at quotient
    have positive := Nat.mul_pos (show 0 < nanosPerSecond by decide) quotient
    exact ⟨fun _ => le_trans (by decide) long, fun _ => positive.trans_le (Nat.le_add_right ..)⟩

/-- A duration of nothing stays one whatever part of a nanosecond joins it, and any other does not
become one. -/
theorem inDouble_pos_iff (d : Duration) (part : Fin partsPerNano) :
    0 < (d.inDouble part).nanos ↔ 0 < d.nanos := by
  obtain ⟨rank, finite, rounded⟩ := Binary64.exists_part part
  obtain ⟨a, double, -⟩ := d.exists_inNanos
  have more := atMost_add a rank
  have ⟨_, b, _, _, sum⟩ := more
  rw [sum] at more
  have whole : 0 < (d.inDouble part).nanos ↔ 1 ≤ (ofRank false b).toCount := by
    rw [inDouble, finite, double, sum, ofNanos_pos_iff]
  rw [whole]
  constructor
  · intro some
    refine Nat.pos_of_ne_zero fun none => ?_
    obtain rfl : d = ⟨0⟩ := congrArg Duration.mk none
    rw [← sum, ← double, billion_spec.2.1, Binary64.zero_add, rounded] at some
    cases some
  · intro some
    exact (d.one_le_inNanos_iff.mpr some).trans (double ▸ more.toCount)

end Duration

/-- A wait between attempts to connect is nothing only if the interval is, whatever part of a
nanosecond was added to it. -/
theorem Host.constantPause_pos_iff {elapsed interval timeout wait : Duration}
    {part : Fin Duration.partsPerNano}
    (again : Host.constantPause elapsed interval timeout part = some wait) :
    0 < wait.nanos ↔ 0 < interval.nanos := by
  unfold Host.constantPause at again
  dsimp only at again
  split at again
  · cases again
  · obtain rfl := Option.some.inj again
    exact interval.inDouble_pos_iff part

end DetectionLink
