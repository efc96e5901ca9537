import DetectionLink.Proofs.Ranking

/-!
# A canonical message stays as it is

The detections of a message, reported once more, make the same message. Their order is the order
of their confidences, so sorting moves none of them; and each confidence is the double nearest a
number of thousandths, which clamping leaves alone and which rounds to the same number again.

* `units_succ_gap`: how far apart neighbouring doubles are;
* `roundedCount_thousandthRank`: thousandths are rounded to themselves;
* `Settled`, `settled_confidence`: confidences that clamping and rounding leave as they are;
* `ranked_reported`, `placedFrom_reported`: sorting and placing what is in order already;
* `rebuilt_message_identical`: a message built of its own detections.
-/

namespace DetectionLink

open Binary64 (unitsPerOne units nearestRank rankOne binade)

/-! ## Thousandths are rounded to themselves -/

/-- Neighbouring doubles differ by one part in `2 ^ 52`, or by the smallest double. -/
theorem units_succ_gap (rank : Nat) :
    binade * units (rank + 1) ≤ binade * units rank + units rank + binade := by
  obtain ⟨shift, v, rfl, low, high⟩ := Binary64.exists_scaled rank
  rw [Binary64.units_succ_scaled low high, Binary64.units_scaled low (Nat.le_of_lt high)]
  have gap : binade * 2 ^ shift ≤ v * 2 ^ shift + binade := by
    rcases low with rfl | normal
    · omega
    · exact Nat.le_add_right_of_le (Nat.mul_le_mul_right _ normal)
  calc binade * ((v + 1) * 2 ^ shift) = binade * (v * 2 ^ shift) + binade * 2 ^ shift := by ring
    _ ≤ binade * (v * 2 ^ shift) + (v * 2 ^ shift + binade) := Nat.add_le_add_left gap _
    _ = _ := by ring

/-- A quotient is no further from the double nearest to it than half of a gap. -/
theorem close_of_isNearest {num den rank : Nat} (h : Binary64.IsNearest num den rank) :
    binade * (2 * num) ≤ (2 * (binade * units rank) + units rank + binade) * den ∧
    2 * (binade * units rank) * den ≤ binade * (2 * num) + (units rank + binade) * den := by
  refine ⟨?_, ?_⟩
  · have above := units_succ_gap rank
    calc binade * (2 * num) ≤ binade * ((units rank + units (rank + 1)) * den) :=
          Nat.mul_le_mul_left _ h.high
      _ = (binade * units rank + binade * units (rank + 1)) * den := by ring
      _ ≤ _ := Nat.mul_le_mul_right den (by omega)
  · have below : binade * units rank ≤ binade * units (rank - 1) + units rank + binade := by
      rcases Nat.eq_zero_or_pos rank with rfl | positive
      · simp
      · have gap := units_succ_gap (rank - 1)
        have order := Binary64.units_strictMono (Nat.sub_lt positive Nat.one_pos)
        rw [Nat.sub_add_cancel positive] at gap
        omega
    calc 2 * (binade * units rank) * den
        ≤ (binade * units (rank - 1) + binade * units rank + (units rank + binade)) * den :=
          Nat.mul_le_mul_right den (by omega)
      _ = binade * ((units (rank - 1) + units rank) * den) + (units rank + binade) * den := by ring
      _ ≤ _ := Nat.add_le_add_right (Nat.mul_le_mul_left _ h.low) _

theorem roundHalfUp_eq {num den n : Nat} (low : den * (2 * n) ≤ 2 * num + den)
    (high : 2 * num + den < den * (2 * n) + 2 * den) : roundHalfUp num den = n := by
  refine Nat.div_eq_of_lt_le ?_ ?_
  · calc n * (2 * den) = den * (2 * n) := by ring
      _ ≤ _ := low
  · calc 2 * num + den < den * (2 * n) + 2 * den := high
      _ = (n + 1) * (2 * den) := by ring

/-- A binade has far fewer ranks than one has units. -/
theorem million_binades_le : 1000000 * binade ≤ unitsPerOne := by decide +kernel

/-- Two roundings of at most a thousand, the second behind a product with a thousand, are not off by
a half. -/
theorem off_by_less {one scaled once twice : Nat} (fine : 1000000 * binade ≤ one)
    (most : scaled ≤ one * 1000)
    (rank : binade * (2 * scaled) ≤ (2 * (binade * once) + once + binade) * 1000 ∧
      2 * (binade * once) * 1000 ≤ binade * (2 * scaled) + (once + binade) * 1000)
    (product : binade * (2 * (1000 * once)) ≤ (2 * (binade * twice) + twice + binade) * 1 ∧
      2 * (binade * twice) * 1 ≤ binade * (2 * (1000 * once)) + (twice + binade) * 1) :
    2 * scaled ≤ 2 * twice + one ∧ 2 * twice + one < 2 * scaled + 2 * one := by
  simp only [binade] at *
  omega

/-- Thousandths are rounded to themselves. -/
theorem roundedCount_thousandthRank {count : Nat} (most : count ≤ 1000) :
    roundedCount (thousandthRank count) = count := by
  have factor : units (thousandthRank count) * (unitsPerOne * 1000) =
      unitsPerOne * (1000 * units (thousandthRank count)) := by ring
  have product : nearestRank (units (thousandthRank count) * units rankThousand) unitsPerOne =
      nearestRank (1000 * units (thousandthRank count)) 1 := by
    have cancelled := Binary64.nearestRank_mul (1000 * units (thousandthRank count)) unitsPerOne_pos
      Nat.one_pos
    rwa [Nat.mul_one, ← factor, ← units_rankThousand] at cancelled
  have rank : Binary64.IsNearest (unitsPerOne * count) 1000 (thousandthRank count) :=
    Binary64.isNearest_nearestRank _ (by decide)
  have raised :=
    Binary64.isNearest_nearestRank (1000 * units (thousandthRank count)) Nat.one_pos
  obtain ⟨low, high⟩ := off_by_less million_binades_le (Nat.mul_le_mul_left unitsPerOne most)
    (close_of_isNearest rank) (close_of_isNearest raised)
  rw [← Nat.mul_left_comm] at low high
  rw [roundedCount, product]
  exact roundHalfUp_eq low high

/-! ## Settled confidences -/

/-- Clamping and rounding leave a confidence as it is. -/
structure Settled (confidence : Binary64) : Prop where
  clamped : confidence.clamp .zero .one = confidence
  rounded : roundConfidence confidence = confidence

theorem settled_thousandths {negative : Bool} {count : Nat} (most : count ≤ 1000)
    (unsigned : negative = true → count = 0) : Settled (thousandths negative count) := by
  have below := thousandthRank_le most
  have same := thousandths_eq negative most
  refine ⟨?_, ?_⟩
  · obtain ⟨kept, clamped, value⟩ :=
      clamp_finite negative ⟨thousandthRank count, thousandthRank_lt most⟩
    rw [same, clamped]
    cases negative with
    | false => rw [Bool.false_and, Fin.ext (value.trans (Nat.min_eq_left below))]
    | true =>
      have none : thousandthRank count = 0 := by rw [unsigned rfl, thousandthRank_zero]
      have kept_eq : kept = ⟨thousandthRank count, thousandthRank_lt most⟩ :=
        Fin.ext (value.trans none.symm)
      simp [kept_eq, none]
  · have rounded : roundConfidence
        (.finite negative ⟨thousandthRank count, thousandthRank_lt most⟩) = _ :=
      roundConfidence_finite negative below
    rw [roundedCount_thousandthRank most, ← same] at rounded
    exact rounded

theorem isNaN_of_isFinite {x : Binary64} (finite : x.isFinite = true) : x.isNaN = false := by
  cases x with
  | nan => cases finite
  | infinite _ => rfl
  | finite _ _ => rfl

/-- A confidence that was clamped and rounded once is settled, unless it was no number at all. -/
theorem settled_confidence {x : Binary64} (number : x.isNaN = false) :
    Settled (roundConfidence (x.clamp .zero .one)) := by
  -- what is infinite is clamped like zero or one
  obtain ⟨y, finite, same⟩ : ∃ y : Binary64, y.isFinite = true ∧
      x.clamp .zero .one = y.clamp .zero .one := by
    cases x with
    | nan => cases number
    | infinite negative =>
      cases negative with
      | true => exact ⟨.zero, rfl, by decide +kernel⟩
      | false => exact ⟨.one, by decide +kernel, by decide +kernel⟩
    | finite negative rank => exact ⟨.finite negative rank, rfl, rfl⟩
  obtain ⟨negative, count, most, unsigned, rounded⟩ := exists_thousandths finite
  rw [same, rounded]
  exact settled_thousandths most unsigned

/-! ## The detections of a message -/

open MessageBuilder (Call ofCalls lastTimestamp? suppliedBy)

/-- A detection of a message as a detector would report it. -/
def Detection.reported (d : Detection) : RawDetection := ⟨d.label, d.confidence, d.box⟩

namespace MessageBuilder

/-- A detection of a message is placed as it is. -/
theorem placed_reported {d : RawDetection} (finite : d.confidence.isFinite = true)
    (place again : Nat) : placed again (placed place d).reported = placed again d := by
  have settled := settled_confidence (isNaN_of_isFinite finite)
  simp only [placed, Detection.reported, settled.clamped, settled.rounded]

theorem placedFrom_reported {detections : List RawDetection}
    (finite : ∀ d ∈ detections, d.confidence.isFinite = true) (place : Nat) :
    placedFrom place ((placedFrom place detections).map Detection.reported) =
      placedFrom place detections := by
  induction detections generalizing place with
  | nil => rfl
  | cons d rest ih =>
    obtain ⟨first, others⟩ := List.forall_mem_cons.mp finite
    rw [placedFrom, List.map_cons, placedFrom, placed_reported first, ih others]

/-- What a message is made of again is valid. -/
theorem valid_reported {supplied : List RawDetection} (valid : ∀ d ∈ supplied, d.Valid)
    (place : Nat) : ∀ d ∈ (placedFrom place supplied).map Detection.reported, d.Valid := by
  intro again mem
  obtain ⟨d, inside, rfl⟩ := List.mem_map.mp mem
  have back := readsBack_placedFrom (fun d mem => (valid d mem).1) d inside
  refine ⟨isFinite_of_readsBack back, ?_⟩
  rw [placedFrom_eq] at inside
  obtain ⟨i, bound, rfl⟩ := List.mem_mapIdx.mp inside
  exact (valid _ (List.getElem_mem bound)).2

/-- The detections of a message are in order already. -/
theorem ranked_reported {supplied : List RawDetection} (valid : ∀ d ∈ supplied, d.Valid) :
    ranked ((placedFrom 1 (ranked supplied)).map Detection.reported) =
      (placedFrom 1 (ranked supplied)).map Detection.reported := by
  obtain ⟨ranking, ranks, sources⟩ := exists_ranking valid
  rw [placedFrom_ranked sources]
  refine List.mergeSort_of_pairwise (List.pairwise_map.mpr ?_)
  exact pairwise_numbered (fun d mem => (valid d.1 (ranks.mem_supplied mem)).1) ranks.descending

end MessageBuilder

/-- Any calls that supply the detections of a message, as the message has them and in its order,
and set its timestamp last build that message: sorting moves none of the detections, and a
confidence that was clamped and rounded once, that of any number or infinity, is left as it is by
either. -/
theorem rebuilt_message_identical {calls : List Call} {m : DetectionMessage}
    (built : (ofCalls calls).build = .ok m) :
    DetectionMessage.ofDetections m.timestampMs (m.detections.map Detection.reported) = .ok m ∧
    (∀ again : List Call, lastTimestamp? again = some m.timestampMs →
      suppliedBy again = m.detections.map Detection.reported → (ofCalls again).build = .ok m) ∧
    MessageBuilder.ranked (m.detections.map Detection.reported) =
      m.detections.map Detection.reported ∧
    ∀ x : Binary64, x.isNaN = false → Settled (roundConfidence (x.clamp .zero .one)) := by
  obtain ⟨timestampMs, -, valid, rfl⟩ := MessageBuilder.eq_of_build built
  have inOrder : ∀ d ∈ MessageBuilder.ranked (suppliedBy calls), d.Valid :=
    fun d mem => valid d (List.mem_mergeSort.mp mem)
  have unmoved := MessageBuilder.ranked_reported valid
  have rebuilt (again : List Call) (set : lastTimestamp? again = some timestampMs)
      (supplied : suppliedBy again = (MessageBuilder.placedFrom 1
        (MessageBuilder.ranked (suppliedBy calls))).map Detection.reported) :
      (ofCalls again).build =
        .ok ⟨timestampMs,
          MessageBuilder.placedFrom 1 (MessageBuilder.ranked (suppliedBy calls))⟩ := by
    have validAgain := MessageBuilder.valid_reported inOrder 1
    rw [MessageBuilder.build_of_valid set (supplied ▸ validAgain), supplied, unmoved,
      MessageBuilder.placedFrom_reported fun d mem => (inOrder d mem).1]
  refine ⟨?_, rebuilt, unmoved, fun x => settled_confidence⟩
  rw [ofDetections_eq]
  exact rebuilt _ (lastTimestamp?_frameCalls ..) (suppliedBy_frameCalls ..)

/-- Two confidences that are rounded to one, a half of a thousandth, one above one and a negative
zero. -/
def noisyFound : List RawDetection :=
  [⟨"owl", .ofRatio true 0 1, ⟨5, 5, 5, 5⟩⟩, ⟨"cat", .ofRatio false 9001 10000, ⟨0, 0, 1, 1⟩⟩,
    ⟨"elk", .ofRatio false 5 10000, ⟨9, 9, 9, 9⟩⟩, ⟨"cow", .ofRatio false 3 2, ⟨0, 0, 2, 2⟩⟩,
    ⟨"dog", .ofRatio false 9004 10000, ⟨1, 2, 3, 4⟩⟩]

def noisyMessage : DetectionMessage where
  timestampMs := 7
  detections :=
    [⟨"1", "cow", .one, ⟨0, 0, 2, 2⟩⟩, ⟨"2", "dog", thousandths false 900, ⟨1, 2, 3, 4⟩⟩,
      ⟨"3", "cat", thousandths false 900, ⟨0, 0, 1, 1⟩⟩,
      ⟨"4", "elk", thousandths false 1, ⟨9, 9, 9, 9⟩⟩,
      ⟨"5", "owl", thousandths true 0, ⟨5, 5, 5, 5⟩⟩]

theorem rebuilt_message_of_noisyFound :
    (ofCalls (frameCalls 7 noisyFound)).build = .ok noisyMessage ∧
    DetectionMessage.ofDetections 7 (noisyMessage.detections.map Detection.reported) =
      .ok noisyMessage := by
  have supplied := suppliedBy_frameCalls 7 noisyFound
  have valid : ∀ d ∈ noisyFound, d.Valid := by
    unfold RawDetection.Valid
    decide +kernel
  obtain ⟨ranking, ranks, sources⟩ := MessageBuilder.exists_ranking valid
  have shown : IsRanking noisyFound
      [(⟨"cow", .ofRatio false 3 2, ⟨0, 0, 2, 2⟩⟩, 3),
        (⟨"dog", .ofRatio false 9004 10000, ⟨1, 2, 3, 4⟩⟩, 4),
        (⟨"cat", .ofRatio false 9001 10000, ⟨0, 0, 1, 1⟩⟩, 1),
        (⟨"elk", .ofRatio false 5 10000, ⟨9, 9, 9, 9⟩⟩, 2),
        (⟨"owl", .ofRatio true 0 1, ⟨5, 5, 5, 5⟩⟩, 0)] :=
    ⟨by decide +kernel, by decide +kernel, by decide +kernel⟩
  have built : (ofCalls (frameCalls 7 noisyFound)).build = .ok noisyMessage := by
    rw [MessageBuilder.build_of_valid (lastTimestamp?_frameCalls ..) (supplied.symm ▸ valid),
      supplied, placedFrom_ranked sources, ← ranks.unique shown]
    decide +kernel
  exact ⟨built, (rebuilt_message_identical built).1⟩

end DetectionLink
