import DetectionLink.Proofs.Rejection
import Mathlib.Data.List.Nodup

/-!
# The canonical message

A builder that has a timestamp and nothing but valid detections makes a message of them. The
detections are put in descending order of the confidences that were reported, those of one
confidence in the order of supply, and only then are they numbered and their confidences clamped
and rounded. Clamping and rounding keep the order, so the confidences in the message descend too.

* `place_confidence`, `confidence_le`: clamping and rounding keep the order;
* `IsRanking`, `exists_ranking`: the order of a message, and that sorting brings it about;
* `numbered`, `nodup_ids`, `pairwise_numbered`: the detections of a message in that order;
* `message_is_ranked_supply`: the message of any calls.
-/

namespace DetectionLink

open Binary64 (unitsPerOne nearestRank rankOne nearestRank_le_rankOne)

/-! ## Places -/

theorem exists_place {x : Binary64} (finite : x.isFinite = true) : ∃ p, x.place = some p := by
  cases x with
  | nan => cases finite
  | infinite _ => cases finite
  | finite negative rank => exact ⟨_, rfl⟩

theorem le_iff {x y : Binary64} {p q : Int} (hx : x.place = some p) (hy : y.place = some q) :
    x.le y = true ↔ p ≤ q := by
  simp [Binary64.le, hx, hy]

/-- The rank of a number of thousandths. -/
def thousandthRank (count : Nat) : Nat := nearestRank (unitsPerOne * count) 1000

theorem thousandthRank_mono {count count' : Nat} (order : count ≤ count') :
    thousandthRank count ≤ thousandthRank count' :=
  Binary64.nearestRank_le (by decide) (by decide)
    (Nat.mul_le_mul_right _ (Nat.mul_le_mul_left _ order))

theorem thousandthRank_le {count : Nat} (most : count ≤ 1000) : thousandthRank count ≤ rankOne :=
  nearestRank_le_rankOne (by decide) (Nat.mul_le_mul_left _ most)

theorem thousandthRank_zero : thousandthRank 0 = 0 := by decide +kernel

theorem thousandthRank_lt {count : Nat} (most : count ≤ 1000) :
    thousandthRank count < 0x7FF0000000000000 :=
  Nat.lt_of_le_of_lt (thousandthRank_le most) (by decide)

theorem thousandths_eq (negative : Bool) {count : Nat} (most : count ≤ 1000) :
    thousandths negative count = .finite negative ⟨thousandthRank count, thousandthRank_lt most⟩ :=
  dif_pos (thousandthRank_lt most)

/-- A zero stands at the same place with either sign. -/
theorem place_thousandths {negative : Bool} {count : Nat} (most : count ≤ 1000)
    (unsigned : negative = true → count = 0) :
    (thousandths negative count).place = some (thousandthRank count : Int) := by
  rw [thousandths_eq negative most]
  cases negative with
  | false => rfl
  | true =>
    have none : thousandthRank count = 0 := by rw [unsigned rfl, thousandthRank_zero]
    simp [Binary64.place, none]

/-! ## Confidences keep their order -/

/-- How many thousandths a number at a place is rounded to once it is clamped. -/
def confidenceCount (place : Int) : Nat := roundedCount (min place.toNat rankOne)

theorem confidenceCount_le (place : Int) : confidenceCount place ≤ 1000 :=
  roundedCount_le (Nat.min_le_right _ _)

theorem confidenceCount_mono {p q : Int} (order : p ≤ q) :
    confidenceCount p ≤ confidenceCount q := by
  refine roundedCount_mono ?_
  have := Int.toNat_le_toNat order
  omega

/-- The place of a confidence in a message. -/
theorem place_confidence {x : Binary64} {p : Int} (finite : x.isFinite = true)
    (place : x.place = some p) :
    (roundConfidence (x.clamp .zero .one)).place =
      some (thousandthRank (confidenceCount p) : Int) := by
  cases x with
  | nan => cases finite
  | infinite _ => cases finite
  | finite negative rank =>
    obtain ⟨kept, clamped, value⟩ := clamp_finite negative rank
    obtain rfl := Option.some.inj place
    have same : kept.val = min (if negative = true then -(rank : Int) else rank).toNat rankOne := by
      rw [value]
      cases negative with
      | true => simp
      | false => simp
    have most : kept.val ≤ rankOne := same ▸ Nat.min_le_right _ _
    rw [clamped, roundConfidence_finite _ most, confidenceCount, ← same]
    refine place_thousandths (roundedCount_le most) fun sign => ?_
    have none : kept.val = 0 := by
      rw [value, (Bool.and_eq_true_iff.mp sign).1, if_pos rfl]
    rw [none, roundedCount_zero]

theorem confidence_le {x y : Binary64} (hx : x.isFinite = true) (hy : y.isFinite = true)
    (order : x.le y = true) :
    (roundConfidence (x.clamp .zero .one)).le (roundConfidence (y.clamp .zero .one)) = true := by
  obtain ⟨p, atP⟩ := exists_place hx
  obtain ⟨q, atQ⟩ := exists_place hy
  rw [le_iff (place_confidence hx atP) (place_confidence hy atQ)]
  have counts := confidenceCount_mono ((le_iff atP atQ).mp order)
  exact Int.ofNat_le.mpr (thousandthRank_mono counts)

theorem confidence_mem {x : Binary64} (finite : x.isFinite = true) :
    Binary64.zero.le (roundConfidence (x.clamp .zero .one)) = true ∧
      (roundConfidence (x.clamp .zero .one)).le .one = true := by
  obtain ⟨p, atP⟩ := exists_place finite
  have place := place_confidence finite atP
  have zero : Binary64.zero.place = some 0 := rfl
  have one : Binary64.one.place = some (rankOne : Int) := by rw [one_eq]; rfl
  rw [le_iff zero place, le_iff place one]
  exact ⟨Int.natCast_nonneg _, Int.ofNat_le.mpr (thousandthRank_le (confidenceCount_le p))⟩

/-! ## The order of a message -/

/-- The supplied detections, each with its index in the order of supply, as a message has them: the
more confident first, and of equally confident ones the one that was supplied first. -/
structure IsRanking (supplied : List RawDetection) (ranking : List (RawDetection × Nat)) :
    Prop where
  perm : ranking.Perm supplied.zipIdx
  descending : ranking.Pairwise fun a b => b.1.confidence.le a.1.confidence = true
  stable : ranking.Pairwise fun a b => a.1.confidence.le b.1.confidence = true → a.2 < b.2

/-- There is no other ranking: of two detections that may stand in either order the indices would
have to ascend both ways. -/
theorem IsRanking.unique {supplied : List RawDetection} {ranking other : List (RawDetection × Nat)}
    (h : IsRanking supplied ranking) (k : IsRanking supplied other) : other = ranking := by
  refine List.Perm.eq_of_pairwise (fun a b _ _ forward backward => ?_)
    (k.descending.and k.stable) (h.descending.and h.stable) (k.perm.trans h.perm.symm)
  have ascends := forward.2 backward.1
  have descends := backward.2 forward.1
  exact absurd ascends (Nat.lt_asymm descends)

theorem IsRanking.mem_supplied {supplied : List RawDetection}
    {ranking : List (RawDetection × Nat)} (h : IsRanking supplied ranking)
    {d : RawDetection × Nat} (ranked : d ∈ ranking) : d.1 ∈ supplied :=
  List.fst_mem_of_mem_zipIdx (h.perm.subset ranked)

namespace MessageBuilder

/-- Whether a detection may stand before another. Other than the confidences themselves, their
places order a NaN too, so this is total. -/
def notAfter (a b : RawDetection) : Bool :=
  decide (b.confidence.place.getD 0 ≤ a.confidence.place.getD 0)

theorem notAfter_iff {a b : RawDetection} (ha : a.confidence.isFinite = true)
    (hb : b.confidence.isFinite = true) :
    notAfter a b = b.confidence.le a.confidence := by
  obtain ⟨p, atP⟩ := exists_place ha
  obtain ⟨q, atQ⟩ := exists_place hb
  rw [notAfter, atP, atQ, Bool.eq_iff_iff, le_iff atQ atP]
  simp

theorem notAfter_trans (a b c : RawDetection) (h : notAfter a b = true)
    (k : notAfter b c = true) : notAfter a c = true := by
  simp only [notAfter, decide_eq_true_eq] at h k ⊢
  exact Int.le_trans k h

theorem notAfter_total (a b : RawDetection) : (notAfter a b || notAfter b a) = true := by
  simp only [notAfter, Bool.or_eq_true, decide_eq_true_eq]
  exact Int.le_total _ _

/-- Indices count where each of two elements may stand before the other. -/
theorem zipIdxLE_iff {α : Type} {le : α → α → Bool} {a b : α × Nat} :
    List.zipIdxLE le a b = true ↔ le a.1 b.1 = true ∧ (le b.1 a.1 = true → a.2 ≤ b.2) := by
  unfold List.zipIdxLE
  cases le a.1 b.1 <;> cases le b.1 a.1 <;> simp

theorem ranked_eq {supplied : List RawDetection}
    (finite : ∀ d ∈ supplied, d.confidence.isFinite = true) :
    ranked supplied = supplied.mergeSort notAfter := by
  have agree : ∀ a ∈ supplied, ∀ b ∈ supplied,
      (fun a b : RawDetection => b.confidence.le a.confidence) a b = notAfter (id a) (id b) :=
    fun a ha b hb => (notAfter_iff (finite a ha) (finite b hb)).symm
  have same := List.map_mergeSort agree
  rwa [List.map_id, List.map_id] at same

/-- Sorting ranks the detections. -/
theorem exists_ranking {supplied : List RawDetection} (valid : ∀ d ∈ supplied, d.Valid) :
    ∃ ranking, IsRanking supplied ranking ∧ ranking.map Prod.fst = ranked supplied := by
  have finite : ∀ d ∈ supplied, d.confidence.isFinite = true := fun d mem => (valid d mem).1
  have perm : (supplied.zipIdx.mergeSort (List.zipIdxLE notAfter)).Perm supplied.zipIdx :=
    List.mergeSort_perm _ _
  have sorted : (supplied.zipIdx.mergeSort (List.zipIdxLE notAfter)).Pairwise
      fun a b => List.zipIdxLE notAfter a b = true :=
    List.pairwise_mergeSort (List.zipIdxLE_trans notAfter_trans)
      (List.zipIdxLE_total notAfter_total) _
  have sources : (supplied.zipIdx.mergeSort (List.zipIdxLE notAfter)).map Prod.fst =
      ranked supplied := by
    rw [ranked_eq finite]
    exact List.mergeSort_zipIdx
  generalize supplied.zipIdx.mergeSort (List.zipIdxLE notAfter) = ranking at perm sorted sources
  have indices : (supplied.zipIdx.map Prod.snd).Nodup := by
    rw [List.zipIdx_map_snd]
    exact List.nodup_range'
  have apart : ranking.Pairwise fun a b => a.2 ≠ b.2 :=
    List.pairwise_map.mp ((perm.map Prod.snd).nodup_iff.mpr indices)
  have numbers {d : RawDetection × Nat} (mem : d ∈ ranking) : d.1.confidence.isFinite = true :=
    finite d.1 (List.fst_mem_of_mem_zipIdx (perm.subset mem))
  refine ⟨ranking, ⟨perm, ?_, ?_⟩, sources⟩
  · refine sorted.imp_of_mem fun ha hb order => ?_
    rw [← notAfter_iff (numbers ha) (numbers hb)]
    exact (zipIdxLE_iff.mp order).1
  · refine (sorted.and apart).imp_of_mem fun ha hb both tie => ?_
    rw [← notAfter_iff (numbers hb) (numbers ha)] at tie
    exact Nat.lt_of_le_of_ne ((zipIdxLE_iff.mp both.1).2 tie) both.2

/-! ## Places in a message -/

theorem placedFrom_eq (place : Nat) (detections : List RawDetection) :
    placedFrom place detections = detections.mapIdx fun i d => placed (place + i) d := by
  induction detections generalizing place with
  | nil => rfl
  | cons d rest ih =>
    rw [placedFrom, ih, List.mapIdx_cons]
    simp [Nat.add_assoc, Nat.add_comm 1]

end MessageBuilder

/-! ## The message -/

open MessageBuilder (Call ofCalls lastTimestamp? suppliedBy)

/-- The detections of a message that ranks what was supplied: numbered from one, each with the class
and the box that were reported, its confidence clamped and then rounded. -/
def numbered (ranking : List (RawDetection × Nat)) : List Detection :=
  ranking.mapIdx fun i d =>
    ⟨toString (i + 1), d.1.label, roundConfidence (d.1.confidence.clamp .zero .one), d.1.box⟩

theorem placedFrom_ranked {supplied : List RawDetection} {ranking : List (RawDetection × Nat)}
    (sources : ranking.map Prod.fst = MessageBuilder.ranked supplied) :
    MessageBuilder.placedFrom 1 (MessageBuilder.ranked supplied) = numbered ranking := by
  rw [← sources, MessageBuilder.placedFrom_eq]
  refine List.ext_getElem (by simp [numbered]) fun i _ _ => ?_
  simp [numbered, MessageBuilder.placed, Nat.add_comm 1]

theorem length_numbered (ranking : List (RawDetection × Nat)) :
    (numbered ranking).length = ranking.length := by
  rw [numbered, List.length_mapIdx]

/-- The digits of a number tell what it is. -/
theorem toString_injective : Function.Injective (toString : Nat → String) := by
  intro m n same
  have digits : decimalDigits m = decimalDigits n := by
    simpa [Nat.toString_eq_repr, Nat.repr, decimalDigits] using congrArg String.toList same
  rw [← Json.ofDigits_decimalDigits m, digits, Json.ofDigits_decimalDigits]

/-- No two ids are the same. -/
theorem nodup_ids (ranking : List (RawDetection × Nat)) :
    ((numbered ranking).map Detection.id).Nodup := by
  have ids : (numbered ranking).map Detection.id =
      (List.range ranking.length).map fun i => toString (i + 1) :=
    List.ext_getElem (by simp [numbered]) fun i _ _ => by simp [numbered]
  rw [ids]
  exact List.nodup_range.map fun i j same => Nat.succ.inj (toString_injective same)

/-- Confidences do not ascend where the reported ones do not. -/
theorem pairwise_numbered {ranking : List (RawDetection × Nat)}
    (finite : ∀ d ∈ ranking, d.1.confidence.isFinite = true)
    (descending : ranking.Pairwise fun a b => b.1.confidence.le a.1.confidence = true) :
    (numbered ranking).Pairwise fun a b => b.confidence.le a.confidence = true := by
  rw [List.pairwise_iff_getElem] at descending ⊢
  intro i j hi hj order
  rw [length_numbered] at hi hj
  simp only [numbered, List.getElem_mapIdx]
  exact confidence_le (finite _ (List.getElem_mem hj)) (finite _ (List.getElem_mem hi))
    (descending i j hi hj order)

/-- After any calls that set a timestamp and supply only valid detections a message is built. It has
the timestamp set last and all that was supplied, each detection once: in descending order of the
reported confidences, equal ones in the order of supply over all calls. Classes and boxes are
unchanged, ids count from one, and the clamped and rounded confidences lie within zero and one and
never ascend. -/
theorem message_is_ranked_supply {calls : List Call} {timestampMs : UInt64}
    (set : lastTimestamp? calls = some timestampMs) (valid : ∀ d ∈ suppliedBy calls, d.Valid) :
    ∃ ranking, IsRanking (suppliedBy calls) ranking ∧
      (∀ other, IsRanking (suppliedBy calls) other → other = ranking) ∧
      (ofCalls calls).build = .ok ⟨timestampMs, numbered ranking⟩ ∧
      (numbered ranking).length = (suppliedBy calls).length ∧
      ((numbered ranking).map Detection.id).Nodup ∧
      (∀ d ∈ numbered ranking,
        Binary64.zero.le d.confidence = true ∧ d.confidence.le .one = true) ∧
      (numbered ranking).Pairwise fun a b => b.confidence.le a.confidence = true := by
  obtain ⟨ranking, ranks, sources⟩ := MessageBuilder.exists_ranking valid
  have same := placedFrom_ranked sources
  have finite (d : RawDetection × Nat) (mem : d ∈ ranking) : d.1.confidence.isFinite = true :=
    (valid d.1 (ranks.mem_supplied mem)).1
  refine ⟨ranking, ranks, fun other => ranks.unique, ?_, ?_, ?_, ?_, ?_⟩
  · rw [MessageBuilder.build_of_valid set valid, same]
  · rw [length_numbered, ranks.perm.length_eq, List.length_zipIdx]
  · exact nodup_ids ranking
  · intro d mem
    obtain ⟨i, inside, rfl⟩ := List.mem_mapIdx.mp mem
    exact confidence_mem (finite _ (List.getElem_mem inside))
  · exact pairwise_numbered finite ranks.descending

/-- Two timestamps, and four detections in three calls: two of one confidence, one above one, and a
negative zero. -/
def mixedCalls : List Call :=
  [.detection ⟨"cat", .ofRatio false 1 2, ⟨0, 0, 1, 1⟩⟩, .timestamp 3,
    .detections [⟨"dog", .ofNat 2, ⟨1, 2, 3, 4⟩⟩, ⟨"cow", .ofRatio false 1 2, ⟨0, 0, 2, 2⟩⟩],
    .timestamp 7, .detection ⟨"owl", .ofRatio true 0 1, ⟨5, 5, 5, 5⟩⟩]

theorem message_of_mixedCalls :
    (lastTimestamp? mixedCalls = some 7 ∧ ∀ d ∈ suppliedBy mixedCalls, d.Valid) ∧
    (ofCalls mixedCalls).build = .ok ⟨7,
      [⟨"1", "dog", .one, ⟨1, 2, 3, 4⟩⟩, ⟨"2", "cat", .ofRatio false 1 2, ⟨0, 0, 1, 1⟩⟩,
        ⟨"3", "cow", .ofRatio false 1 2, ⟨0, 0, 2, 2⟩⟩,
        ⟨"4", "owl", .ofRatio true 0 1, ⟨5, 5, 5, 5⟩⟩]⟩ := by
  have set : lastTimestamp? mixedCalls = some 7 := by decide
  have valid : ∀ d ∈ suppliedBy mixedCalls, d.Valid := by
    unfold RawDetection.Valid
    decide +kernel
  obtain ⟨ranking, ranks, only, built, -⟩ := message_is_ranked_supply set valid
  have shown : IsRanking (suppliedBy mixedCalls)
      [(⟨"dog", .ofNat 2, ⟨1, 2, 3, 4⟩⟩, 1), (⟨"cat", .ofRatio false 1 2, ⟨0, 0, 1, 1⟩⟩, 0),
        (⟨"cow", .ofRatio false 1 2, ⟨0, 0, 2, 2⟩⟩, 2),
        (⟨"owl", .ofRatio true 0 1, ⟨5, 5, 5, 5⟩⟩, 3)] :=
    ⟨by decide +kernel, by decide +kernel, by decide +kernel⟩
  refine ⟨⟨set, valid⟩, ?_⟩
  rw [built, ← only _ shown]
  decide +kernel

end DetectionLink
