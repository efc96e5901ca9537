import DetectionLink.Proofs.Durations
import DetectionLink.Proofs.Ranking
import DetectionLink.Proofs.Trace
import DetectionLink.Simulation.Detections

/-!
# Simulated detections are within their ranges

A frame's people are drawn from a stream of words, and the threshold is asked only afterwards. So a
higher threshold reports fewer of the same people, and whatever the words are, everything drawn lies
in its range.

* `firstAccepted?_of_le`: what was drawn does not hang on the patience;
* `drawBetween_mem`, `drawReal_within`: draws of whole numbers and of doubles, from any words;
* `Plausible`, `plausible_drawFrame`: everybody a frame may show;
* `Detector.detectAll`, `detectAll_simulated`: frames one after the other;
* `threshold_only_filters`: two thresholds, and all thresholds.
-/

namespace DetectionLink

open Binary64 (units nearestRank ofRank AtMost)

/-! ## Order of doubles -/

namespace Binary64

theorem exists_place_of_le {x y : Binary64} (h : x.le y = true) :
    ∃ a b, x.place = some a ∧ y.place = some b ∧ a ≤ b := by
  unfold le at h
  split at h
  · next a b atA atB => exact ⟨a, b, atA, atB, of_decide_eq_true h⟩
  · cases h

theorem le_trans {x y z : Binary64} (h : x.le y = true) (k : y.le z = true) : x.le z = true := by
  obtain ⟨a, b, atA, atB, first⟩ := exists_place_of_le h
  obtain ⟨b', c, atB', atC, second⟩ := exists_place_of_le k
  obtain rfl := Option.some.inj (atB.symm.trans atB')
  exact (le_iff atA atC).mpr (first.trans second)

/-- Not below the lower end and below the upper one. -/
def Within (x low high : Binary64) : Prop := low.le x = true ∧ x.lt high = true

/-- What lies between two doubles that are finite is finite. -/
theorem Within.isFinite {negative negative' : Bool} {a b : Fin 0x7FF0000000000000} {x : Binary64}
    (h : x.Within (.finite negative a) (.finite negative' b)) : x.isFinite = true := by
  obtain ⟨low, high⟩ := h
  cases x with
  | nan => cases low
  | infinite sign =>
    cases sign with
    | true =>
      obtain ⟨p, q, atP, atQ, order⟩ := exists_place_of_le low
      cases atQ
      cases negative <;> cases atP <;> simp [infinityRank] at order <;> omega
    | false =>
      cases negative' <;> simp [lt, place, infinityRank] at high <;> omega
  | finite sign rank => rfl

theorem AtMost.le {x y : Binary64} (h : AtMost x y) : x.le y = true := by
  have placed (rank : Nat) : (ofRank false rank).place = some (min rank infinityRank : Int) := by
    rcases Nat.lt_or_ge rank infinityRank with low | beyond
    · rw [ofRank_finite ⟨rank, low⟩, place, min_eq_left (by exact_mod_cast low.le)]
      rfl
    · rw [ofRank_infinite beyond, place, min_eq_right (by exact_mod_cast beyond)]
      rfl
  obtain ⟨a, b, order, rfl, rfl⟩ := h
  rw [le_iff (placed a) (placed b)]
  exact min_le_min_right _ (by exact_mod_cast order)

end Binary64

/-! ## Draws -/

namespace WordSource

section Patience

variable {ρ α : Type} {draw : ρ → Option α × ρ} {patience : Nat} {r : ρ} {drawn : α × ρ}

/-- What is drawn was accepted. -/
theorem firstAccepted?_mem {P : α → Prop} (accepted : ∀ r a, (draw r).1 = some a → P a)
    (done : firstAccepted? draw patience r = some drawn) : P drawn.1 := by
  induction patience generalizing r with
  | zero => cases done
  | succ patience ih =>
    rw [firstAccepted?] at done
    split at done
    · next a _ given =>
      obtain rfl := Option.some.inj done
      exact accepted r a (congrArg Prod.fst given)
    · exact ih done

/-- What was drawn within a patience is drawn with any greater one. -/
theorem firstAccepted?_of_le {more : Nat} (enough : patience ≤ more)
    (done : firstAccepted? draw patience r = some drawn) :
    firstAccepted? draw more r = some drawn := by
  induction patience generalizing r more with
  | zero => cases done
  | succ patience ih =>
    obtain ⟨more, rfl⟩ := Nat.exists_eq_succ_of_ne_zero (Nat.ne_zero_of_lt enough)
    rw [firstAccepted?] at done ⊢
    split at done
    · exact done
    · exact ih (Nat.le_of_succ_le_succ enough) done

/-- A draw that is not accepted in time has a stand-in. -/
theorem getD_firstAccepted?_mem {P : α → Prop} (accepted : ∀ r a, (draw r).1 = some a → P a)
    {standIn : α} (otherwise : P standIn) :
    P ((firstAccepted? draw patience r).getD (standIn, r)).1 := by
  cases done : firstAccepted? draw patience r with
  | none => exact otherwise
  | some drawn => exact firstAccepted?_mem accepted done

end Patience

variable {ρ : Type} (W : WordSource ρ)

/-- The high half of a word's product with the size of a range is below the size. -/
theorem offsetOf?_lt {size offset : Nat} (positive : 0 < size) {word : UInt32}
    (accepted : offsetOf? size word = some offset) : offset < size := by
  have bound : word.toNat < UInt32.size := UInt32.toNat_lt_size _
  unfold offsetOf? at accepted
  dsimp only at accepted
  split at accepted
  · obtain rfl := Option.some.inj accepted
    exact Nat.div_lt_of_lt_mul (Nat.mul_lt_mul_of_pos_right bound positive)
  · cases accepted

theorem drawOffset_lt {size : Nat} (positive : 0 < size) (r : ρ) :
    (W.drawOffset size r).1 < size :=
  getD_firstAccepted?_mem (P := (· < size)) (fun _ _ accepted => offsetOf?_lt positive accepted)
    positive

theorem drawBetween_mem {low high : Nat} (ordered : low ≤ high) (r : ρ) :
    low ≤ (W.drawBetween low high r).1 ∧ (W.drawBetween low high r).1 ≤ high := by
  have offset : (W.drawOffset (high - low + 1) r).1 < high - low + 1 :=
    W.drawOffset_lt (Nat.succ_pos _) r
  unfold drawBetween
  dsimp only
  omega

/-- The width of a range is a positive double. -/
theorem exists_width {a b : Fin 0x7FF0000000000000} (ordered : a < b) :
    ∃ width : Fin 0x7FF0000000000000,
      (Binary64.finite false b).sub (.finite false a) = .finite false width ∧ width.val ≠ 0 := by
  have less : units a < units b := Binary64.units_strictMono ordered
  have span : Binary64.signedUnits false b + Binary64.signedUnits true a =
      ((units b - units a : Nat) : Int) := by
    simp only [Binary64.signedUnits, Bool.false_eq_true, if_false, if_true]
    omega
  have most : nearestRank (units b - units a) 1 ≤ b.val := by
    calc nearestRank (units b - units a) 1 ≤ nearestRank (units b) 1 :=
          Binary64.nearestRank_le Nat.one_pos Nat.one_pos (by omega)
      _ = b.val := Binary64.nearestRank_units b
  have least : 1 ≤ nearestRank (units b - units a) 1 := by
    calc 1 = nearestRank (units 1) 1 := (Binary64.nearestRank_units 1).symm
      _ ≤ nearestRank (units b - units a) 1 :=
          Binary64.nearestRank_le Nat.one_pos Nat.one_pos (by
            have : units 1 = 1 := rfl
            omega)
  refine ⟨⟨_, most.trans_lt b.isLt⟩, ?_, Nat.one_le_iff_ne_zero.mp least⟩
  rw [Binary64.sub, Binary64.neg, Bool.not_false, Binary64.add, span, if_neg (by omega)]
  exact Binary64.ofRank_finite ⟨_, most.trans_lt b.isLt⟩

/-- A scaled fraction is not below the lower end. -/
theorem atMost_scaleFraction {a b : Fin 0x7FF0000000000000} (ordered : a < b) (steps : Nat) :
    AtMost (.finite false a) (scaleFraction (.finite false a) (.finite false b) steps) := by
  obtain ⟨width, span, some⟩ := exists_width ordered
  have fraction : AtMost .zero (Binary64.ofRatio false steps Binary64.binade) :=
    ⟨0, _, Nat.zero_le _, rfl, rfl⟩
  have scaled := (fraction.mul some).add a
  have nothing : Binary64.zero.mul (.finite false width) = .zero := by
    rw [Binary64.zero, Binary64.mul, Binary64.units_zero, Nat.zero_mul]
    exact ofUnits_zero _
  rw [nothing, Binary64.zero_add, ← span] at scaled
  exact scaled

theorem fractionOf?_within {a b : Fin 0x7FF0000000000000} (ordered : a < b) {words : UInt64}
    {value : Binary64}
    (accepted : fractionOf? (.finite false a) (.finite false b) words = some value) :
    value.Within (.finite false a) (.finite false b) := by
  have least := (atMost_scaleFraction ordered (words >>> 12).toNat).le
  unfold fractionOf? at accepted
  dsimp only at accepted
  generalize scaleFraction _ _ _ = scaled at least accepted
  split at accepted
  · next below =>
    obtain rfl := Option.some.inj accepted
    exact ⟨least, below⟩
  · cases accepted

theorem drawReal_within {a b : Fin 0x7FF0000000000000} (ordered : a < b) (r : ρ) :
    (W.drawReal (.finite false a) (.finite false b) r).1.Within (.finite false a)
      (.finite false b) := by
  have placed (c : Fin 0x7FF0000000000000) :
      (Binary64.finite false c).place = some (c.val : Int) := rfl
  have less : (Binary64.finite false a).lt (.finite false b) = true := by
    rw [Binary64.lt, placed, placed]
    exact decide_eq_true (Int.ofNat_lt.mpr ordered)
  exact getD_firstAccepted?_mem (P := fun x : Binary64 => x.Within _ _)
    (fun _ _ accepted => fractionOf?_within ordered accepted)
    ⟨(le_iff (placed a) (placed a)).mpr le_rfl, less⟩

end WordSource

/-! ## Everybody on a frame -/

/-- Whom a frame may show: a person, with a confidence from 0.6 up to 0.99, in a box within the
ranges of its corner and its size. -/
structure Plausible (person : RawDetection) : Prop where
  label_eq : person.label = "person"
  confidence : person.confidence.Within Simulation.lowestConfidence Simulation.confidenceBound
  x : 50 ≤ person.box.x.toNat ∧ person.box.x.toNat ≤ 500
  y : 50 ≤ person.box.y.toNat ∧ person.box.y.toNat ≤ 300
  width : 50 ≤ person.box.width.toNat ∧ person.box.width.toNat ≤ 200
  height : 100 ≤ person.box.height.toNat ∧ person.box.height.toNat ≤ 300

namespace Simulation

/-- The rank of 0.6. -/
def lowestRank : Fin 0x7FF0000000000000 := ⟨0x3FE3333333333333, by decide⟩

/-- The rank of 0.99. -/
def boundRank : Fin 0x7FF0000000000000 := ⟨0x3FEFAE147AE147AE, by decide⟩

theorem lowestRank_lt_boundRank : lowestRank < boundRank := by decide

theorem lowestConfidence_eq : lowestConfidence = .finite false lowestRank := by decide +kernel

theorem confidenceBound_eq : confidenceBound = .finite false boundRank := by decide +kernel

variable {ρ : Type} (W : WordSource ρ)

/-- A draw that fits 32 bits, as a word. -/
theorem toUInt32_drawBetween_mem {low high : Nat} (ordered : low ≤ high)
    (fits : high < UInt32.size) (r : ρ) :
    low ≤ (W.drawBetween low high r).1.toUInt32.toNat ∧
      (W.drawBetween low high r).1.toUInt32.toNat ≤ high := by
  obtain ⟨least, most⟩ := W.drawBetween_mem ordered r
  rw [Nat.toUInt32_eq, UInt32.toNat_ofNat_of_lt' (most.trans_lt fits)]
  exact ⟨least, most⟩

/-- A draw that is at least one is a side of a box as it is. -/
theorem side_drawBetween_mem {low high : Nat} (ordered : low ≤ high) (fits : high < UInt32.size)
    (positive : 1 ≤ low) (r : ρ) :
    low ≤ (max (W.drawBetween low high r).1.toUInt32 1).toNat ∧
      (max (W.drawBetween low high r).1.toUInt32 1).toNat ≤ high := by
  have drawn := toUInt32_drawBetween_mem W ordered fits r
  have some : 1 ≤ (W.drawBetween low high r).1.toUInt32 := by
    rw [UInt32.le_iff_toNat_le]
    exact positive.trans drawn.1
  have same : max (W.drawBetween low high r).1.toUInt32 1 = (W.drawBetween low high r).1.toUInt32 :=
    ite_eq_right_iff.mpr fun most => UInt32.le_antisymm some most
  rw [same]
  exact drawn

theorem plausible_drawPerson (r : ρ) : Plausible (drawPerson W r).1 where
  label_eq := rfl
  confidence := by
    unfold drawPerson
    dsimp only
    rw [lowestConfidence_eq, confidenceBound_eq]
    exact W.drawReal_within lowestRank_lt_boundRank _
  x := toUInt32_drawBetween_mem W (by decide) (by decide) _
  y := toUInt32_drawBetween_mem W (by decide) (by decide) _
  width := side_drawBetween_mem W (by decide) (by decide) (by decide) _
  height := side_drawBetween_mem W (by decide) (by decide) (by decide) _

theorem length_drawPeople (count : Nat) (r : ρ) : (drawPeople W count r).length = count := by
  induction count generalizing r with
  | zero => rfl
  | succ count ih => exact congrArg (· + 1) (ih _)

theorem plausible_drawPeople (count : Nat) (r : ρ) :
    ∀ person ∈ drawPeople W count r, Plausible person := by
  induction count generalizing r with
  | zero => exact nofun
  | succ count ih => exact List.forall_mem_cons.mpr ⟨plausible_drawPerson W r, ih _⟩

theorem drawCount_le (r : ρ) : (drawCount W r).1 ≤ 2 := by
  unfold drawCount
  dsimp only
  split
  · exact Nat.zero_le 2
  · split <;> decide

/-- At most two people, whatever the words and the threshold. -/
theorem plausible_drawFrame (r : ρ) (threshold : Binary64) :
    let found := (drawFrame W r).filter fun person => threshold.le person.confidence
    found.length ≤ 2 ∧ ∀ person ∈ found, Plausible person := by
  intro found
  refine ⟨?_, fun person mem => plausible_drawPeople W _ _ person (List.mem_filter.mp mem).1⟩
  calc found.length ≤ (drawFrame W r).length := List.length_filter_le ..
    _ = (drawCount W r).1 := length_drawPeople W _ _
    _ ≤ 2 := drawCount_le W r

end Simulation

/-! ## Frame after frame -/

section Frames

variable {σ F : Type}

/-- What a detector finds on some frames, one after the other. -/
def Detector.detectAll {H : Host σ} (D : Detector H F) : List F → σ → List (List RawDetection) × σ
  | [], w => ([], w)
  | frame :: rest, w =>
    let found := D.detect frame w
    let others := D.detectAll rest found.2
    (found.1 :: others.1, others.2)

namespace SimulatedDetector

variable (H : Host σ)

/-- What a simulated detector finds on a frame does not hang on the frames before. -/
theorem detectAll_simulated (d : SimulatedDetector) (frames : List Nat) (w : σ) :
    ((d.detector H).detectAll frames w).1 = frames.map d.detect := by
  induction frames generalizing w with
  | nil => rfl
  | cons frame rest ih =>
    rw [List.map_cons, ← ih ((d.detector H).detect frame w).2]
    rfl

/-- Nor does a threshold let anybody in who was not drawn. -/
theorem plausible_detect (d : SimulatedDetector) (frame : Nat) :
    (d.detect frame).length ≤ 2 ∧ ∀ person ∈ d.detect frame, Plausible person :=
  Simulation.plausible_drawFrame (Keystream.words d.patience) (d.frameStream frame) d.threshold

/-- A higher threshold keeps those of the same people that reach it. -/
theorem detect_of_le {d d' : SimulatedDetector} (seed : d.seed = d'.seed)
    (patience : d.patience = d'.patience) (ordered : d.threshold.le d'.threshold = true)
    (frame : Nat) :
    d'.detect frame = (d.detect frame).filter fun person => d'.threshold.le person.confidence := by
  have same : d'.everybody frame = d.everybody frame := by
    rw [everybody, everybody, frameStream, frameStream, seed, patience]
  rw [detect, detect, same, List.filter_filter]
  refine List.filter_congr fun person _ => ?_
  cases reaches : d'.threshold.le person.confidence with
  | false => rfl
  | true => exact (Binary64.le_trans ordered reaches).symm

/-- Two detectors of one seed and one patience, on whatever hosts, each behind frames of its own: of
two thresholds the higher one reports those of the other's people that reach it, in their order and
as they are. And whatever the threshold, a frame shows at most two people, all of them plausible; so
it does on any source of words, of any patience. -/
theorem threshold_only_filters {σ' : Type} (H' : Host σ') {d d' : SimulatedDetector}
    (seed : d.seed = d'.seed) (patience : d.patience = d'.patience)
    (ordered : d.threshold.le d'.threshold = true) :
    (∀ frames before before' w w',
      ((d'.detector H').detectAll frames ((d'.detector H').detectAll before' w').2).1 =
        ((d.detector H).detectAll frames ((d.detector H).detectAll before w).2).1.map
          (List.filter fun person => d'.threshold.le person.confidence)) ∧
    (∀ (e : SimulatedDetector) frame w,
      let found := ((e.detector H).detect frame w).1
      found.length ≤ 2 ∧ ∀ person ∈ found, Plausible person) ∧
    ∀ {ρ : Type} (W : WordSource ρ) (r : ρ) (threshold : Binary64),
      let found := (Simulation.drawFrame W r).filter fun person => threshold.le person.confidence
      found.length ≤ 2 ∧ ∀ person ∈ found, Plausible person := by
  refine ⟨fun frames before before' w w' => ?_, fun e frame w => plausible_detect e frame,
    fun W r threshold => Simulation.plausible_drawFrame W r threshold⟩
  rw [detectAll_simulated, detectAll_simulated, List.map_map]
  refine List.map_congr_left fun frame _ => ?_
  rw [Function.comp_apply]
  exact detect_of_le seed patience ordered frame

/-- A frame with two people, one of them below three quarters, and a frame behind it. -/
theorem threshold_only_filters_of_three_quarters :
    let d : SimulatedDetector := ⟨7, .zero, 64⟩
    let d' : SimulatedDetector := ⟨7, (⟨false, 75, -2⟩ : Decimal).toBinary64, 64⟩
    let kept := fun person : RawDetection =>
      (d.threshold.le person.confidence, d'.threshold.le person.confidence)
    (d.seed = d'.seed ∧ d.patience = d'.patience) ∧ d.threshold.le d'.threshold = true ∧
      (d.everybody 11).map kept = [(true, false), (true, true)] ∧
      ((d'.detector Script.host).detectAll [11, 2]
          ((d'.detector Script.host).detectAll [3] ⟨[], []⟩).2).1 =
        ((d.detector Script.host).detectAll [11, 2]
          ((d.detector Script.host).detectAll [2, 0, 11] ⟨[], []⟩).2).1.map
          (List.filter fun person => d'.threshold.le person.confidence) := by
  intro d d' kept
  have seed : d.seed = d'.seed := rfl
  have ordered : d.threshold.le d'.threshold = true := by decide +kernel
  have two : (d.everybody 11).map kept = [(true, false), (true, true)] := by decide +kernel
  obtain ⟨filters, -, -⟩ := threshold_only_filters Script.host Script.host seed rfl ordered
  exact ⟨⟨seed, rfl⟩, ordered, two, filters [11, 2] [2, 0, 11] [3] ⟨[], []⟩ ⟨[], []⟩⟩

end SimulatedDetector

end Frames
end DetectionLink
