import DetectionLink.Proofs.Accounting
import DetectionLink.Proofs.Classification
import DetectionLink.Proofs.WireRoundTrip

/-!
# The numbers of a start command

A supervisor may send any numbers. Whatever they are, a start command holds a duration and a frame
rate that are finite and not negative, and a stride that is at least one where there is one at all:
a whole number is only kept within the limits of a stride, with no error of rounding, although it
passes through a double. So a session can divide by its stride, and the first frame of each pass
is analysed.

* `floor?_eq_some_iff`, `interval?_ofInt`: floors, and whole numbers as strides;
* `Quantity`, `Stride`: what is made of an optional member;
* `finiteMembers_of_ofBytes?`: JSON texts hold finite numbers only;
* `head?_dueIn`: the first frame of a pass;
* `start_numbers_sanitized`: start commands, strides and sessions.
-/

namespace DetectionLink

open Binary64 (unitsPerOne units nearestRank signedUnits)
open Json (FitsWord)

/-! ## Floors -/

namespace Binary64

/-- The largest whole number that is not above a finite double. -/
def IsFloor (x : Binary64) (n : Int) : Prop :=
  ∃ negative rank, x = .finite negative rank ∧ n * unitsPerOne ≤ signedUnits negative rank ∧
    signedUnits negative rank < (n + 1) * unitsPerOne

theorem floor?_eq_some_iff {x : Binary64} {n : Int} : x.floor? = some n ↔ x.IsFloor n := by
  have positive : (0 : Int) < unitsPerOne := by exact_mod_cast unitsPerOne_pos
  constructor
  · intro floor
    cases x with
    | nan => cases floor
    | infinite _ => cases floor
    | finite negative rank =>
      obtain rfl := Option.some.inj floor
      exact ⟨negative, rank, rfl, Int.ediv_mul_le _ positive.ne',
        Int.lt_ediv_add_one_mul_self _ positive⟩
  · rintro ⟨negative, rank, rfl, low, high⟩
    have least := (Int.le_ediv_iff_mul_le positive).mpr low
    have most := (Int.ediv_lt_iff_lt_mul positive).mpr high
    exact congrArg some (by omega)

end Binary64

/-! ## Whole numbers as strides -/

/-- Small whole numbers are doubles. -/
theorem units_nearestRank_small {n : Nat} (small : n < 2 ^ 53) :
    units (nearestRank (unitsPerOne * n) 1) = unitsPerOne * n := by
  obtain ⟨rank, -, value⟩ := Json.ofRatio_small false small
  rw [← value, Binary64.nearestRank_units]

/-- Rounding does not lead below a small whole number. -/
theorem le_units_nearestRank {m n : Nat} (small : m < 2 ^ 53) (order : m ≤ n) :
    unitsPerOne * m ≤ units (nearestRank (unitsPerOne * n) 1) := by
  rw [← units_nearestRank_small small]
  refine Binary64.units_strictMono.monotone (Binary64.nearestRank_le Nat.one_pos Nat.one_pos ?_)
  exact Nat.mul_le_mul_right _ (Nat.mul_le_mul_left _ order)

theorem exists_ofInt {n : Int} (fits : FitsWord n) :
    ∃ rank : Fin 0x7FF0000000000000, Binary64.ofInt n = .finite (decide (n < 0)) rank ∧
      rank.val = nearestRank (unitsPerOne * n.natAbs) 1 := by
  have size : UInt64.size = 0x10000000000000000 := rfl
  have word : n.natAbs ≤ UInt64.size := by
    obtain ⟨low, high⟩ := fits
    omega
  exact Json.exists_ofRatio _ (Nat.le_trans word (by decide +kernel))

namespace StartCommand

/-- A whole number kept within one and the largest stride. -/
def keptStride (n : Int) : Nat := (max 1 (min n (maxInterval : Int))).toNat

theorem interval?_eq (x : Binary64) : interval? x = x.floor?.map keptStride := rfl

/-- The floor of a whole number's double is on the same side of every limit of a stride. -/
theorem floor_ofInt {n f : Int} (fits : FitsWord n) (floor : (Binary64.ofInt n).IsFloor f) :
    (n ≤ 0 → f ≤ 0) ∧ (0 < n → n ≤ maxInterval → f = n) ∧
      ((maxInterval : Int) ≤ n → (maxInterval : Int) ≤ f) := by
  obtain ⟨rank, same, value⟩ := exists_ofInt fits
  obtain ⟨_, _, shape, low, high⟩ := floor
  cases same.symm.trans shape
  have one : (0 : Int) < unitsPerOne := by exact_mod_cast unitsPerOne_pos
  refine ⟨fun notPositive => ?_, fun positive most => ?_, fun beyond => ?_⟩
  · have below : signedUnits (decide (n < 0)) rank ≤ 0 := by
      rcases Int.lt_or_eq_of_le notPositive with negative | rfl
      · rw [signedUnits, if_pos (decide_eq_true negative)]
        omega
      · have none : units rank = 0 := by rw [value, units_nearestRank_small (by decide)]; rfl
        simp [signedUnits, none]
    exact le_of_mul_le_mul_right (low.trans (below.trans_eq (zero_mul _).symm)) one
  · have exact : signedUnits (decide (n < 0)) rank = n * unitsPerOne := by
      have small : n.natAbs < 2 ^ 53 := by
        simp only [maxInterval, UInt32.size] at most
        omega
      have count : ((unitsPerOne * n.natAbs : Nat) : Int) = n * unitsPerOne := by
        rw [Nat.cast_mul, Int.natAbs_of_nonneg positive.le, Int.mul_comm]
      rw [signedUnits, decide_eq_false (by omega), if_neg Bool.false_ne_true, value,
        units_nearestRank_small small, count]
    rw [exact] at low high
    have least := le_of_mul_le_mul_right low one
    have most := lt_of_mul_lt_mul_right high one.le
    omega
  · have above : (maxInterval : Int) * unitsPerOne ≤ signedUnits (decide (n < 0)) rank := by
      have least : unitsPerOne * maxInterval ≤ units rank := by
        rw [value]
        exact le_units_nearestRank (by decide) (by omega)
      rw [signedUnits, decide_eq_false (by omega), if_neg Bool.false_ne_true, Int.mul_comm]
      exact_mod_cast least
    have := lt_of_mul_lt_mul_right (above.trans_lt high) one.le
    omega

/-- What rounding to a double does to a whole number, the limits of a stride undo. -/
theorem interval?_ofInt {n : Int} (fits : FitsWord n) :
    interval? (.ofInt n) = some (keptStride n) := by
  obtain ⟨rank, same, -⟩ := exists_ofInt fits
  obtain ⟨f, floor⟩ : ∃ f, (Binary64.ofInt n).floor? = some f := ⟨_, by rw [same]; rfl⟩
  obtain ⟨low, exact, high⟩ := floor_ofInt fits (Binary64.floor?_eq_some_iff.mp floor)
  rw [interval?_eq, floor]
  refine congrArg some (congrArg Int.toNat ?_)
  have limit : (1 : Int) ≤ maxInterval := by decide
  omega

/-! ## Optional numbers -/

/-- What is made of an optional quantity: the double nearest a whole number, the same value as that
of any other number, and zero for what is absent, null or negative. -/
inductive Quantity : Option Json.Value → Binary64 → Prop
  | absent : Quantity none .zero
  | null : Quantity (some .null) .zero
  | negativeWhole {n : Int} {fits : FitsWord n} (below : n < 0) :
      Quantity (some (.number (.whole n fits))) .zero
  | negativeReal {x : Binary64} (below : x.lt .zero = true) :
      Quantity (some (.number (.real x))) .zero
  | whole {n : Int} {fits : FitsWord n} {rank : Fin 0x7FF0000000000000} (least : 0 ≤ n)
      (nearest : Binary64.IsNearest (unitsPerOne * n.toNat) 1 rank) :
      Quantity (some (.number (.whole n fits))) (.finite false rank)
  | real {x y : Binary64} (least : Binary64.zero.le x = true) (same : y.place = x.place) :
      Quantity (some (.number (.real x))) y

/-- What is made of an optional stride: a whole number, or the floor of any other, within the
limits of a stride. -/
inductive Stride : Option Json.Value → Option Nat → Prop
  | absent : Stride none none
  | null : Stride (some .null) none
  | whole {n : Int} {fits : FitsWord n} :
      Stride (some (.number (.whole n fits))) (some (keptStride n))
  | real {x : Binary64} {floor : Int} (isFloor : x.IsFloor floor) :
      Stride (some (.number (.real x))) (some (keptStride floor))

/-- A member that is read is absent, null or a number. -/
theorem optional?_number?_cases {member : Option Json.Value} {x : Option Binary64}
    (read : optional? number? member = some x) :
    (member = none ∨ member = some .null) ∧ x = none ∨
      ∃ n, member = some (.number n) ∧ x = some n.toBinary64 := by
  unfold optional? at read
  split at read
  · exact .inl ⟨.inl rfl, (Option.some.inj read).symm⟩
  · exact .inl ⟨.inr rfl, (Option.some.inj read).symm⟩
  · next value _ =>
    obtain ⟨y, number, rfl⟩ := Option.map_eq_some_iff.mp read
    cases value with
    | number n => exact .inr ⟨n, rfl, congrArg some (Option.some.inj number).symm⟩
    | _ => cases number

theorem nonNegative_finite (negative : Bool) (rank : Fin 0x7FF0000000000000) :
    nonNegative (some (.finite negative rank)) =
      if negative then .zero else .finite false rank := by
  cases negative with
  | true => simp [nonNegative, Binary64.isFinite, Binary64.lt, Binary64.place, Binary64.zero]
  | false =>
    by_cases none : rank.val = 0
    · obtain rfl : rank = ⟨0, by decide⟩ := Fin.ext none
      rfl
    · have positive : 0 < rank.val := Nat.pos_of_ne_zero none
      simp [nonNegative, Binary64.isFinite, Binary64.lt, Binary64.place, Binary64.zero]
      omega

/-- Whatever is sent, a quantity is finite and not negative. -/
theorem nonNegative_mem (x : Option Binary64) :
    (nonNegative x).isFinite = true ∧ Binary64.zero.le (nonNegative x) = true := by
  cases x with
  | none => exact ⟨rfl, rfl⟩
  | some x =>
    cases x with
    | nan => exact ⟨rfl, rfl⟩
    | infinite _ => exact ⟨rfl, rfl⟩
    | finite negative rank =>
      rw [nonNegative_finite]
      cases negative with
      | true => exact ⟨rfl, rfl⟩
      | false => exact ⟨rfl, by simp [Binary64.le, Binary64.place, Binary64.zero]⟩

section Members

variable {member : Option Json.Value} {x : Option Binary64}
  (read : optional? number? member = some x)
  (finite : ∀ n, member = some (.number n) → n.toBinary64.isFinite = true)
include read finite

theorem quantity_nonNegative : Quantity member (nonNegative x) := by
  rcases optional?_number?_cases read with ⟨rfl | rfl, rfl⟩ | ⟨n, rfl, rfl⟩
  · exact .absent
  · exact .null
  cases n with
  | whole n fits =>
    obtain ⟨rank, same, value⟩ := exists_ofInt fits
    rw [Json.Number.toBinary64, same, nonNegative_finite]
    by_cases below : n < 0
    · rw [if_pos (decide_eq_true below)]
      exact .negativeWhole below
    · rw [if_neg (by simpa using below)]
      have count : n.natAbs = n.toNat := by omega
      refine .whole (by omega) ?_
      rw [value, count]
      exact Binary64.isNearest_nearestRank _ Nat.one_pos
  | real x =>
    have finite := finite _ rfl
    rw [Json.Number.toBinary64] at finite ⊢
    cases x with
    | nan => cases finite
    | infinite _ => cases finite
    | finite negative rank =>
      rw [nonNegative_finite]
      cases negative with
      | false => exact .real (by simp [Binary64.le, Binary64.place, Binary64.zero]) rfl
      | true =>
        by_cases none : rank.val = 0
        · obtain rfl : rank = ⟨0, by decide⟩ := Fin.ext none
          exact .real rfl rfl
        · refine .negativeReal ?_
          simp only [Binary64.lt, Binary64.place, Binary64.zero]
          simp
          omega

theorem stride_interval? : Stride member (x.bind interval?) := by
  rcases optional?_number?_cases read with ⟨rfl | rfl, rfl⟩ | ⟨n, rfl, rfl⟩
  · exact .absent
  · exact .null
  cases n with
  | whole n fits =>
    rw [Option.bind_some, Json.Number.toBinary64, interval?_ofInt fits]
    exact .whole
  | real x =>
    have finite := finite _ rfl
    rw [Json.Number.toBinary64] at finite
    obtain ⟨f, floor⟩ : ∃ f, x.floor? = some f := by
      cases x with
      | nan => cases finite
      | infinite _ => cases finite
      | finite negative rank => exact ⟨_, rfl⟩
    rw [Option.bind_some, Json.Number.toBinary64, interval?_eq, floor]
    exact .real (Binary64.floor?_eq_some_iff.mp floor)

end Members

/-- The numbers of a start command and the object it was made of. -/
structure Sanitized (value : Json.Value) (s : StartCommand) : Prop where
  durationSec : Quantity (value.member? "duration_sec") s.durationSec
  durationSec_mem : s.durationSec.isFinite = true ∧ Binary64.zero.le s.durationSec = true
  fps : Quantity (value.member? "fps") s.fps
  fps_mem : s.fps.isFinite = true ∧ Binary64.zero.le s.fps = true
  frameInterval : Stride (value.member? "frame_interval") s.frameInterval
  frameInterval_mem : ∀ n, s.frameInterval = some n → 1 ≤ n ∧ n ≤ maxInterval
  frameInterval_eq_none_iff : s.frameInterval = none ↔
    value.member? "frame_interval" = none ∨ value.member? "frame_interval" = some .null

theorem Stride.mem {member : Option Json.Value} {stride : Option Nat} (h : Stride member stride) :
    ∀ n, stride = some n → 1 ≤ n ∧ n ≤ maxInterval := by
  have kept (n : Int) : 1 ≤ keptStride n ∧ keptStride n ≤ maxInterval := by
    have limit : (1 : Int) ≤ maxInterval := by decide
    unfold keptStride
    omega
  rintro n rfl
  cases h with
  | whole => exact kept _
  | real _ => exact kept _

theorem Stride.eq_none_iff {member : Option Json.Value} {stride : Option Nat}
    (h : Stride member stride) : stride = none ↔ member = none ∨ member = some .null := by
  cases h <;> simp

end StartCommand

/-! ## Numbers of JSON texts -/

namespace Json

/-- The numbers among the members of an object are finite. -/
def Value.FiniteMembers (value : Value) : Prop :=
  ∀ key n, value.member? key = some (.number n) → n.toBinary64.isFinite = true

theorem mem_of_mem_dropRepeated {member : String × Value} {members : List (String × Value)}
    (mem : member ∈ Value.dropRepeated members) : member ∈ members := by
  induction members using Value.dropRepeated.induct with
  | case1 a b rest same ih =>
    rw [Value.dropRepeated, if_pos same] at mem
    exact List.mem_cons_of_mem a (ih mem)
  | case2 a b rest apart ih =>
    rw [Value.dropRepeated, if_neg apart] at mem
    rcases List.mem_cons.mp mem with rfl | mem
    · exact List.mem_cons_self
    · exact List.mem_cons_of_mem a (ih mem)
  | case3 members short =>
    rwa [Value.dropRepeated] at mem
    exact short

theorem isFinite_of_ofTreeWithin? {depth : Nat} {tree : Tree} {n : Number}
    (read : Value.ofTreeWithin? depth tree = some (.number n)) : n.toBinary64.isFinite = true := by
  cases tree with
  | number text =>
    rw [Value.ofTreeWithin?] at read
    obtain ⟨m, text, same⟩ := Option.map_eq_some_iff.mp read
    cases same
    exact isFinite_ofText? text
  | _ => cases depth <;> simp [Value.ofTreeWithin?] at read

/-- What is read from a text holds finite numbers. -/
theorem finiteMembers_of_ofBytes? {line : Bytes} {value : Value}
    (read : Value.ofBytes? line = some value) : value.FiniteMembers := by
  intro key n found
  obtain ⟨tree, -, valued⟩ := ofBytes?_eq_some_iff.mp read
  cases value with
  | object held =>
    obtain ⟨members, rfl⟩ := (isObject_iff_of_ofTreeWithin? valued).mp rfl
    obtain ⟨pairs, all, same⟩ := Option.map_eq_some_iff.mp valued
    obtain rfl : Value.ordered pairs = held := by cases same; rfl
    obtain ⟨before, after, split, -⟩ := List.lookup_eq_some_iff.mp found
    have inside : (key, Value.number n) ∈ Value.ordered pairs :=
      split ▸ List.mem_append_right before List.mem_cons_self
    have member := List.mem_mergeSort.mp (mem_of_mem_dropRepeated inside)
    obtain ⟨source, -, made⟩ := exists_of_mapM all _ member
    obtain ⟨key', -, made⟩ := Option.bind_eq_some_iff.mp made
    obtain ⟨value, read, made⟩ := Option.bind_eq_some_iff.mp made
    cases made
    exact isFinite_of_ofTreeWithin? read
  | _ => cases found

end Json

/-! ## Strides in a session -/

/-- The first frame of a pass is due. -/
theorem Passes.head?_dueIn {F : Type} (interval : Nat) (pass : List (Shot F)) :
    ((dueIn interval pass).map (·.1)).head? = pass.head? := by
  cases pass with
  | nil => rfl
  | cons first rest =>
    rw [dueIn, List.zipIdx_cons, List.filter_cons, if_pos (decide_eq_true (Nat.dvd_zero interval))]
    rfl

namespace StartCommand

theorem one_le_intervalOr (default : Nat) (s : StartCommand) : 1 ≤ s.intervalOr default :=
  Nat.le_max_right ..

/-- A start that is accepted has sanitized numbers. -/
theorem sanitized_of_start {value : Json.Value} {s : StartCommand} (finite : value.FiniteMembers)
    (accepted : Command.ofValue value = .ok (.start s)) : Sanitized value s := by
  obtain ⟨-, f, rfl⟩ := Command.exists_fields_of_start accepted
  have stride : Stride (value.member? "frame_interval") (f.frameInterval.bind interval?) :=
    stride_interval? f.frameInterval_eq (finite _)
  exact {
    durationSec := quantity_nonNegative f.durationSec_eq (finite _)
    durationSec_mem := nonNegative_mem f.durationSec
    fps := quantity_nonNegative f.fps_eq (finite _)
    fps_mem := nonNegative_mem f.fps
    frameInterval := stride
    frameInterval_mem := stride.mem
    frameInterval_eq_none_iff := stride.eq_none_iff }

end StartCommand

variable {σ S F : Type} {H : Host σ}

/-- The numbers of a start command are made of the members of its object as `Quantity` and `Stride`
say; an object that was read from a line holds no infinite number. Whatever the command and the
default, the stride is at least one, so a frame is analysed exactly if its stride divides its place,
and a session gives its detector the first frame of each pass. -/
theorem start_numbers_sanitized (M : Media H S F) (D : Detector H F) :
    (∀ (value : Json.Value) (s : StartCommand), value.FiniteMembers →
      Command.ofValue value = .ok (.start s) → StartCommand.Sanitized value s) ∧
    (∀ (line : Bytes) (s : StartCommand), Command.ofLine line = .ok (.start s) →
      ∃ value, Json.Value.ofBytes? line = some value ∧ StartCommand.Sanitized value s) ∧
    (∀ (s : StartCommand) (default : Nat),
      1 ≤ s.intervalOr default ∧ shouldAnalyze 0 (s.intervalOr default) = true ∧
      ∀ index, shouldAnalyze index (s.intervalOr default) = true ↔ s.intervalOr default ∣ index) ∧
    ∀ (settings : SessionSettings) (s : StartCommand) (k : Client) (w : σ) (source : S),
      k.channel.Sound → (M.opening s w).1 = .ok source →
      let done := Session.run M.traced D.traced settings s k (.start w)
      let dueIn := Passes.dueIn (F := F) (s.intervalOr settings.defaultFrameInterval)
      untraced done = Session.run M D settings s k w ∧
      (handed done.2.2.trace).map (·.1) =
        (passes done.2.2.trace).all.flatMap (fun pass => (dueIn pass).map (·.1.frame)) ∧
      ∀ pass ∈ (passes done.2.2.trace).all, ((dueIn pass).map (·.1)).head? = pass.head? := by
  refine ⟨fun value s => StartCommand.sanitized_of_start, fun line s accepted => ?_,
    fun s default => ?_, fun settings s k w source sound opened => ?_⟩
  · obtain ⟨value, read, accepted⟩ := Command.ofLine_eq_ok_iff.mp accepted
    have finite := Json.finiteMembers_of_ofBytes? read
    exact ⟨value, read, StartCommand.sanitized_of_start finite accepted⟩
  · have positive := s.one_le_intervalOr default
    exact ⟨positive, (Session.shouldAnalyze_iff positive).mpr (Nat.dvd_zero _),
      fun index => Session.shouldAnalyze_iff positive⟩
  · intro done dueIn
    obtain ⟨closing, -⟩ := Session.accounted_run (D := D) settings s sound opened
    refine ⟨Session.run_traced M D settings s k (.start w), ?_,
      fun pass _ => Passes.head?_dueIn _ pass⟩
    have given := closing.exact_trace.handed_eq
    rwa [Passes.due, List.map_flatMap] at given

/-- The largest word as a duration, a negative rate, and a stride that no double is. -/
def hugeStart : Json.Value :=
  .object [("cmd", .string "start"),
    ("duration_sec", .number (.whole 0xFFFFFFFFFFFFFFFF (by decide))),
    ("fps", .number (.real (.ofRatio true 1 2))),
    ("frame_interval", .number (.whole 0x20000000000001 (by decide))),
    ("video_path", .string "clip")]

def hugeStartCommand : StartCommand where
  videoPath := "clip"
  durationSec := .ofNat 0x10000000000000000
  fps := .zero
  loop := false
  frameInterval := some 0xFFFFFFFF

theorem start_numbers_of_hugeStart :
    (hugeStart.FiniteMembers ∧ Command.ofValue hugeStart = .ok (.start hugeStartCommand)) ∧
    StartCommand.Sanitized hugeStart hugeStartCommand := by
  have finite : hugeStart.FiniteMembers := by
    intro key n found
    obtain ⟨before, after, split, -⟩ := List.lookup_eq_some_iff.mp found
    have inside : (key, Json.Value.number n) ∈ before ++ (key, .number n) :: after := by simp
    rw [← split] at inside
    simp only [List.mem_cons, Prod.mk.injEq, reduceCtorEq, and_false, false_or, or_false,
      Json.Value.number.injEq, List.not_mem_nil] at inside
    rcases inside with ⟨-, rfl⟩ | ⟨-, rfl⟩ | ⟨-, rfl⟩ <;> decide +kernel
  have read : StartCommand.ofValue? hugeStart = some hugeStartCommand := by decide +kernel
  have accepted : Command.ofValue hugeStart = .ok (.start hugeStartCommand) := by
    rw [Command.ofValue_of_start rfl, read]
    rfl
  have sanitized := start_numbers_sanitized (SyntheticClip.media Script.host) Session.blindDetector
  exact ⟨⟨finite, accepted⟩, sanitized.1 hugeStart hugeStartCommand finite accepted⟩

end DetectionLink
