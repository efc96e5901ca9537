import DetectionLink.Proofs.WireRoundTrip

/-!
# Detections that make no message

A builder refuses what it was supplied with for one of two reasons: no timestamp was set, or some
detection is not valid. A missing timestamp comes before everything else; otherwise the first
invalid detection is blamed, counted over all calls before anything is sorted. The link passes the
diagnosis on as it is, and since it passes on nothing else, every confidence on the wire is a
number.

* `build_ofCalls`: what a builder makes of its calls;
* `build_eq_error_iff`: the fault it reports, if a timestamp was set;
* `encodeDetections_eq`: what the link makes of the builder's result;
* `rejection_blames_first_invalid`: when a builder refuses, what it reports, and what goes on.
-/

namespace DetectionLink

namespace MessageBuilder

/-! ## The builder -/

theorem build_ofCalls (calls : List Call) :
    (ofCalls calls).build =
      match lastTimestamp? calls with
      | none => .error .missingTimestamp
      | some timestampMs =>
        match firstFault? 0 (suppliedBy calls) with
        | some fault => .error fault
        | none => .ok ⟨timestampMs, placedFrom 1 (ranked (suppliedBy calls))⟩ := by
  rw [ofCalls_eq]
  rfl

theorem build_without_timestamp {calls : List Call} (unset : lastTimestamp? calls = none) :
    (ofCalls calls).build = .error .missingTimestamp := by
  rw [build_ofCalls, unset]

/-- What is built has the timestamp set last, and ranks detections that are all valid. -/
theorem eq_of_build {calls : List Call} {m : DetectionMessage}
    (built : (ofCalls calls).build = .ok m) :
    ∃ timestampMs, lastTimestamp? calls = some timestampMs ∧
      (∀ d ∈ suppliedBy calls, d.Valid) ∧
      m = ⟨timestampMs, placedFrom 1 (ranked (suppliedBy calls))⟩ := by
  rw [build_ofCalls] at built
  split at built
  · cases built
  · next timestampMs set =>
    split at built
    · cases built
    · next faultless =>
      exact ⟨timestampMs, set, (firstFault?_eq_none_iff 0 _).mp faultless,
        (Except.ok.inj built).symm⟩

section

variable {calls : List Call} {timestampMs : UInt64} (set : lastTimestamp? calls = some timestampMs)
include set

theorem build_of_valid (valid : ∀ d ∈ suppliedBy calls, d.Valid) :
    (ofCalls calls).build = .ok ⟨timestampMs, placedFrom 1 (ranked (suppliedBy calls))⟩ := by
  rw [build_ofCalls, set]
  dsimp only
  rw [(firstFault?_eq_none_iff 0 _).mpr valid]

theorem build_eq_error_iff (fault : BuildFault) :
    (ofCalls calls).build = .error fault ↔ BlamesFirst (suppliedBy calls) fault := by
  rw [build_ofCalls, set, ← firstFault?_eq_some_iff]
  dsimp only
  cases firstFault? 0 (suppliedBy calls) with
  | none => simp
  | some first => simp

/-- A builder with a timestamp fails for an invalid detection and for nothing else. -/
theorem exists_error_iff :
    (∃ fault, (ofCalls calls).build = .error fault) ↔ ∃ d ∈ suppliedBy calls, ¬ d.Valid := by
  rw [build_ofCalls, set]
  dsimp only
  cases found : firstFault? 0 (suppliedBy calls) with
  | none =>
    have valid := (firstFault?_eq_none_iff 0 _).mp found
    constructor
    · rintro ⟨fault, failed⟩
      cases failed
    · rintro ⟨d, supplied, invalid⟩
      exact absurd (valid d supplied) invalid
  | some fault =>
    refine ⟨fun _ => ?_, fun _ => ⟨fault, rfl⟩⟩
    by_contra none
    have valid : ∀ d ∈ suppliedBy calls, d.Valid := by
      intro d supplied
      by_contra invalid
      exact none ⟨d, supplied, invalid⟩
    rw [(firstFault?_eq_none_iff 0 _).mpr valid] at found
    cases found

end

end MessageBuilder

/-! ## The link -/

open MessageBuilder (Call ofCalls lastTimestamp? suppliedBy)

/-- The calls of one analysed frame. -/
def frameCalls (timestampMs : UInt64) (found : List RawDetection) : List Call :=
  [.timestamp timestampMs, .detections found]

theorem ofDetections_eq (timestampMs : UInt64) (found : List RawDetection) :
    DetectionMessage.ofDetections timestampMs found =
      (ofCalls (frameCalls timestampMs found)).build := rfl

theorem lastTimestamp?_frameCalls (timestampMs : UInt64) (found : List RawDetection) :
    lastTimestamp? (frameCalls timestampMs found) = some timestampMs := rfl

theorem suppliedBy_frameCalls (timestampMs : UInt64) (found : List RawDetection) :
    suppliedBy (frameCalls timestampMs found) = found := by
  simp [suppliedBy, frameCalls, Call.supplied]

/-- The link keeps the message of a fault, under one kind of error. -/
theorem encodeDetections_eq (timestampMs : UInt64) (found : List RawDetection) :
    encodeDetections timestampMs found =
      match (ofCalls (frameCalls timestampMs found)).build with
      | .ok m => .ok m.encode
      | .error fault => .error (.raised .encode fault.message) := by
  rw [encodeDetections, ofDetections_eq]
  cases (ofCalls (frameCalls timestampMs found)).build with
  | ok m => rfl
  | error fault => rfl

theorem kind_of_encodeDetections {timestampMs : UInt64} {found : List RawDetection} {e : LinkError}
    (failed : encodeDetections timestampMs found = .error e) : e.kind = .encode := by
  rw [encodeDetections_eq] at failed
  split at failed
  · cases failed
  · obtain rfl := Except.error.inj failed
    rfl

/-- What is written of detections was made of numbers, and is read as numbers. -/
theorem isFinite_of_encodeDetections {timestampMs : UInt64} {found : List RawDetection}
    {line : Bytes} (encoded : encodeDetections timestampMs found = .ok line) :
    (∀ d ∈ found, d.confidence.isFinite = true) ∧
      ∃ m, DetectionMessage.ofBytes? line = some m ∧
        ∀ d ∈ m.detections, d.confidence.isFinite = true := by
  rw [encodeDetections_eq] at encoded
  split at encoded
  · next m built =>
    obtain rfl := Except.ok.inj encoded
    have back := readsBack_of_ofDetections built
    refine ⟨fun d mem => ?_, m, DetectionMessage.ofBytes?_encode_of_readsBack back,
      fun d inside => isFinite_of_readsBack (back d inside)⟩
    by_contra infinite
    have supplied : d ∈ suppliedBy (frameCalls timestampMs found) := by
      rwa [suppliedBy_frameCalls]
    obtain ⟨fault, failed⟩ := (MessageBuilder.exists_error_iff
      (lastTimestamp?_frameCalls timestampMs found)).mpr
        ⟨d, supplied, fun valid => infinite valid.1⟩
    cases built.symm.trans failed
  · cases encoded

/-! ## When and how a builder refuses -/

/-- After any calls a builder fails exactly when no timestamp was set or some detection is invalid.
Without a timestamp that is what it reports. Otherwise it reports the first invalid detection by
its index in the order of supply over all calls, and of two faults the confidence. The link reports
the detections of a frame with the builder's message and always as an encoding fault, and what it
writes holds only confidences that are numbers, as did the detections it was made of. -/
theorem rejection_blames_first_invalid :
    (∀ calls : List Call,
      let built := (ofCalls calls).build
      ((∃ fault, built = .error fault) ↔
        lastTimestamp? calls = none ∨ ∃ d ∈ suppliedBy calls, ¬ d.Valid) ∧
      (lastTimestamp? calls = none → built = .error .missingTimestamp) ∧
      ∀ timestampMs, lastTimestamp? calls = some timestampMs → ∀ fault,
        (built = .error fault ↔ BlamesFirst (suppliedBy calls) fault)) ∧
    ∀ (timestampMs : UInt64) (found : List RawDetection),
      (∀ fault, DetectionMessage.ofDetections timestampMs found = .error fault →
        encodeDetections timestampMs found = .error (.raised .encode fault.message)) ∧
      (∀ e, encodeDetections timestampMs found = .error e →
        e.kind = .encode ∧ ∃ fault, BlamesFirst found fault ∧ e.message = .words fault.message) ∧
      ∀ line, encodeDetections timestampMs found = .ok line →
        (∀ d ∈ found, d.confidence.isFinite = true) ∧
        ∃ m, DetectionMessage.ofBytes? line = some m ∧
          ∀ d ∈ m.detections, d.confidence.isFinite = true := by
  refine ⟨fun calls => ?_, fun timestampMs found => ⟨fun fault failed => ?_, fun e failed => ?_,
    fun line encoded => isFinite_of_encodeDetections encoded⟩⟩
  · refine ⟨?_, MessageBuilder.build_without_timestamp,
      fun timestampMs set => MessageBuilder.build_eq_error_iff set⟩
    cases set : lastTimestamp? calls with
    | none =>
      exact ⟨fun _ => .inl rfl, fun _ => ⟨_, MessageBuilder.build_without_timestamp set⟩⟩
    | some timestampMs =>
      rw [MessageBuilder.exists_error_iff set]
      exact ⟨.inr, fun either => either.resolve_left (Option.some_ne_none timestampMs)⟩
  · rw [encodeDetections_eq, ← ofDetections_eq, failed]
  · refine ⟨kind_of_encodeDetections failed, ?_⟩
    rw [encodeDetections_eq] at failed
    split at failed
    · cases failed
    · next fault rejected =>
      obtain rfl := Except.error.inj failed
      have blames := (MessageBuilder.build_eq_error_iff
        (lastTimestamp?_frameCalls timestampMs found) fault).mp rejected
      exact ⟨fault, suppliedBy_frameCalls timestampMs found ▸ blames, rfl⟩

end DetectionLink
