import DetectionLink.Detection.Wire
import DetectionLink.Proofs.ControlFree
import DetectionLink.Proofs.JsonTexts
import DetectionLink.Proofs.ReadNumbers
import DetectionLink.Proofs.Supply
import DetectionLink.Proofs.Thousandths

/-!
# Messages are read back

The text of a message is the compact text of a JSON value, so it parses as that value's tree, and
the reader finds in the tree what the writer put there: members by their names, counts within
their limits, texts character by character. Only a confidence may differ, where a double is not
read back; those the builder makes always are.

* `DetectionMessage.value`, `text_message`: a message as a value, and its text;
* `DetectionMessage.readBack?`, `ofTree?_message`: the message in the tree;
* `isFinite_message`: confidences that are read;
* `readsBack_of_ofDetections`: confidences of the builder;
* `wire_round_trip`: any message, any accepted line, and any analysed frame.
-/

namespace DetectionLink

open Json (Value Number Tree readBack? ReadsBack FitsWord stringText)

/-! ## Messages as values -/

theorem fitsWord_of_lt {n : Nat} (small : n < UInt64.size) : FitsWord n := by
  have size : UInt64.size = 0x10000000000000000 := rfl
  unfold FitsWord
  omega

theorem lt_size_of_uint32 (x : UInt32) : x.toNat < UInt64.size :=
  Nat.lt_trans x.toNat_lt (by decide)

def countValue (n : Nat) (small : n < UInt64.size) : Value :=
  .number (.whole n (fitsWord_of_lt small))

def sideValue (side : UInt32) : Value := countValue side.toNat (lt_size_of_uint32 side)

def BoundingBox.value (b : BoundingBox) : Value :=
  .object [("x", sideValue b.x), ("y", sideValue b.y), ("width", sideValue b.width),
    ("height", sideValue b.height)]

def Detection.value (d : Detection) : Value :=
  .object [("id", .string d.id), ("class", .string d.label),
    ("confidence", .number (.real d.confidence)), ("bbox", d.box.value)]

/-- The value whose text is on the wire. -/
def DetectionMessage.value (m : DetectionMessage) : Value :=
  .object [("type", .string DetectionMessage.kindName),
    ("timestamp_ms", countValue m.timestampMs.toNat m.timestampMs.toNat_lt),
    ("detections", .array (m.detections.map Detection.value))]

/-! ## Their texts -/

theorem text_countValue (n : Nat) (small : n < UInt64.size) :
    (countValue n small).text = toString n := by
  have noSign : (if (n : Int) < 0 then "-" else "") = "" := if_neg (by omega)
  rw [countValue, Value.text, Number.text, Number.wholeText, noSign, String.empty_append,
    Nat.toString_eq_ofList_toDigits]
  rfl

theorem text_box (b : BoundingBox) : b.value.text = b.json := by
  have keys : stringText "x" = "\"x\"" ∧ stringText "y" = "\"y\"" ∧
      stringText "width" = "\"width\"" ∧ stringText "height" = "\"height\"" := by decide
  have plain (s : String) : toString s = s := rfl
  rw [← String.toList_inj]
  simp [BoundingBox.value, sideValue, BoundingBox.json, Value.text, Value.memberTexts,
    text_countValue, keys, plain]

theorem text_detection (d : Detection) : d.value.text = d.json := by
  have keys : stringText "id" = "\"id\"" ∧ stringText "class" = "\"class\"" ∧
      stringText "confidence" = "\"confidence\"" ∧ stringText "bbox" = "\"bbox\"" := by decide
  rw [← String.toList_inj]
  simp [Detection.value, Detection.json, Value.text, Value.memberTexts, text_box, keys]

theorem itemTexts_eq (items : List Value) : Value.itemTexts items = items.map Value.text := by
  induction items with
  | nil => rw [Value.itemTexts, List.map_nil]
  | cons item rest ih => rw [Value.itemTexts, ih, List.map_cons]

theorem text_message (m : DetectionMessage) : m.value.text = m.json := by
  have keys : stringText "type" = "\"type\"" ∧ stringText "timestamp_ms" = "\"timestamp_ms\"" ∧
      stringText "detections" = "\"detections\"" := by decide
  have items : (m.detections.map Detection.value).map Value.text =
      m.detections.map Detection.json := by
    rw [List.map_map]
    exact List.map_congr_left fun d _ => text_detection d
  rw [← String.toList_inj]
  simp [DetectionMessage.value, DetectionMessage.json, Value.text, Value.memberTexts,
    text_countValue, keys, String.toList_intercalate, itemTexts_eq, items]

/-! ## Their trees -/

theorem number?_countValue (n : Nat) (small : n < UInt64.size) :
    (countValue n small).tree.number? = some (.whole n (fitsWord_of_lt small)) := by
  rw [countValue, Value.tree, Number.tree, Tree.number?]
  exact Json.ofText?_wholeText _

theorem count?_countValue {n limit : Nat} (small : n < UInt64.size) (below : n < limit) :
    (countValue n small).tree.number?.bind (Number.count? limit) = some n := by
  rw [number?_countValue, Option.bind_some, Number.count?, if_pos (by omega), Int.toNat_natCast]

theorem side?_eq (tree : Tree) : BoundingBox.side? tree =
    (tree.number?.bind (Number.count? UInt32.size)).map Nat.toUInt32 := by
  unfold BoundingBox.side?
  cases tree.number? with
  | none => rfl
  | some n =>
    rw [Option.bind_some]
    cases count : n.count? UInt32.size <;> simp [count]

theorem side?_sideValue (side : UInt32) : BoundingBox.side? (sideValue side).tree = some side := by
  rw [side?_eq, sideValue, count?_countValue _ side.toNat_lt_size, Option.map_some,
    Nat.toUInt32_eq, UInt32.ofNat_toNat]

theorem ofTree?_box (b : BoundingBox) : BoundingBox.ofTree? b.value.tree = some b := by
  have fields : b.value.tree.fields? ["x", "y", "width", "height"] =
      some [(sideValue b.x).tree, (sideValue b.y).tree, (sideValue b.width).tree,
        (sideValue b.height).tree] := by
    simp [BoundingBox.value, Value.tree, Value.memberTrees, Tree.fields?]
  rw [BoundingBox.ofTree?, fields]
  simp [side?_sideValue]

theorem number?_real {x : Binary64} (finite : x.isFinite = true) :
    (Value.number (.real x)).tree.number?.map Number.toBinary64 = readBack? x := by
  rw [readBack?, Number.text, if_pos finite, Value.tree, Number.tree, if_pos finite, Tree.number?]

/-- The detection that is read where this one was written: the same, but for what its confidence is
read as. -/
def Detection.readBack? (d : Detection) : Option Detection :=
  (Json.readBack? d.confidence).map fun confidence => { d with confidence }

theorem ofTree?_detection {d : Detection} (finite : d.confidence.isFinite = true) :
    Detection.ofTree? d.value.tree = d.readBack? := by
  have fields : d.value.tree.fields? ["id", "class", "confidence", "bbox"] =
      some [.string d.id, .string d.label, (Value.number (.real d.confidence)).tree,
        d.box.value.tree] := by
    simp [Detection.value, Value.tree, Value.memberTrees, Tree.fields?]
  rw [Detection.ofTree?, fields, Detection.readBack?, ← number?_real finite]
  cases read : (Value.number (.real d.confidence)).tree.number? <;>
    simp [Tree.text?, ofTree?_box, read]

theorem mapM_itemTrees {detections : List Detection}
    (finite : ∀ d ∈ detections, d.confidence.isFinite = true) :
    (Value.itemTrees (detections.map Detection.value)).mapM Detection.ofTree? =
      detections.mapM Detection.readBack? := by
  induction detections with
  | nil => rw [List.map_nil, Value.itemTrees, List.mapM_nil, List.mapM_nil]
  | cons d rest ih =>
    obtain ⟨first, others⟩ := List.forall_mem_cons.mp finite
    rw [List.map_cons, Value.itemTrees, List.mapM_cons, List.mapM_cons, ofTree?_detection first,
      ih others]

theorem ofTree?_fields {tree kind timestamp items : Tree}
    (fields : tree.fields? ["type", "timestamp_ms", "detections"] = some [kind, timestamp, items])
    (named : DetectionMessage.isKind kind = true) :
    DetectionMessage.ofTree? tree =
      (timestamp.number?.bind (Number.count? UInt64.size)).bind fun timestampMs =>
        (items.items?.bind fun items => items.mapM Detection.ofTree?).map fun detections =>
          ⟨timestampMs.toUInt64, detections⟩ := by
  rw [DetectionMessage.ofTree?, fields]
  simp only [Option.bind_eq_bind, Option.bind_some, named, if_true, Option.bind_assoc]
  cases timestamp.number? with
  | none => rfl
  | some n =>
    rw [Option.bind_some, Option.bind_some]
    cases n.count? UInt64.size with
    | none => rfl
    | some timestampMs =>
      cases items.items? with
      | none => rfl
      | some items => simp [Option.map_eq_bind]

/-- The message that is read where this one was written. -/
def DetectionMessage.readBack? (m : DetectionMessage) : Option DetectionMessage :=
  (m.detections.mapM Detection.readBack?).map fun detections => { m with detections }

theorem ofTree?_message {m : DetectionMessage}
    (finite : ∀ d ∈ m.detections, d.confidence.isFinite = true) :
    DetectionMessage.ofTree? m.value.tree = m.readBack? := by
  have fields : m.value.tree.fields? ["type", "timestamp_ms", "detections"] =
      some [.string (some DetectionMessage.kindName),
        (countValue m.timestampMs.toNat m.timestampMs.toNat_lt).tree,
        .array (Value.itemTrees (m.detections.map Detection.value))] := by
    simp [DetectionMessage.value, Value.tree, Value.memberTrees, Tree.fields?]
  rw [ofTree?_fields fields (by simp [DetectionMessage.isKind]),
    count?_countValue _ m.timestampMs.toNat_lt_size, Tree.items?, Option.bind_some,
    Option.bind_some, mapM_itemTrees finite, Nat.toUInt64_eq, UInt64.ofNat_toNat,
    DetectionMessage.readBack?]

theorem readBack?_message {m : DetectionMessage}
    (back : ∀ d ∈ m.detections, ReadsBack d.confidence) : m.readBack? = some m := by
  obtain ⟨timestampMs, detections⟩ := m
  have all : detections.mapM Detection.readBack? = some detections := by
    induction detections with
    | nil => rw [List.mapM_nil, Option.pure_def]
    | cons d rest ih =>
      obtain ⟨first, others⟩ := List.forall_mem_cons.mp back
      have same : d.readBack? = some d := by rw [Detection.readBack?, first, Option.map_some]
      rw [List.mapM_cons, same, ih others]
      rfl
  rw [DetectionMessage.readBack?, all, Option.map_some]

/-- Only what is finite is read back: anything else is written as `null`. -/
theorem isFinite_of_readsBack {x : Binary64} (back : ReadsBack x) : x.isFinite = true := by
  obtain ⟨n, read, rfl⟩ := Option.map_eq_some_iff.mp back
  exact Json.isFinite_ofText? read

/-! ## Confidences that are read -/

theorem isFinite_number? {tree : Tree} {n : Number} (read : tree.number? = some n) :
    n.toBinary64.isFinite = true := by
  cases tree with
  | number text => exact Json.isFinite_ofText? read
  | _ => exact absurd read nofun

theorem isFinite_detection {tree : Tree} {d : Detection} (read : Detection.ofTree? tree = some d) :
    d.confidence.isFinite = true := by
  obtain ⟨fields, _, read⟩ := Option.bind_eq_some_iff.mp read
  split at read
  · simp only [Option.bind_eq_bind, Option.bind_eq_some_iff, Option.pure_def,
      Option.some.injEq] at read
    obtain ⟨id, _, label, _, n, confidence, box, _, rfl⟩ := read
    exact isFinite_number? confidence
  · exact absurd read nofun

/-- Whatever is taken from a list's items comes from one of them. -/
theorem exists_of_mapM {α β : Type} {read? : α → Option β} {items : List α} {results : List β}
    (h : items.mapM read? = some results) : ∀ b ∈ results, ∃ a ∈ items, read? a = some b := by
  induction items generalizing results with
  | nil =>
    obtain rfl : [] = results := Option.some.inj h
    nofun
  | cons a rest ih =>
    simp only [List.mapM_cons, Option.bind_eq_bind, Option.bind_eq_some_iff, Option.pure_def,
      Option.some.injEq] at h
    obtain ⟨b, first, others, more, rfl⟩ := h
    intro c mem
    rcases List.mem_cons.mp mem with rfl | mem
    · exact ⟨a, List.mem_cons_self, first⟩
    · obtain ⟨a', inside, read⟩ := ih more c mem
      exact ⟨a', List.mem_cons_of_mem _ inside, read⟩

theorem isFinite_message {line : Bytes} {m : DetectionMessage}
    (read : DetectionMessage.ofBytes? line = some m) :
    ∀ d ∈ m.detections, d.confidence.isFinite = true := by
  obtain ⟨tree, _, read⟩ := Option.bind_eq_some_iff.mp read
  obtain ⟨fields, _, read⟩ := Option.bind_eq_some_iff.mp read
  split at read
  · split at read
    · simp only [Option.bind_eq_bind, Option.bind_eq_some_iff, Option.pure_def,
        Option.some.injEq] at read
      obtain ⟨n, _, timestampMs, _, items, _, detections, each, rfl⟩ := read
      intro d mem
      obtain ⟨tree, _, read⟩ := exists_of_mapM each d mem
      exact isFinite_detection read
    · exact absurd read nofun
  · exact absurd read nofun

/-! ## Confidences that are built -/

namespace MessageBuilder

theorem readsBack_placedFrom {place : Nat} {detections : List RawDetection}
    (finite : ∀ d ∈ detections, d.confidence.isFinite = true) :
    ∀ d ∈ placedFrom place detections, ReadsBack d.confidence := by
  induction detections generalizing place with
  | nil => nofun
  | cons d rest ih =>
    obtain ⟨first, others⟩ := List.forall_mem_cons.mp finite
    obtain ⟨negative, count, few, -, rounded⟩ := exists_thousandths first
    refine List.forall_mem_cons.mpr ⟨?_, ih others⟩
    rw [placed, rounded]
    exact readsBack_thousandths negative few

end MessageBuilder

theorem readsBack_of_ofDetections {timestampMs : UInt64} {detections : List RawDetection}
    {m : DetectionMessage} (built : DetectionMessage.ofDetections timestampMs detections = .ok m) :
    ∀ d ∈ m.detections, ReadsBack d.confidence := by
  simp only [DetectionMessage.ofDetections, MessageBuilder.build, MessageBuilder.withTimestamp,
    MessageBuilder.withDetections, MessageBuilder.empty, List.nil_append] at built
  split at built
  · cases built
  · next noFault =>
    obtain rfl := Except.ok.inj built
    refine MessageBuilder.readsBack_placedFrom fun d mem => ?_
    have valid := (MessageBuilder.firstFault?_eq_none_iff 0 _).mp noFault
    exact (valid d (List.mem_mergeSort.mp mem)).1

/-! ## Round trips -/

namespace DetectionMessage

/-- Printing and reading doubles keeps the finite confidences of a message. That is asked of each
message by itself, since the reader does not keep every double. -/
def NumbersReadBack (m : DetectionMessage) : Prop :=
  ∀ d ∈ m.detections, d.confidence.isFinite = true → ReadsBack d.confidence

theorem byte_encode_ge (m : DetectionMessage) : ∀ b ∈ m.encode, 0x20 ≤ b.toNat := by
  intro b mem
  obtain ⟨c, inside, mem⟩ := List.mem_flatMap.mp mem
  exact utf8EncodeChar_ge (controlFree_message m c inside) b mem

theorem ofBytes?_encode {m : DetectionMessage}
    (finite : ∀ d ∈ m.detections, d.confidence.isFinite = true) :
    ofBytes? m.encode = m.readBack? := by
  rw [ofBytes?, encode, ← text_message, Json.ofBytes?_text, Option.bind_some,
    ofTree?_message finite]

theorem ofBytes?_encode_of_readsBack {m : DetectionMessage}
    (back : ∀ d ∈ m.detections, ReadsBack d.confidence) : ofBytes? m.encode = some m := by
  rw [ofBytes?_encode fun d mem => isFinite_of_readsBack (back d mem), readBack?_message back]

end DetectionMessage

/-- The line of a message holds no control character. If the confidences are finite it is read as
the message, each confidence as what its digits are read as; that is the message itself where
doubles are read back. What a line was accepted as is written as a line that is written as itself
again. Whatever the detector reports, the line made of it is read as the message that was built;
there nothing is assumed of doubles. -/
theorem wire_round_trip :
    (∀ m : DetectionMessage, ∀ b ∈ m.encode, 0x20 ≤ b.toNat) ∧
    (∀ m : DetectionMessage, (∀ d ∈ m.detections, d.confidence.isFinite = true) →
      DetectionMessage.ofBytes? m.encode = m.readBack? ∧
      (m.NumbersReadBack → DetectionMessage.ofBytes? m.encode = some m)) ∧
    (∀ (line : Bytes) (m : DetectionMessage), DetectionMessage.ofBytes? line = some m →
      m.NumbersReadBack →
        (DetectionMessage.ofBytes? m.encode).map DetectionMessage.encode = some m.encode) ∧
    ∀ (timestampMs : UInt64) (detections : List RawDetection) (line : Bytes),
      encodeDetections timestampMs detections = .ok line →
        ∃ m, DetectionMessage.ofDetections timestampMs detections = .ok m ∧ line = m.encode ∧
          DetectionMessage.ofBytes? line = some m := by
  have kept {m : DetectionMessage} (finite : ∀ d ∈ m.detections, d.confidence.isFinite = true)
      (back : m.NumbersReadBack) : DetectionMessage.ofBytes? m.encode = some m :=
    DetectionMessage.ofBytes?_encode_of_readsBack fun d mem => back d mem (finite d mem)
  refine ⟨DetectionMessage.byte_encode_ge, fun m finite => ?_, fun line m read back => ?_,
    fun timestampMs detections line made => ?_⟩
  · exact ⟨DetectionMessage.ofBytes?_encode finite, kept finite⟩
  · rw [kept (isFinite_message read) back, Option.map_some]
  · unfold encodeDetections at made
    split at made
    · next m built =>
      obtain rfl := Except.ok.inj made
      exact ⟨m, built, rfl,
        DetectionMessage.ofBytes?_encode_of_readsBack (readsBack_of_ofDetections built)⟩
    · exact absurd made nofun

/-- The largest numbers, and texts with quotes, a backslash, controls and characters of up to four
bytes. -/
def escapedMessage : DetectionMessage where
  timestampMs := 0xFFFFFFFFFFFFFFFF
  detections :=
    [⟨"\"1\"\\", "\n\t\x01é𝄞", .ofRatio true 1 8, ⟨0, 7, 0xFFFFFFFF, 1⟩⟩,
      ⟨"", "", .zero, ⟨0, 0, 0, 0⟩⟩]

/-- A line no message is written as: members in another order, one too many, a box as an array, a
kind as an object and a whole confidence. -/
def looseLine : Bytes :=
  Utf8.ofString ("\x7b\"detections\": [\x7b\"bbox\":[1,2,3,4],\"class\":\"\\u00e9\"," ++
    "\"id\":\"1\",\"confidence\":1,\"track\":null\x7d], \"timestamp_ms\":5," ++
    "\"type\":\x7b\"target_detection\":null\x7d\x7d")

def looseMessage : DetectionMessage := ⟨5, [⟨"1", "é", .one, ⟨1, 2, 3, 4⟩⟩]⟩

theorem numbersReadBack_escapedMessage : escapedMessage.NumbersReadBack := by
  refine List.forall_mem_cons.mpr ⟨fun _ => ?_, List.forall_mem_cons.mpr ⟨fun _ => ?_, nofun⟩⟩ <;>
    decide +kernel

theorem ofBytes?_looseLine : DetectionMessage.ofBytes? looseLine = some looseMessage := by
  decide +kernel

theorem encodeDetections_looseMessage :
    encodeDetections 5 [⟨"é", .one, ⟨1, 2, 3, 4⟩⟩] = .ok looseMessage.encode := by
  have finite : Binary64.one.isFinite = true := by decide +kernel
  have confidence : roundConfidence (Binary64.one.clamp .zero .one) = .one := by decide +kernel
  have place : Nat.repr 1 = "1" := by decide
  have built : DetectionMessage.ofDetections 5 [⟨"é", .one, ⟨1, 2, 3, 4⟩⟩] = .ok looseMessage := by
    simp [DetectionMessage.ofDetections, MessageBuilder.build, MessageBuilder.withTimestamp,
      MessageBuilder.withDetections, MessageBuilder.empty, MessageBuilder.firstFault?,
      MessageBuilder.faultOf?, MessageBuilder.ranked, MessageBuilder.placedFrom,
      MessageBuilder.placed, looseMessage, finite, confidence, place]
  rw [encodeDetections, built]

theorem wire_round_trip_of_samples :
    DetectionMessage.ofBytes? escapedMessage.encode = some escapedMessage ∧
    (DetectionMessage.ofBytes? looseMessage.encode).map DetectionMessage.encode =
      some looseMessage.encode ∧
    ∃ m, DetectionMessage.ofDetections 5 [⟨"é", .one, ⟨1, 2, 3, 4⟩⟩] = .ok m ∧
      looseMessage.encode = m.encode ∧
      DetectionMessage.ofBytes? looseMessage.encode = some m := by
  refine ⟨(wire_round_trip.2.1 escapedMessage (by decide +kernel)).2 numbersReadBack_escapedMessage,
    wire_round_trip.2.2.1 looseLine looseMessage ofBytes?_looseLine ?_,
    wire_round_trip.2.2.2 5 _ looseMessage.encode encodeDetections_looseMessage⟩
  exact List.forall_mem_cons.mpr ⟨fun _ => by decide +kernel, nofun⟩

end DetectionLink
