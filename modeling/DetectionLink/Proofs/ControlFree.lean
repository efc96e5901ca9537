import DetectionLink.Detection.Wire
import DetectionLink.Link.LineBuffer

/-!
# Messages hold no control character

A line of the link ends at the first terminator, so a message must not hold one. More is true: the
text of a message has no character below the space, because strings are escaped and all else is
digits and punctuation, and UTF-8 makes no byte below the space of any other character.

* `controlFree_stringText`, `controlFree_real`: quoted strings and doubles;
* `controlFree_text`: any value;
* `controlFree_message`: whole messages;
* `terminator_not_mem_of_encodeDetections`: the line of an analysed frame.
-/

namespace DetectionLink

/-- No character below the space. -/
def ControlFree (text : List Char) : Prop := ∀ c ∈ text, 0x20 ≤ c.toNat

instance (text : List Char) : Decidable (ControlFree text) :=
  List.decidableBAll (fun c : Char => 0x20 ≤ c.toNat) text

/-! ## Putting texts together -/

theorem controlFree_nil : ControlFree [] := fun _ h => absurd h List.not_mem_nil

theorem controlFree_append {a b : List Char} (ha : ControlFree a) (hb : ControlFree b) :
    ControlFree (a ++ b) := by
  intro c hc
  rcases List.mem_append.mp hc with h | h
  · exact ha c h
  · exact hb c h

theorem controlFree_flatMap {α : Type} {f : α → List Char} {xs : List α}
    (h : ∀ x ∈ xs, ControlFree (f x)) : ControlFree (xs.flatMap f) := by
  intro c hc
  obtain ⟨x, hx, hc⟩ := List.mem_flatMap.mp hc
  exact h x hx c hc

theorem controlFree_replicate (n : Nat) : ControlFree (List.replicate n '0') := by
  intro c hc
  rw [List.eq_of_mem_replicate hc]
  decide

theorem controlFree_of_subset {a b : List Char} (hb : ControlFree b) (h : a ⊆ b) :
    ControlFree a :=
  fun c hc => hb c (h hc)

/-- Strings put together keep the property: each has it. -/
theorem controlFree_toList_append {a b : String} (ha : ControlFree a.toList)
    (hb : ControlFree b.toList) : ControlFree (a ++ b).toList := by
  rw [String.toList_append]
  exact controlFree_append ha hb

/-- The texts of a message are long chains of parts; each part is looked at alone. -/
theorem controlFree_toList_append_iff {a b : String} :
    ControlFree (a ++ b).toList ↔ ControlFree a.toList ∧ ControlFree b.toList := by
  refine ⟨fun h => ?_, fun h => controlFree_toList_append h.1 h.2⟩
  rw [String.toList_append] at h
  exact ⟨controlFree_of_subset h (List.subset_append_left _ _),
    controlFree_of_subset h (List.subset_append_right _ _)⟩

theorem controlFree_intercalate {sep : String} {xs : List String} (hs : ControlFree sep.toList)
    (h : ∀ x ∈ xs, ControlFree x.toList) : ControlFree (sep.intercalate xs).toList := by
  rw [String.toList_intercalate]
  induction xs with
  | nil => exact controlFree_nil
  | cons x rest ih =>
    have hx := h x List.mem_cons_self
    have hrest := ih fun y hy => h y (List.mem_cons_of_mem _ hy)
    cases rest with
    | nil => simpa using hx
    | cons y more =>
      rw [List.map_cons, List.map_cons, List.intercalate_cons_cons, ← List.map_cons]
      exact controlFree_append (controlFree_append hx hs) hrest

/-! ## Numbers -/

theorem controlFree_digits (n : Nat) : ControlFree (decimalDigits n) := by
  intro c hc
  have digit := Nat.isDigit_of_mem_toDigits (by decide) (by decide) hc
  rw [Char.isDigit, Bool.and_eq_true, decide_eq_true_eq, decide_eq_true_eq] at digit
  exact Nat.le_trans (by decide) (UInt32.le_iff_toNat_le.mp digit.1)

theorem controlFree_toString (n : Nat) : ControlFree (toString n).toList := by
  have h := controlFree_digits n
  rwa [decimalDigits, ← Nat.toList_repr] at h

theorem controlFree_positional {suffix : String} {digits : List Char} (exponent : Int)
    (hs : ControlFree suffix.toList) (hd : ControlFree digits) :
    ControlFree (Layout.positionalText suffix digits exponent).toList := by
  unfold Layout.positionalText
  split
  · refine controlFree_toList_append ?_ hs
    rw [String.toList_ofList]
    exact controlFree_append hd (controlFree_replicate _)
  · have padded := controlFree_append
      (controlFree_replicate ((-exponent).toNat + 1 - digits.length)) hd
    refine controlFree_toList_append (controlFree_toList_append ?_ (by decide)) ?_
    · rw [String.toList_ofList]
      exact controlFree_of_subset padded (List.take_subset _ _)
    · rw [String.toList_ofList]
      exact controlFree_of_subset padded (List.drop_subset _ _)

theorem controlFree_scientific {digits : List Char} (leading : Int) (hd : ControlFree digits) :
    ControlFree (Layout.scientificText digits leading).toList := by
  have head : ControlFree (String.ofList (digits.take 1)).toList := by
    rw [String.toList_ofList]
    exact controlFree_of_subset hd (List.take_subset _ _)
  have fraction : ControlFree (String.ofList (digits.drop 1)).toList := by
    rw [String.toList_ofList]
    exact controlFree_of_subset hd (List.drop_subset _ _)
  have exponent : ControlFree (String.ofList (decimalDigits leading.natAbs)).toList := by
    rw [String.toList_ofList]
    exact controlFree_digits _
  have sign : ControlFree (if leading < 0 then "-" else "+").toList := by
    split <;> decide
  unfold Layout.scientificText
  refine controlFree_toList_append (controlFree_toList_append (controlFree_toList_append
    (controlFree_toList_append head ?_) (by decide)) sign) exponent
  split
  · exact controlFree_nil
  · exact controlFree_toList_append (by decide) fraction

theorem controlFree_layout (layout : Layout) (hs : ControlFree layout.wholeSuffix.toList)
    (x : Binary64) : ControlFree (layout.text x).toList := by
  cases x with
  | nan =>
    show ControlFree "NaN".toList
    decide
  | infinite negative =>
    show ControlFree (if negative then "-inf" else "inf").toList
    split <;> decide
  | finite negative rank =>
    refine controlFree_toList_append (by cases negative <;> decide) ?_
    unfold Layout.magnitudeText
    split
    · exact controlFree_toList_append (by decide) hs
    · dsimp only
      split
      · exact controlFree_positional _ hs (controlFree_digits _)
      · exact controlFree_scientific _ (controlFree_digits _)

theorem controlFree_real (x : Binary64) : ControlFree (Json.Number.real x).text.toList := by
  show ControlFree (if x.isFinite then Json.Number.layout.text x else "null").toList
  split
  · exact controlFree_layout Json.Number.layout (by decide) x
  · decide

/-! ## Strings -/

theorem controlFree_hexPair : ∀ n < 0x20, ControlFree (Json.hexPair n).toList := by decide

/-- Every character that could break the text is escaped. -/
theorem controlFree_escapedChar (c : Char) : ControlFree (Json.escapedChar c).toList := by
  unfold Json.escapedChar
  repeat' split
  · decide
  · decide
  · decide
  · decide
  · decide
  · decide
  · decide
  · next control => exact controlFree_toList_append (by decide) (controlFree_hexPair _ control)
  · next plain =>
    intro d hd
    rw [Char.toString_eq_singleton, String.toList_singleton, List.mem_singleton] at hd
    exact hd ▸ Nat.not_lt.mp plain

theorem controlFree_stringText (s : String) : ControlFree (Json.stringText s).toList := by
  refine controlFree_toList_append (controlFree_toList_append (by decide) ?_) (by decide)
  rw [String.toList_join]
  refine controlFree_flatMap fun text ht => ?_
  obtain ⟨c, _, rfl⟩ := List.mem_map.mp ht
  exact controlFree_escapedChar c

/-! ## JSON values -/

theorem controlFree_number (n : Json.Number) : ControlFree n.text.toList := by
  cases n with
  | real x => exact controlFree_real x
  | whole n fits =>
    have sign : ControlFree (if n < 0 then "-" else "").toList := by split <;> decide
    refine controlFree_toList_append sign ?_
    rw [String.toList_ofList]
    exact controlFree_digits _

mutual

theorem controlFree_text : (v : Json.Value) → ControlFree v.text.toList
  | .null => by rw [Json.Value.text]; decide
  | .bool b => by rw [Json.Value.text]; cases b <;> decide
  | .number n => by rw [Json.Value.text]; exact controlFree_number n
  | .string s => by rw [Json.Value.text]; exact controlFree_stringText s
  | .array items => by
    rw [Json.Value.text]
    have comma : ControlFree ",".toList := by decide
    have texts := controlFree_intercalate comma (controlFree_itemTexts items)
    exact controlFree_toList_append (controlFree_toList_append (by decide) texts) (by decide)
  | .object members => by
    rw [Json.Value.text]
    have comma : ControlFree ",".toList := by decide
    have texts := controlFree_intercalate comma (controlFree_memberTexts members)
    exact controlFree_toList_append (controlFree_toList_append (by decide) texts) (by decide)

theorem controlFree_itemTexts : (items : List Json.Value) →
    ∀ text ∈ Json.Value.itemTexts items, ControlFree text.toList
  | [] => by simp [Json.Value.itemTexts]
  | item :: rest => by
    rw [Json.Value.itemTexts]
    exact List.forall_mem_cons.mpr ⟨controlFree_text item, controlFree_itemTexts rest⟩

theorem controlFree_memberTexts : (members : List (String × Json.Value)) →
    ∀ text ∈ Json.Value.memberTexts members, ControlFree text.toList
  | [] => by simp [Json.Value.memberTexts]
  | (key, value) :: rest => by
    rw [Json.Value.memberTexts]
    have member := controlFree_toList_append
      (controlFree_toList_append (controlFree_stringText key) (b := ":") (by decide))
      (controlFree_text value)
    exact List.forall_mem_cons.mpr ⟨member, controlFree_memberTexts rest⟩

end

/-! ## Messages -/

theorem controlFree_box (b : BoundingBox) : ControlFree b.json.toList := by
  simp only [BoundingBox.json, controlFree_toList_append_iff]
  have x := controlFree_toString b.x.toNat
  have y := controlFree_toString b.y.toNat
  have width := controlFree_toString b.width.toNat
  have height := controlFree_toString b.height.toNat
  exact ⟨⟨⟨⟨⟨by decide, x⟩, by decide⟩, y⟩, by decide⟩,
    ⟨⟨⟨by decide, width⟩, by decide⟩, height⟩, by decide⟩

theorem controlFree_detection (d : Detection) : ControlFree d.json.toList := by
  simp only [Detection.json, controlFree_toList_append_iff]
  have id := controlFree_stringText d.id
  have label := controlFree_stringText d.label
  have confidence := controlFree_real d.confidence
  have box := controlFree_box d.box
  exact ⟨⟨⟨⟨⟨⟨⟨⟨by decide, id⟩, by decide⟩, label⟩, by decide⟩, confidence⟩, by decide⟩, box⟩,
    by decide⟩

theorem controlFree_message (m : DetectionMessage) : ControlFree m.json.toList := by
  simp only [DetectionMessage.json, controlFree_toList_append_iff]
  have kind := controlFree_stringText DetectionMessage.kindName
  have timestamp := controlFree_toString m.timestampMs.toNat
  have detections : ControlFree (",".intercalate (m.detections.map Detection.json)).toList := by
    refine controlFree_intercalate (by decide) fun text ht => ?_
    obtain ⟨d, _, rfl⟩ := List.mem_map.mp ht
    exact controlFree_detection d
  exact ⟨⟨⟨⟨⟨⟨by decide, kind⟩, by decide⟩, timestamp⟩, by decide⟩, detections⟩, by decide⟩

/-! ## Lines -/

/-- UTF-8 makes bytes below the space of nothing but characters below the space. -/
theorem utf8EncodeChar_ge {c : Char} (h : 0x20 ≤ c.toNat) :
    ∀ b ∈ String.utf8EncodeChar c, 0x20 ≤ b.toNat := by
  intro b hb
  rw [Char.toNat] at h
  unfold String.utf8EncodeChar at hb
  dsimp only at hb
  split at hb
  · rw [List.mem_singleton] at hb
    rw [hb, UInt8.toNat_ofNat']
    omega
  · -- of several bytes each carries a high bit
    split at hb
    · simp only [List.mem_cons, List.not_mem_nil, or_false] at hb
      rcases hb with rfl | rfl <;> rw [UInt8.toNat_ofNat'] <;> omega
    · split at hb
      · simp only [List.mem_cons, List.not_mem_nil, or_false] at hb
        rcases hb with rfl | rfl | rfl <;> rw [UInt8.toNat_ofNat'] <;> omega
      · simp only [List.mem_cons, List.not_mem_nil, or_false] at hb
        rcases hb with rfl | rfl | rfl | rfl <;> rw [UInt8.toNat_ofNat'] <;> omega

theorem terminator_not_mem_ofString {s : String} (h : ControlFree s.toList) :
    lineTerminator ∉ Utf8.ofString s := by
  intro mem
  obtain ⟨c, hc, hb⟩ := List.mem_flatMap.mp mem
  exact absurd (utf8EncodeChar_ge (h c hc) _ hb) (by decide)

theorem terminator_not_mem_of_encodeDetections {timestampMs : UInt64}
    {detections : List RawDetection} {line : Bytes}
    (h : encodeDetections timestampMs detections = .ok line) : lineTerminator ∉ line := by
  unfold encodeDetections at h
  split at h
  · next message _ =>
    rw [← Except.ok.inj h]
    exact terminator_not_mem_ofString (controlFree_message message)
  · exact absurd h nofun

end DetectionLink
