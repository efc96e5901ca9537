import DetectionLink.Text.Utf8

/-!
# Decoding undoes encoding

The bytes of a text decode to its characters, with no bad sequence among them: every character
has one to four bytes by its code, and the bounds on the first following byte, which keep overlong
forms and surrogates out, let all of these through.

* `first_utf8EncodeChar`: the first character of a byte string;
* `scalars_encode`: all of them.
-/

namespace DetectionLink.Utf8

/-- One following byte within its bounds. -/
theorem tails_succ {count low high code n : Nat} (rest : Bytes) (small : n < 0x100)
    (fits : low ≤ n ∧ n ≤ high) :
    tails (count + 1) low high code (UInt8.ofNat n :: rest) =
      tails count 0x80 0xBF (64 * code + n % 64) rest := by
  have value : (UInt8.ofNat n).toNat = n := UInt8.toNat_ofNat_of_lt' small
  rw [tails, value, if_pos fits]

/-- A lead byte and its following bytes. -/
theorem first_of_lead {count low high code n : Nat} (rest : Bytes) (small : n < 0x100)
    (lead : lead? n = some (count, low, high, code)) :
    first (UInt8.ofNat n) rest = tails count low high code rest := by
  have value : (UInt8.ofNat n).toNat = n := UInt8.toNat_ofNat_of_lt' small
  rw [first, value, lead]

/-! ## Lead bytes by the code they belong to -/

section Leads

variable {n : Nat}

theorem lead_two (low : 0x80 ≤ n) (high : n ≤ 0x7FF) :
    lead? (n / 64 % 0x20 + 0xC0) = some (1, 0x80, 0xBF, n / 64) := by
  unfold lead?
  have bits : n / 64 % 0x20 + 0xC0 - 0xC0 = n / 64 := by omega
  rw [if_neg (by omega), if_neg (by omega), if_pos (by omega), bits]

/-- The bounds hold of the byte that follows: a code below `D800` or above `DFFF` is no
surrogate, and one from `800` on is not overlong. -/
theorem lead_three (low : 0x800 ≤ n) (high : n ≤ 0xFFFF) (scalar : n < 0xD800 ∨ 0xDFFF < n) :
    ∃ least most, lead? (n / 4096 % 0x10 + 0xE0) = some (2, least, most, n / 4096) ∧
      least ≤ n / 64 % 0x40 + 0x80 ∧ n / 64 % 0x40 + 0x80 ≤ most := by
  unfold lead?
  rw [if_neg (by omega), if_neg (by omega), if_neg (by omega)]
  rcases Nat.lt_or_ge n 0x1000 with small | large
  · have bits : n / 4096 = 0 := by omega
    rw [if_pos (by omega), bits]
    exact ⟨_, _, rfl, by omega, by omega⟩
  · rw [if_neg (by omega)]
    by_cases surrogates : n / 4096 = 13
    · rw [if_pos (by omega), surrogates]
      exact ⟨_, _, rfl, by omega, by omega⟩
    · have bits : n / 4096 % 0x10 + 0xE0 - 0xE0 = n / 4096 := by omega
      rw [if_neg (by omega), if_pos (by omega), bits]
      exact ⟨_, _, rfl, by omega, by omega⟩

theorem lead_four (low : 0x10000 ≤ n) (high : n < 0x110000) :
    ∃ least most, lead? (n / 262144 % 8 + 0xF0) = some (3, least, most, n / 262144) ∧
      least ≤ n / 4096 % 0x40 + 0x80 ∧ n / 4096 % 0x40 + 0x80 ≤ most := by
  unfold lead?
  rw [if_neg (by omega), if_neg (by omega), if_neg (by omega), if_neg (by omega),
    if_neg (by omega), if_neg (by omega)]
  rcases Nat.lt_or_ge n 0x40000 with small | large
  · have bits : n / 262144 = 0 := by omega
    rw [if_pos (by omega), bits]
    exact ⟨_, _, rfl, by omega, by omega⟩
  · rw [if_neg (by omega)]
    rcases Nat.lt_or_ge n 0x100000 with middle | last
    · have bits : n / 262144 % 8 + 0xF0 - 0xF0 = n / 262144 := by omega
      rw [if_pos (by omega), bits]
      exact ⟨_, _, rfl, by omega, by omega⟩
    · have bits : n / 262144 = 4 := by omega
      rw [if_neg (by omega), if_pos (by omega), bits]
      exact ⟨_, _, rfl, by omega, by omega⟩

end Leads

/-! ## Characters -/

theorem first_utf8EncodeChar (c : Char) (rest : Bytes) :
    ∃ b tail, String.utf8EncodeChar c = b :: tail ∧ first b (tail ++ rest) = (some c, rest) := by
  have scalar : c.toNat < 0xD800 ∨ 0xDFFF < c.toNat ∧ c.toNat < 0x110000 := c.valid
  have back : tails 0 0x80 0xBF c.toNat rest = (some c, rest) := by rw [tails, Char.ofNat_toNat]
  unfold String.utf8EncodeChar
  rw [← Char.toNat]
  dsimp only
  split
  · refine ⟨_, _, rfl, ?_⟩
    rw [first_of_lead _ (by omega) (show lead? c.toNat = some (0, 0, 0, c.toNat) from
      if_pos (by omega)), tails, Char.ofNat_toNat]
    rfl
  · split
    · refine ⟨_, _, rfl, ?_⟩
      rw [first_of_lead _ (by omega) (lead_two (by omega) (by omega)), List.cons_append,
        tails_succ _ (by omega) (by omega)]
      have code : 64 * (c.toNat / 64) + (c.toNat % 0x40 + 0x80) % 64 = c.toNat := by omega
      rw [code]
      exact back
    · split
      · obtain ⟨_, _, lead, low, high⟩ :=
          lead_three (n := c.toNat) (by omega) (by omega) (by omega)
        refine ⟨_, _, rfl, ?_⟩
        rw [first_of_lead _ (by omega) lead, List.cons_append, List.cons_append,
          tails_succ _ (by omega) ⟨low, high⟩, tails_succ _ (by omega) (by omega)]
        have code : 64 * (64 * (c.toNat / 4096) + (c.toNat / 64 % 0x40 + 0x80) % 64) +
            (c.toNat % 0x40 + 0x80) % 64 = c.toNat := by omega
        rw [code]
        exact back
      · obtain ⟨_, _, lead, low, high⟩ := lead_four (n := c.toNat) (by omega) (by omega)
        refine ⟨_, _, rfl, ?_⟩
        rw [first_of_lead _ (by omega) lead, List.cons_append, List.cons_append, List.cons_append,
          tails_succ _ (by omega) ⟨low, high⟩, tails_succ _ (by omega) (by omega),
          tails_succ _ (by omega) (by omega)]
        have code : 64 * (64 * (64 * (c.toNat / 262144) + (c.toNat / 4096 % 0x40 + 0x80) % 64) +
            (c.toNat / 64 % 0x40 + 0x80) % 64) + (c.toNat % 0x40 + 0x80) % 64 = c.toNat := by omega
        rw [code]
        exact back

theorem scalarsAfter_encode (done : List (Option Char)) (text : List Char) :
    scalarsAfter done (encode text) = done.reverse ++ text.map some := by
  induction text generalizing done with
  | nil => rw [encode, List.flatMap_nil, scalarsAfter, List.map_nil, List.append_nil]
  | cons c rest ih =>
    obtain ⟨b, tail, bytes, read⟩ := first_utf8EncodeChar c (encode rest)
    have shape : encode (c :: rest) = b :: (tail ++ encode rest) := by
      rw [encode, List.flatMap_cons, bytes]
      rfl
    rw [shape, scalarsAfter, read, ih, List.reverse_cons, List.append_assoc]
    rfl

theorem scalars_encode (text : List Char) : scalars (encode text) = text.map some :=
  scalarsAfter_encode [] text

end DetectionLink.Utf8
