/-!
# UTF-8

Lines arrive as bytes. Decoding cuts them into characters and *bad sequences*: the longest start
of a character that its bytes allow before one breaks it, or a single byte that starts none.

* `scalars`: characters and bad sequences in order;
* `decode?`: the text of bytes without bad sequences;
* `lossy`: the text with each bad sequence replaced by `U+FFFD`;
* `encode`: the bytes of a text.
-/

namespace DetectionLink

abbrev Bytes := List UInt8

namespace Utf8

/-- After a lead byte: how many bytes follow, the bounds of the first of them, and the bits the
lead carries. The bounds leave out overlong forms, surrogates and codes past `U+10FFFF`. -/
def lead? (b : Nat) : Option (Nat × Nat × Nat × Nat) :=
  if b < 0x80 then some (0, 0, 0, b)
  else if b < 0xC2 then none
  else if b < 0xE0 then some (1, 0x80, 0xBF, b - 0xC0)
  else if b = 0xE0 then some (2, 0xA0, 0xBF, 0)
  else if b = 0xED then some (2, 0x80, 0x9F, 13)
  else if b < 0xF0 then some (2, 0x80, 0xBF, b - 0xE0)
  else if b = 0xF0 then some (3, 0x90, 0xBF, 0)
  else if b < 0xF4 then some (3, 0x80, 0xBF, b - 0xF0)
  else if b = 0xF4 then some (3, 0x80, 0x8F, 4)
  else none

/-- Reads `count` following bytes, the first within the bounds given and the others within those
of any following byte. A byte out of bounds is left for the next character. -/
def tails : Nat → Nat → Nat → Nat → Bytes → Option Char × Bytes
  | 0, _, _, code, rest => (some (Char.ofNat code), rest)
  | _ + 1, _, _, _, [] => (none, [])
  | count + 1, low, high, code, b :: rest =>
    if low ≤ b.toNat ∧ b.toNat ≤ high then
      tails count 0x80 0xBF (64 * code + b.toNat % 64) rest
    else (none, b :: rest)

/-- The character or bad sequence at a byte and what follows it. -/
def first (b : UInt8) (rest : Bytes) : Option Char × Bytes :=
  match lead? b.toNat with
  | none => (none, rest)
  | some (count, low, high, code) => tails count low high code rest

theorem tails_length_le (count low high code : Nat) (rest : Bytes) :
    (tails count low high code rest).2.length ≤ rest.length := by
  induction count generalizing low high code rest with
  | zero => simp [tails]
  | succ count ih =>
    cases rest with
    | nil => simp [tails]
    | cons b rest =>
      simp only [tails]
      split
      · exact Nat.le_trans (ih _ _ _ rest) (Nat.le_succ _)
      · simp

theorem first_length_le (b : UInt8) (rest : Bytes) : (first b rest).2.length ≤ rest.length := by
  simp only [first]
  split
  · simp
  · exact tails_length_le ..

/-- `scalars` with what was read so far, latest first. -/
def scalarsAfter (done : List (Option Char)) : Bytes → List (Option Char)
  | [] => done.reverse
  | b :: rest => scalarsAfter ((first b rest).1 :: done) (first b rest).2
termination_by bytes => bytes.length
decreasing_by exact Nat.lt_succ_of_le (first_length_le b rest)

/-- The characters of a byte string in order, none for each bad sequence. -/
def scalars (bytes : Bytes) : List (Option Char) := scalarsAfter [] bytes

/-- The text of bytes that hold no bad sequence. -/
def decode? (bytes : Bytes) : Option (List Char) := (scalars bytes).mapM id

def replacement : Char := Char.ofNat 0xFFFD

/-- The text with `U+FFFD` for each bad sequence. -/
def lossy (bytes : Bytes) : List Char := (scalars bytes).map fun c => c.getD replacement

def encode (text : List Char) : Bytes := text.flatMap String.utf8EncodeChar

/-- The bytes of a text. -/
def ofString (text : String) : Bytes := encode text.toList

/-- A byte string shown in a message. -/
def display (bytes : Bytes) : String := String.ofList (lossy bytes)

end Utf8
end DetectionLink
