import DetectionLink.Number.Binary64

/-!
# Drawing numbers from random words

A generator delivers 32-bit words, and every word it delivers is used in order. Numbers are drawn
by rejection, so that each value of a range is equally likely.

* `WordSource`: where words come from;
* `firstAccepted?`: drawing until a draw is accepted;
* `drawBetween`: a whole number of a closed range;
* `drawReal`: a double of a half-open range.

Rejection alone has no bound. So a source comes with a patience, which is not looked into: a draw
that was accepted within it is the same at any greater patience, and one that was not takes the
lower end of its range. At least half of all words are accepted.
-/

namespace DetectionLink

/-- A generator of words with a state of its own, and how many refusals in a row a draw from it
bears. -/
structure WordSource (ρ : Type) where
  next : ρ → UInt32 × ρ
  patience : Nat

namespace WordSource

variable {ρ : Type}

/-- The first draw that is accepted, none if so many are refused. -/
def firstAccepted? {α : Type} (draw : ρ → Option α × ρ) : Nat → ρ → Option (α × ρ)
  | 0, _ => none
  | patience + 1, r =>
    match draw r with
    | (some drawn, r) => some (drawn, r)
    | (none, r) => firstAccepted? draw patience r

variable (W : WordSource ρ)

/-! ## Whole numbers -/

/-- The largest low half of a product that is accepted: a multiple of the range's size, less one,
so that every value is hit by equally many words. -/
def acceptedBelow (size : Nat) : Nat := size <<< (31 - size.log2) - 1

/-- A word is accepted by its product with the size of the range, which has the offset drawn in its
high half. -/
def offsetOf? (size : Nat) (word : UInt32) : Option Nat :=
  let product := word.toNat * size
  if product % UInt32.size ≤ acceptedBelow size then some (product / UInt32.size) else none

/-- An offset into a range of the given size. -/
def drawOffset (size : Nat) (r : ρ) : Nat × ρ :=
  let draw r := ((offsetOf? size (W.next r).1), (W.next r).2)
  (firstAccepted? draw W.patience r).getD (0, r)

/-- A number from `low` to `high`, both included. -/
def drawBetween (low high : Nat) (r : ρ) : Nat × ρ :=
  let drawn := W.drawOffset (high - low + 1) r
  (low + drawn.1, drawn.2)

/-! ## Doubles -/

/-- Two words as one, the earlier the lower half. -/
def next64 (r : ρ) : UInt64 × ρ :=
  let low := W.next r
  let high := W.next low.2
  (low.1.toUInt64 ||| (high.1.toUInt64 <<< 32), high.2)

/-- A fraction of `2 ^ 52` equal steps, scaled into the range. -/
def scaleFraction (low high : Binary64) (steps : Nat) : Binary64 :=
  ((Binary64.ofRatio false steps Binary64.binade).mul (high.sub low)).add low

/-- Two words are accepted when their scaled fraction is below the upper end, which rounding may
reach. -/
def fractionOf? (low high : Binary64) (words : UInt64) : Option Binary64 :=
  let value := scaleFraction low high (words >>> 12).toNat
  if value.lt high then some value else none

/-- A double from `low` up to, but not including, `high`. -/
def drawReal (low high : Binary64) (r : ρ) : Binary64 × ρ :=
  let draw r := (fractionOf? low high (W.next64 r).1, (W.next64 r).2)
  (firstAccepted? draw W.patience r).getD (low, r)

end WordSource
end DetectionLink
