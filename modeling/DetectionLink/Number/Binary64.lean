/-!
# Double-precision numbers

Confidences, frame rates, timeouts and playback positions are IEEE 754 doubles. A finite
double is held as a sign and a *rank*: its place among the non-negative doubles counted from
zero. Ranks keep the order of the values, so comparing doubles is comparing integers, and every
operation is one exact result on natural numbers followed by one rounding.

* `units`: the value of a rank, in steps of `2 ^ -1074`, the smallest positive double;
* `nearestRank`: the rank nearest a quotient of naturals, a tie going to the even rank;
* arithmetic, comparison, rounding to whole numbers and the conversions the link needs.
-/

namespace DetectionLink

/-- The nearest natural to `num / den`; a half goes to the even neighbour. -/
def roundHalfEven (num den : Nat) : Nat :=
  let quotient := num / den
  let twice := 2 * (num % den)
  if twice < den then quotient
  else if den < twice then quotient + 1
  else quotient + quotient % 2

/-- The nearest natural to `num / den`; a half goes up. -/
def roundHalfUp (num den : Nat) : Nat := (2 * num + den) / (2 * den)

/-- A double. A zero keeps its sign; there is one NaN. -/
inductive Binary64
  | nan
  | infinite (negative : Bool)
  | finite (negative : Bool) (rank : Fin 0x7FF0000000000000)
deriving DecidableEq

namespace Binary64

/-! ## Ranks -/

/-- The rank just past the largest finite double: where the infinities stand. -/
def infinityRank : Nat := 0x7FF0000000000000

/-- How many steps of `2 ^ -1074` make one. In products with it, as with any large number, it
stands on the left: evaluation of an open term then stops at the other factor. -/
def unitsPerOne : Nat := 1 <<< 1074

/-- How many ranks span one power of two: `2 ^ 52`. -/
def binade : Nat := 0x10000000000000

/-- The value of a rank in steps of `2 ^ -1074`. After the first two, each binade has twice the
spacing of the one before. -/
def units (rank : Nat) : Nat :=
  if rank < binade then rank
  else (binade + rank % binade) <<< (rank / binade - 1)

/-- The rank nearest `num / den` steps of `2 ^ -1074`, a tie going to the even rank. It may reach
or pass `infinityRank`. With `53` significant binary digits the spacing is `2 ^ shift`, and
`shift` binades lie below the ranks of that spacing; a carry lands on the next power of two by
itself. -/
def nearestRank (num den : Nat) : Nat :=
  let shift := (num / den).log2 - 52
  binade * shift + roundHalfEven num (den <<< shift)

/-- The double of a sign and a rank; a rank out of range is an infinity. -/
def ofRank (negative : Bool) (rank : Nat) : Binary64 :=
  if h : rank < 0x7FF0000000000000 then .finite negative ⟨rank, h⟩ else .infinite negative

/-- The double nearest `± num / den` steps of `2 ^ -1074`. -/
def ofUnits (negative : Bool) (num den : Nat) : Binary64 := ofRank negative (nearestRank num den)

/-! ## Constants and conversions -/

def zero : Binary64 := .finite false ⟨0, by decide⟩

instance : Inhabited Binary64 := ⟨zero⟩

/-- The double nearest `± num / den`. -/
def ofRatio (negative : Bool) (num den : Nat) : Binary64 :=
  ofUnits negative (unitsPerOne * num) den

def ofNat (n : Nat) : Binary64 := ofRatio false n 1

def ofInt (n : Int) : Binary64 := ofRatio (decide (n < 0)) n.natAbs 1

def one : Binary64 := ofNat 1

/-- The sign of the interchange format: `2 ^ 63`. -/
def signBit : Nat := 0x8000000000000000

/-- The 64 bits of the interchange format; the NaN is the quiet one. -/
def toBits : Binary64 → Nat
  | .nan => 0x7FF8000000000000
  | .infinite negative => (if negative then signBit else 0) + infinityRank
  | .finite negative rank => (if negative then signBit else 0) + rank

def isNaN : Binary64 → Bool
  | .nan => true
  | _ => false

def isFinite : Binary64 → Bool
  | .finite .. => true
  | _ => false

/-! ## Order -/

/-- The place of a number among all numbers: equal for the two zeros, none for the NaN. -/
def place : Binary64 → Option Int
  | .nan => none
  | .infinite negative => some (if negative then -infinityRank else infinityRank)
  | .finite negative rank => some (if negative then -(rank : Int) else (rank : Int))

/-- Strictly less; false as soon as a NaN takes part. -/
def lt (x y : Binary64) : Bool :=
  match x.place, y.place with
  | some a, some b => decide (a < b)
  | _, _ => false

/-- Less or equal; false as soon as a NaN takes part. -/
def le (x y : Binary64) : Bool :=
  match x.place, y.place with
  | some a, some b => decide (a ≤ b)
  | _, _ => false

/-- `x` kept within `low` and `high`; what lies inside is not touched, so a zero keeps its sign,
and the NaN stays. -/
def clamp (x low high : Binary64) : Binary64 :=
  if x.lt low then low else if high.lt x then high else x

/-! ## Arithmetic -/

/-- The exact value in steps of `2 ^ -1074`, with its sign. -/
def signedUnits (negative : Bool) (rank : Nat) : Int :=
  if negative then -(units rank : Int) else (units rank : Int)

/-- A sum of opposite values is the positive zero; two zeros of one sign keep it. -/
def add : Binary64 → Binary64 → Binary64
  | .nan, _ | _, .nan => .nan
  | .infinite a, .infinite b => if a = b then .infinite a else .nan
  | .infinite a, _ => .infinite a
  | _, .infinite b => .infinite b
  | .finite a m, .finite b n =>
    let total := signedUnits a m + signedUnits b n
    if total = 0 then ofRank (a && b) 0
    else ofUnits (decide (total < 0)) total.natAbs 1

def neg : Binary64 → Binary64
  | .nan => .nan
  | .infinite a => .infinite (!a)
  | .finite a m => .finite (!a) m

def sub (x y : Binary64) : Binary64 := add x (neg y)

def mul : Binary64 → Binary64 → Binary64
  | .nan, _ | _, .nan => .nan
  | .infinite a, .infinite b => .infinite (a != b)
  | .infinite a, .finite b n => if n.val = 0 then .nan else .infinite (a != b)
  | .finite a m, .infinite b => if m.val = 0 then .nan else .infinite (a != b)
  | .finite a m, .finite b n => ofUnits (a != b) (units m * units n) unitsPerOne

def div : Binary64 → Binary64 → Binary64
  | .nan, _ | _, .nan => .nan
  | .infinite _, .infinite _ => .nan
  | .infinite a, .finite b _ => .infinite (a != b)
  | .finite a _, .infinite b => ofRank (a != b) 0
  | .finite a m, .finite b n =>
    if n.val = 0 then (if m.val = 0 then .nan else .infinite (a != b))
    else ofUnits (a != b) (unitsPerOne * units m) (units n)

/-! ## Whole numbers -/

/-- The nearest whole number, a half going away from zero; the sign stays, on a zero too. -/
def round : Binary64 → Binary64
  | .finite negative rank => ofRatio negative (roundHalfUp (units rank) unitsPerOne) 1
  | x => x

/-- The largest integer not above a finite number. -/
def floor? : Binary64 → Option Int
  | .finite negative rank => some (signedUnits negative rank / (unitsPerOne : Int))
  | _ => none

/-- The whole part as a 64-bit count: too small or NaN gives `0`, too large the largest count. -/
def toCount : Binary64 → Nat
  | .nan => 0
  | .infinite negative => if negative then 0 else UInt64.size - 1
  | .finite negative rank =>
    if negative then 0 else min (units rank / unitsPerOne) (UInt64.size - 1)

end Binary64
end DetectionLink
