import DetectionLink.Number.Binary64
import DetectionLink.Number.Positional

/-!
# Decimal text of doubles

Reading takes the double nearest the written value. Writing takes the fewest digits that read
back as the same double and, of those, the nearest; which of two equally near ones, and where
the digits go, is left to a `Layout`, so that each output states its own notation.

* `Decimal.toBinary64`: the nearest double;
* `Decimal.ofText?`: the number texts a setting accepts;
* `shortest`: the digits of a double;
* `Layout.text`, `plain`, `twoPlaces`: the notations.
-/

namespace DetectionLink

/-! ## Reading -/

/-- The number `± digits * 10 ^ exponent`. -/
structure Decimal where
  negative : Bool
  digits : Nat
  exponent : Int

namespace Decimal

/-- The nearest double. An exponent above 400 overflows whatever the digits; one far below `-400`
cannot be lifted by them, since `digits < 10 ^ (digits.log2 + 1)`. Between, the value is exact. -/
def toBinary64 (x : Decimal) : Binary64 :=
  if x.digits = 0 then .ofRank x.negative 0
  else if 400 < x.exponent then .infinite x.negative
  else if x.exponent + (x.digits.log2 + 1 : Nat) < -400 then .ofRank x.negative 0
  else .ofRatio x.negative (x.digits * Nat.pow 10 x.exponent.toNat)
    (Nat.pow 10 (-x.exponent).toNat)

def digitValue (c : Char) : Nat := c.toNat - '0'.toNat

/-- The number that decimal digits write. -/
def ofDigits (digits : List Char) : Nat := ofDigitsIn 10 (digits.map digitValue)

/-- A number of its whole digits, its fraction digits and its exponent. -/
def ofParts (negative : Bool) (whole fraction : List Char) (exponent : Int) : Decimal :=
  ⟨negative, ofDigits (whole ++ fraction), exponent - fraction.length⟩

/-- A sign, if one stands in front, and the rest. -/
def takeSign : List Char → Bool × List Char
  | '-' :: rest => (true, rest)
  | '+' :: rest => (false, rest)
  | rest => (false, rest)

/-- An exponent: a sign and at least one digit, with nothing after. -/
def exponent? (cs : List Char) : Option Int :=
  let (negative, digits) := takeSign cs
  if digits ≠ [] ∧ digits.all Char.isDigit then
    some (if negative then -(ofDigits digits : Int) else (ofDigits digits : Int))
  else none

/-- Digits with at most one point among or around them, then perhaps an exponent. -/
def unsigned? (negative : Bool) (cs : List Char) : Option Decimal :=
  let (whole, rest) := cs.span Char.isDigit
  let (fraction, rest) := match rest with
    | '.' :: rest => rest.span Char.isDigit
    | rest => ([], rest)
  if whole = [] ∧ fraction = [] then none
  else match rest with
    | [] => some (ofParts negative whole fraction 0)
    | 'e' :: rest | 'E' :: rest => (exponent? rest).map (ofParts negative whole fraction)
    | _ => none

/-- The number text of a setting: a sign, digits with a point anywhere or none, an exponent; or
one of the words for the infinities and the NaN in any case. -/
def ofText? (cs : List Char) : Option Binary64 :=
  let (negative, rest) := takeSign cs
  match String.ofList (rest.map Char.toLower) with
  | "inf" | "infinity" => some (.infinite negative)
  | "nan" => some .nan
  | _ => (unsigned? negative rest).map toBinary64

end Decimal

/-! ## The fewest digits -/

/-- The decimal digits of a natural, most significant first. -/
def decimalDigits (n : Nat) : List Char := Nat.toDigits 10 n

/-- The largest `e` with `10 ^ e ≤ num / den`, for positive `num` and `den`. -/
def floorLog10 (num den : Nat) : Int :=
  if den ≤ num then (decimalDigits (num / den)).length - 1
  else -((decimalDigits ((den + num - 1) / num - 1)).length : Int)

/-- The multiple of `10 ^ step` that reads back as the double of `rank` and is nearest to it, if
there is one; of two equally near the one that `nearest` gives. What reads back lies between the
midpoints to the neighbouring doubles, the midpoints themselves counting when the rank is even. -/
def onGrid? (nearest : Nat → Nat → Nat) (rank : Nat) (step : Int) : Option Nat :=
  let up := Nat.pow 10 step.toNat
  let down := Nat.pow 10 (-step).toNat
  let value := 2 * Binary64.units rank * down
  let low := (Binary64.units (rank - 1) + Binary64.units rank) * down
  let high := (Binary64.units rank + Binary64.units (rank + 1)) * down
  let spacing := 2 * (Binary64.unitsPerOne * up)
  let reads (n : Nat) : Bool :=
    if rank % 2 = 0 then low ≤ spacing * n ∧ spacing * n ≤ high
    else low < spacing * n ∧ spacing * n < high
  let rounded := nearest value spacing
  let below := value / spacing
  if reads rounded then some rounded
  else if reads below then some below
  else if reads (below + 1) then some (below + 1)
  else none

/-- The fewest decimal digits, as `digits * 10 ^ exponent`, that read back as the double of a
positive rank. Seventeen digits always suffice. Ten on the coarsest grid is one on the next. -/
def shortest (nearest : Nat → Nat → Nat) (rank : Nat) : Nat × Int :=
  let top := floorLog10 (Binary64.units rank) Binary64.unitsPerOne
  let found := (List.range 17).findSome? fun (fewer : Nat) =>
    let step := top - fewer
    (onGrid? nearest rank step).map fun digits =>
      if digits = 10 then (1, step + 1) else (digits, step)
  found.getD (0, 0)

/-! ## Notations -/

/-- How a double is written. -/
structure Layout where
  /-- The whole number nearest a quotient, which decides between digits equally near. -/
  nearest : Nat → Nat → Nat
  /-- Which decimal exponents are written without an exponent part. -/
  positional : Int → Bool
  /-- What follows a value without a fraction. -/
  wholeSuffix : String

namespace Layout

/-- Digits with the point set for `digits * 10 ^ exponent`. -/
def positionalText (wholeSuffix : String) (digits : List Char) (exponent : Int) : String :=
  if 0 ≤ exponent then
    String.ofList (digits ++ List.replicate exponent.toNat '0') ++ wholeSuffix
  else
    let places := (-exponent).toNat
    let padded := List.replicate (places + 1 - digits.length) '0' ++ digits
    let cut := padded.length - places
    String.ofList (padded.take cut) ++ "." ++ String.ofList (padded.drop cut)

/-- One digit before the point, the others behind it, and an exponent with its sign. -/
def scientificText (digits : List Char) (leading : Int) : String :=
  let fraction := digits.drop 1
  String.ofList (digits.take 1) ++ (if fraction = [] then "" else "." ++ String.ofList fraction)
    ++ "e" ++ (if leading < 0 then "-" else "+") ++ String.ofList (decimalDigits leading.natAbs)

/-- The text of a magnitude. -/
def magnitudeText (layout : Layout) (rank : Nat) : String :=
  if rank = 0 then "0" ++ layout.wholeSuffix
  else
    let (significand, exponent) := shortest layout.nearest rank
    let digits := decimalDigits significand
    let leading := exponent + digits.length - 1
    if layout.positional leading then positionalText layout.wholeSuffix digits exponent
    else scientificText digits leading

def text (layout : Layout) : Binary64 → String
  | .nan => "NaN"
  | .infinite negative => if negative then "-inf" else "inf"
  | .finite negative rank => (if negative then "-" else "") ++ layout.magnitudeText rank

end Layout

/-- Numbers in messages are never written with an exponent, and a whole number has no point. Of
two texts equally near the larger is taken. -/
def plain : Layout := ⟨roundHalfUp, fun _ => true, ""⟩

/-- Two places behind the point; the exact value is rounded, a half going to the even hundredth. -/
def twoPlaces : Binary64 → String
  | .nan => "NaN"
  | .infinite negative => if negative then "-inf" else "inf"
  | .finite negative rank =>
    let hundredths := roundHalfEven (100 * Binary64.units rank) Binary64.unitsPerOne
    let digits := decimalDigits (hundredths % 100)
    (if negative then "-" else "") ++ String.ofList (decimalDigits (hundredths / 100)) ++ "."
      ++ String.ofList (List.replicate (2 - digits.length) '0' ++ digits)

end DetectionLink
