import DetectionLink.Json.Token

/-!
# JSON numbers

A whole number that fits 64 bits is exact. Any other number is a double, made in two steps from as
many leading digits as fit 64 bits: the digits are rounded to a double first, and that is scaled
by a power of ten. So a long number need not become the double nearest to it.

* `Significand`: the digits in use;
* `Number.ofText?`: the number of a text;
* `Number.text`: its text, `Number.layout` being the notation of doubles.
-/

namespace DetectionLink.Json

/-! ## Reading doubles -/

/-- The digits in use, below `2 ^ 64`, and the power of ten they are to be scaled by. -/
structure Significand where
  value : Nat
  exponent : Int
deriving DecidableEq

namespace Significand

/-- One digit more, if the digits then still fit 64 bits. -/
def push? (value : Nat) (digit : Char) : Option Nat :=
  let longer := 10 * value + Decimal.digitValue digit
  if longer < UInt64.size then some longer else none

/-- Takes digits in front of the point up to the first that does not fit; that one and all after
it are only counted. -/
def takeWhole (value : Nat) : List Char → Significand
  | [] => ⟨value, 0⟩
  | digit :: rest =>
    match push? value digit with
    | some value => takeWhole value rest
    | none => ⟨value, (rest.length + 1 : Nat)⟩

/-- Takes digits behind the point up to the first that does not fit; the others are left out. -/
def takeFraction (s : Significand) : List Char → Significand
  | [] => s
  | digit :: rest =>
    match push? s.value digit with
    | some value => takeFraction ⟨value, s.exponent - 1⟩ rest
    | none => s

def ofText (text : NumberText) : Significand :=
  let s := (takeWhole 0 text.whole).takeFraction (text.fraction.getD [])
  ⟨s.value, s.exponent + text.exponent.getD 0⟩

/-- The largest power of ten that is a double. -/
def maxPower : Nat := 308

def tenTo (power : Nat) : Binary64 := .ofNat (Nat.pow 10 power)

/-- Division by a power of ten, in two steps if it is no double. After two divisions by the largest
power nothing is left of a double below `2 ^ 65`. -/
def lowered (x : Binary64) (power : Nat) : Binary64 :=
  if power ≤ maxPower then x.div (tenTo power)
  else if power ≤ 2 * maxPower then (x.div (tenTo maxPower)).div (tenTo (power - maxPower))
  else .zero

/-- The double of the digits, none when it would be infinite. -/
def toBinary64? (s : Significand) : Option Binary64 :=
  let x := Binary64.ofNat s.value
  if s.value = 0 then some x
  else if s.exponent < 0 then some (lowered x s.exponent.natAbs)
  else if s.exponent ≤ maxPower then
    let raised := x.mul (tenTo s.exponent.toNat)
    if raised.isFinite then some raised else none
  else none

end Significand

/-! ## Numbers -/

/-- What 64 bits hold, with a sign or without. -/
def FitsWord (n : Int) : Prop := -0x8000000000000000 ≤ n ∧ n < 0x10000000000000000

instance (n : Int) : Decidable (FitsWord n) := inferInstanceAs (Decidable (_ ∧ _))

/-- A whole number without point and exponent stays exact when it fits 64 bits; any other number
is a double. -/
inductive Number
  | whole (n : Int) (fits : FitsWord n)
  | real (x : Binary64)

namespace Number

/-- The number of a text; none when its double would be infinite. A negative zero is a double. -/
def ofText? (text : NumberText) : Option Number :=
  let asReal := (Significand.ofText text).toBinary64?.map fun x =>
    real (if text.negative then x.neg else x)
  match text.fraction, text.exponent with
  | none, none =>
    let magnitude := Decimal.ofDigits text.whole
    let n : Int := if text.negative then -(magnitude : Int) else (magnitude : Int)
    if text.negative ∧ magnitude = 0 then asReal
    else if h : FitsWord n then some (whole n h)
    else asReal
  | _, _ => asReal

def toBinary64 : Number → Binary64
  | whole n _ => .ofInt n
  | real x => x

/-- The count a whole number stands for, when it is one below `limit`. -/
def count? (limit : Nat) : Number → Option Nat
  | whole n _ => if 0 ≤ n ∧ n < limit then some n.toNat else none
  | real _ => none

/-- Doubles are written positionally from `1e-5` up to below `1e16`, a whole one with `.0`; the
exponent of the others has its sign. Of two texts equally near the one with an even last digit is
taken. -/
def layout : Layout := ⟨roundHalfEven, fun e => -5 ≤ e && e < 16, ".0"⟩

def wholeText (n : Int) : String :=
  (if n < 0 then "-" else "") ++ String.ofList (decimalDigits n.natAbs)

def text : Number → String
  | whole n _ => wholeText n
  | real x => if x.isFinite then layout.text x else "null"

end Number
end DetectionLink.Json
