import DetectionLink.Text.HexDigit
import DetectionLink.Toml.Value

/-!
# Unquoted values

Booleans, integers, numbers with a point or an exponent, and points in time. An unquoted text goes
on behind blanks, as a point in time needs. Of a point in time only its form is kept: no setting
takes one. What looks like an integer counts as one even if not all of it is digits; nobody can
read it then.

* `scalar?`: the value of an unquoted text.
-/

namespace DetectionLink.Toml

/-! ## Digits -/

/-- Digits with single underscores between them, without the underscores. -/
def grouped? (isDigit : Char → Bool) : List Char → Option (List Char)
  | [] => none
  | [c] => if isDigit c then some [c] else none
  | c :: '_' :: rest => if isDigit c then (grouped? isDigit rest).map (c :: ·) else none
  | c :: rest => if isDigit c then (grouped? isDigit rest).map (c :: ·) else none

/-- A decimal whole part: no zero in front of other digits. -/
def whole? (cs : List Char) : Option (List Char) :=
  (grouped? Char.isDigit cs).filter fun digits => digits.length = 1 || digits.head? ≠ some '0'

def isDigitIn (base : Nat) (c : Char) : Bool := (hexValue? c).any (· < base)

/-! ## Numbers -/

/-- Digits behind the mark of a base, or no digits at all. -/
def based? : List Char → Option (Option Nat)
  | '0' :: 'x' :: rest => digitsIn? 16 rest
  | '0' :: 'o' :: rest => digitsIn? 8 rest
  | '0' :: 'b' :: rest => digitsIn? 2 rest
  | _ => none
where
  digitsIn? (base : Nat) (cs : List Char) : Option (Option Nat) :=
    if cs = [] then some none
    else (grouped? (isDigitIn base) cs).map fun digits =>
      some (ofDigitsIn base (digits.map fun c => (hexValue? c).getD 0))

/-- Whether an underscore may stand beside a character of an integer. -/
def joinsGroups (c : Char) : Bool := (hexValue? c).isSome

/-- The text of groups with single underscores between them. Underscores stand between the right
characters and there is no space; what else is in a group, such as a tab, is not asked. -/
def groups? (cs : List Char) : Option (List Char) :=
  let groups := cs.splitOn '_'
  if ' ' ∉ cs && groups.all (fun group => group.head?.any joinsGroups)
      && groups.dropLast.all (fun group => group.getLast?.any joinsGroups) then
    some groups.flatten
  else none

def integerOf (negative : Bool) (digits : List Char) : Int :=
  if negative then -(Decimal.ofDigits digits : Int) else (Decimal.ofDigits digits : Int)

/-- An integer in groups. -/
def groupedInteger? (negative : Bool) (cs : List Char) : Option Value :=
  (groups? cs).map fun text =>
    .integer (if text.all Char.isDigit then some (integerOf negative text) else none)

/-- The exponent behind its mark. -/
def exponent? (cs : List Char) : Option Int :=
  let (negative, rest) := Decimal.takeSign cs
  (grouped? Char.isDigit rest).map (integerOf negative)

def isExponentMark (c : Char) : Bool := c = 'e' || c = 'E'

/-- The parts of a number with a point or an exponent. -/
def decimal? (negative : Bool) (cs : List Char) : Option Decimal := do
  let (wholeText, rest) := cs.span fun c => c ≠ '.' && !isExponentMark c
  let whole ← whole? wholeText
  match rest with
  | '.' :: rest =>
    let (fractionText, rest) := rest.span fun c => !isExponentMark c
    let fraction ← grouped? Char.isDigit fractionText
    match rest with
    | _ :: rest => pure (.ofParts negative whole fraction (← exponent? rest))
    | [] => pure (.ofParts negative whole fraction 0)
  | _ :: rest => pure (.ofParts negative whole [] (← exponent? rest))
  | [] => none

/-- The nearest double, unless it is an infinity. -/
def finite? (x : Binary64) : Option Binary64 := if x.isFinite then some x else none

def isDecimal (cs : List Char) : Bool := cs.any fun c => c = '.' || isExponentMark c

/-- A number that begins with a digit. -/
def digitsNumber? (negative : Bool) (cs : List Char) : Option Value :=
  if isDecimal cs then
    (decimal? negative cs).map fun x => .real (finite? x.toBinary64)
  else if cs.all Char.isDigit then
    (whole? cs).map fun digits => .integer (some (integerOf negative digits))
  else if cs.head? ≠ some '0' ∧ (cs.dropWhile Char.isDigit).head? = some '_' then
    groupedInteger? negative cs
  else none

/-- A number behind its sign, if it had one. -/
def number? (signed negative : Bool) (cs : List Char) : Option Value :=
  match String.ofList cs with
  | "inf" => some (.real (some (.infinite negative)))
  | "nan" => some (.real (some .nan))
  | _ =>
    match based? cs with
    | some n => if signed then none else some (.integer (n.map Int.ofNat))
    | none => digitsNumber? negative cs

/-! ## Points in time -/

/-- A number of exactly so many digits, and the rest. -/
def fixed? (count : Nat) (cs : List Char) : Option (Nat × List Char) :=
  let digits := cs.take count
  if digits.length = count ∧ digits.all Char.isDigit then
    some (Decimal.ofDigits digits, cs.drop count)
  else none

/-- The rest behind a character. -/
def after? (c : Char) (cs : List Char) : Option (List Char) :=
  if cs.head? = some c then some (cs.drop 1) else none

def isLeap (year : Nat) : Bool := year % 4 = 0 && (year % 100 ≠ 0 || year % 400 = 0)

def daysIn (year month : Nat) : Nat :=
  if month = 2 then (if isLeap year then 29 else 28)
  else if month = 4 ∨ month = 6 ∨ month = 9 ∨ month = 11 then 30
  else 31

/-- A day, and the rest. -/
def day? (cs : List Char) : Option (List Char) := do
  let (year, cs) ← fixed? 4 cs
  let (month, cs) ← fixed? 2 (← after? '-' cs)
  let (day, cs) ← fixed? 2 (← after? '-' cs)
  if 1 ≤ month ∧ month ≤ 12 ∧ 1 ≤ day ∧ day ≤ daysIn year month then pure cs else none

/-- The seconds of a time of day, with a fraction or without, and the rest. -/
def seconds? (cs : List Char) : Option (List Char) := do
  let (second, cs) ← fixed? 2 cs
  if 60 < second then none
  else match cs with
    | '.' :: rest =>
      let (fraction, rest) := rest.span Char.isDigit
      if fraction = [] then none else pure rest
    | _ => pure cs

/-- A time of day, and the rest. The seconds may be left out. -/
def timeOfDay? (cs : List Char) : Option (List Char) := do
  let (hour, cs) ← fixed? 2 cs
  let (minute, cs) ← fixed? 2 (← after? ':' cs)
  if 23 < hour ∨ 59 < minute then none
  else match cs with
    | ':' :: rest => seconds? rest
    | _ => pure cs

/-- An offset of less than a day; none is an offset too. -/
def isOffset : List Char → Bool
  | [] | ['Z'] | ['z'] => true
  | sign :: rest =>
    (sign = '+' || sign = '-')
      && (do
        let (hour, rest) ← fixed? 2 rest
        let (minute, rest) ← fixed? 2 (← after? ':' rest)
        pure (rest = [] && hour ≤ 23 && minute ≤ 59)) == some true

/-- A day, a time of day, or both with an offset. -/
def isDate (cs : List Char) : Bool :=
  match day? cs with
  | some [] => true
  | some (separator :: rest) =>
    (separator = 'T' || separator = 't' || separator = ' ')
      && (timeOfDay? rest).any isOffset
  | none => timeOfDay? cs == some []

/-! ## All of them -/

def scalar? (cs : List Char) : Option Value :=
  match cs with
  | '+' :: rest => number? true false rest
  | '-' :: rest => number? true true rest
  | _ =>
    match String.ofList cs with
    | "true" => some (.boolean true)
    | "false" => some (.boolean false)
    | _ => if isDate cs then some .date else number? false false cs

end DetectionLink.Toml
