import DetectionLink.Number.Decimal

/-!
# Durations and instants

Timeouts are configured as seconds in a double and used as whole nanoseconds.

* `Duration.ofSeconds`: the nearest nanosecond, refusing what has no duration;
* `Duration.inDouble`: what is left of a duration in a double;
* `Duration.text`: the notation of log lines and messages, in the largest unit that fits;
* `Instant`: a point of the host's clock.
-/

namespace DetectionLink

/-- A length of time in whole nanoseconds. -/
structure Duration where
  nanos : Nat
deriving DecidableEq, Inhabited

/-- Why a number of seconds has no duration. -/
inductive DurationFault
  | negative
  | outOfRange
deriving DecidableEq

namespace DurationFault

def text : DurationFault → String
  | .negative => "cannot convert float seconds to Duration: value is negative"
  | .outOfRange => "cannot convert float seconds to Duration: value is either too big or NaN"

end DurationFault

namespace Duration

def nanosPerSecond : Nat := 1000000000

def nanosPerMilli : Nat := 1000000

/-- The first number of seconds that no duration holds. -/
def secondsLimit : Nat := UInt64.size

def ofMillis (millis : Nat) : Duration := ⟨nanosPerMilli * millis⟩

/-- The duration nearest a number of seconds, a half nanosecond going to the even neighbour. A
negative zero is no time at all; anything else below zero is refused. -/
def ofSeconds : Binary64 → Except DurationFault Duration
  | .nan => .error .outOfRange
  | .infinite negative => .error (if negative then .negative else .outOfRange)
  | .finite negative rank =>
    let units := Binary64.units rank
    if negative ∧ units ≠ 0 then .error .negative
    else if secondsLimit * Binary64.unitsPerOne ≤ units then .error .outOfRange
    else .ok ⟨roundHalfEven (nanosPerSecond * units) Binary64.unitsPerOne⟩

/-- Whole seconds. -/
def seconds (d : Duration) : Nat := d.nanos / nanosPerSecond

/-- The nanoseconds beyond the whole seconds. -/
def subsecond (d : Duration) : Nat := d.nanos % nanosPerSecond

/-- The nanoseconds of a duration, as a double. -/
def inNanos (d : Duration) : Binary64 :=
  ((Binary64.ofNat d.seconds).mul (.ofNat nanosPerSecond)).add (.ofNat d.subsecond)

/-- The duration of a number of nanoseconds, its seconds and the rest taken apart. -/
def ofNanos (nanos : Binary64) : Duration :=
  ⟨nanosPerSecond * (nanos.div (.ofNat nanosPerSecond)).toCount
    + nanos.toCount % nanosPerSecond⟩

/-- How many parts of a nanosecond are told apart: `2 ^ 53`. -/
def partsPerNano : Nat := 0x20000000000000

/-- A duration whose nanoseconds went through a double, where a part of a nanosecond was added to
them. The part is cut off again unless the sum was rounded up. Without it nothing changes up to
`2 ^ 53` nanoseconds, about a hundred days. -/
def inDouble (d : Duration) (part : Fin partsPerNano) : Duration :=
  ofNanos (d.inNanos.add (.ofRatio false part partsPerNano))

/-- `whole` and the `places` digits of `fraction` behind a point, without the zeros at the end. -/
def decimalText (whole fraction places : Nat) : String :=
  let digits := decimalDigits fraction
  let padded := List.replicate (places - digits.length) '0' ++ digits
  let kept := (padded.reverse.dropWhile (· = '0')).reverse
  String.ofList (decimalDigits whole)
    ++ (if kept = [] then "" else "." ++ String.ofList kept)

/-- Seconds, milliseconds, microseconds or nanoseconds: the largest unit with a whole part. -/
def text (d : Duration) : String :=
  if 0 < d.seconds then decimalText d.seconds d.subsecond 9 ++ "s"
  else if nanosPerMilli ≤ d.nanos then
    decimalText (d.nanos / nanosPerMilli) (d.nanos % nanosPerMilli) 6 ++ "ms"
  else if 1000 ≤ d.nanos then decimalText (d.nanos / 1000) (d.nanos % 1000) 3 ++ "µs"
  else decimalText d.nanos 0 0 ++ "ns"

end Duration

/-- A point of the host's clock, in nanoseconds from its start. -/
structure Instant where
  nanos : Nat
deriving DecidableEq, Inhabited

namespace Instant

/-- The instant a duration later. A clock has a last instant, in centuries, and a program that asks
for one behind it is stopped; here there is always a later instant. -/
def after (t : Instant) (d : Duration) : Instant := ⟨t.nanos + d.nanos⟩

/-- The time from `start` to `t`, none when `t` lies before. -/
def since (t start : Instant) : Duration := ⟨t.nanos - start.nanos⟩

end Instant
end DetectionLink
