/-!
# Numbers written in digits

A number of many digits is put together in blocks: a block is a small number, so only one step in
many handles the whole.

* `Positional.push`: one more digit;
* `ofDigitsIn`: the number that digits in a base write, `ofDigitsIn_eq_foldl` being the rule.
-/

namespace DetectionLink

/-- A number that more digits may follow: `scale * high + low`. -/
structure Positional where
  high : Nat
  low : Nat
  scale : Nat

namespace Positional

def start : Positional := ⟨0, 0, 1⟩

def value (p : Positional) : Nat := p.scale * p.high + p.low

/-- A block whose scale reaches this is full. -/
def fullScale : Nat := 0x100000000000000

/-- One digit more; a full block is added to the rest. -/
def push (base : Nat) (p : Positional) (digit : Nat) : Positional :=
  let scale := base * p.scale
  let low := base * p.low + digit
  if scale < fullScale then ⟨p.high, low, scale⟩ else ⟨scale * p.high + low, 0, 1⟩

theorem value_push (base digit : Nat) (p : Positional) :
    (p.push base digit).value = base * p.value + digit := by
  simp only [push, value]
  split <;> simp only [Nat.mul_add, Nat.mul_assoc, Nat.add_assoc, Nat.one_mul, Nat.add_zero]

theorem value_foldl (base : Nat) (digits : List Nat) (p : Positional) :
    (digits.foldl (push base) p).value = digits.foldl (fun n d => base * n + d) p.value := by
  induction digits generalizing p with
  | nil => rfl
  | cons digit rest ih => rw [List.foldl_cons, List.foldl_cons, ih, value_push]

end Positional

/-- The number that digits in a base write, most significant first. -/
def ofDigitsIn (base : Nat) (digits : List Nat) : Nat :=
  (digits.foldl (Positional.push base) .start).value

theorem ofDigitsIn_eq_foldl (base : Nat) (digits : List Nat) :
    ofDigitsIn base digits = digits.foldl (fun n d => base * n + d) 0 :=
  Positional.value_foldl base digits .start

end DetectionLink
