import DetectionLink.Number.Decimal
import DetectionLink.Text.HexDigit
import DetectionLink.Text.Utf8

/-!
# Tokens of a JSON text

A JSON text is cut into tokens by a machine that takes one character, or one bad UTF-8 sequence,
at a time. Well-formedness of strings and numbers is settled here; what they mean is not: a
string that cannot be decoded (a bad sequence, a surrogate without its partner) is still a token,
because a value nobody reads may hold one.

* `Token`: what a text is made of;
* `Lexer.step`: the effect of one character;
* `tokens?`: the tokens of a text.
-/

namespace DetectionLink.Json

/-- A number as written: its parts, none for a part that is not there. -/
structure NumberText where
  negative : Bool
  whole : List Char
  fraction : Option (List Char)
  exponent : Option Int

inductive Token
  | openArray
  | closeArray
  | openObject
  | closeObject
  | comma
  | colon
  | null
  | bool (value : Bool)
  | number (text : NumberText)
  /-- The text is missing when the string cannot be decoded. -/
  | string (text : Option String)

/-! ## Strings -/

/-- A string being read: its characters, latest first, whether all of it could be decoded, and a
leading surrogate that waits for its partner. -/
structure StringSoFar where
  characters : List Char
  sound : Bool
  lead : Option Nat

namespace StringSoFar

def start : StringSoFar := ⟨[], true, none⟩

/-- A leading surrogate is lost when anything but its partner follows. -/
def char (s : StringSoFar) (c : Char) : StringSoFar :=
  ⟨c :: s.characters, s.sound && s.lead.isNone, none⟩

def undecodable (s : StringSoFar) : StringSoFar := ⟨s.characters, false, none⟩

/-- A 16-bit code unit. Leading surrogates are `D800` to `DBFF`, their partners `DC00` to `DFFF`;
a pair stands for the character past `FFFF` with ten bits from each. -/
def unit (s : StringSoFar) (u : Nat) : StringSoFar :=
  if 0xDC00 ≤ u ∧ u ≤ 0xDFFF then
    match s.lead with
    | some h => ⟨Char.ofNat (0x10000 + 0x400 * (h - 0xD800) + (u - 0xDC00)) :: s.characters,
        s.sound, none⟩
    | none => s.undecodable
  else if 0xD800 ≤ u ∧ u ≤ 0xDBFF then
    ⟨s.characters, s.sound && s.lead.isNone, some u⟩
  else s.char (Char.ofNat u)

def finish (s : StringSoFar) : Option String :=
  if s.sound && s.lead.isNone then some (String.ofList s.characters.reverse) else none

end StringSoFar

/-- The character that a short escape stands for. -/
def shortEscape? : Char → Option Char
  | '"' => some '"'
  | '\\' => some '\\'
  | '/' => some '/'
  | 'b' => some '\x08'
  | 'f' => some '\x0c'
  | 'n' => some '\n'
  | 'r' => some '\r'
  | 't' => some '\t'
  | _ => none

/-! ## Numbers -/

/-- How far a number has been read. -/
inductive NumberStage
  | minus
  | zero
  | whole
  | point
  | fraction
  | exponentMark
  | exponentSign
  | exponent

namespace NumberStage

/-- The stage after one more character of a number; none when the character is no part of it. No
digit may follow a leading zero. -/
def next? : NumberStage → Char → Option NumberStage
  | .minus, c => if c = '0' then some .zero else if c.isDigit then some .whole else none
  | .zero, c => if c = '.' then some .point else if c = 'e' ∨ c = 'E' then some .exponentMark
      else none
  | .whole, c => if c.isDigit then some .whole else if c = '.' then some .point
      else if c = 'e' ∨ c = 'E' then some .exponentMark else none
  | .point, c => if c.isDigit then some .fraction else none
  | .fraction, c => if c.isDigit then some .fraction
      else if c = 'e' ∨ c = 'E' then some .exponentMark else none
  | .exponentMark, c => if c.isDigit then some .exponent
      else if c = '+' ∨ c = '-' then some .exponentSign else none
  | .exponentSign, c => if c.isDigit then some .exponent else none
  | .exponent, c => if c.isDigit then some .exponent else none

/-- Whether a number may end here. -/
def complete : NumberStage → Bool
  | .zero | .whole | .fraction | .exponent => true
  | _ => false

end NumberStage

/-- The parts of a number's text. -/
def NumberText.ofChars (text : List Char) : NumberText :=
  let negative := text.head? = some '-'
  let (whole, rest) := (if negative then text.drop 1 else text).span Char.isDigit
  let (fraction, rest) := match rest with
    | '.' :: rest => let (digits, rest) := rest.span Char.isDigit; (some digits, rest)
    | rest => (none, rest)
  ⟨negative, whole, fraction, Decimal.exponent? (rest.drop 1)⟩

/-! ## The machine -/

namespace Lexer

/-- What the machine is inside of. -/
inductive Mode
  | between
  | string (s : StringSoFar)
  | escape (s : StringSoFar)
  /-- Inside `\u`: digits still to come and the value so far. -/
  | code (s : StringSoFar) (left : Nat) (value : Nat)
  /-- Inside a literal name: the characters still to come and the token it stands for. -/
  | name (left : List Char) (token : Token)
  /-- Inside a number: its characters, latest first. -/
  | number (stage : NumberStage) (text : List Char)

structure State where
  /-- The tokens read, latest first. -/
  done : List Token
  mode : Mode

def start : State := ⟨[], .between⟩

/-- A character between tokens. -/
def between (done : List Token) (c : Char) : Option State :=
  if c = ' ' ∨ c = '\t' ∨ c = '\n' ∨ c = '\r' then some ⟨done, .between⟩
  else if c = '[' then some ⟨.openArray :: done, .between⟩
  else if c = ']' then some ⟨.closeArray :: done, .between⟩
  else if c = '{' then some ⟨.openObject :: done, .between⟩
  else if c = '}' then some ⟨.closeObject :: done, .between⟩
  else if c = ',' then some ⟨.comma :: done, .between⟩
  else if c = ':' then some ⟨.colon :: done, .between⟩
  else if c = '"' then some ⟨done, .string .start⟩
  else if c = 't' then some ⟨done, .name ['r', 'u', 'e'] (.bool true)⟩
  else if c = 'f' then some ⟨done, .name ['a', 'l', 's', 'e'] (.bool false)⟩
  else if c = 'n' then some ⟨done, .name ['u', 'l', 'l'] .null⟩
  else if c = '-' then some ⟨done, .number .minus [c]⟩
  else if c = '0' then some ⟨done, .number .zero [c]⟩
  else if c.isDigit then some ⟨done, .number .whole [c]⟩
  else none

/-- The token of a number that ends. -/
def numberToken (text : List Char) : Token := .number (.ofChars text.reverse)

/-- One character, or one bad sequence; none when no JSON text goes on like this. A bad sequence
may stand only inside a string. -/
def step (s : State) (c : Option Char) : Option State :=
  match s.mode, c with
  | .string text, none => some ⟨s.done, .string text.undecodable⟩
  | _, none => none
  | .between, some c => between s.done c
  | .string text, some c =>
    if c = '"' then some ⟨.string text.finish :: s.done, .between⟩
    else if c = '\\' then some ⟨s.done, .escape text⟩
    else if c.toNat < 0x20 then none
    else some ⟨s.done, .string (text.char c)⟩
  | .escape text, some c =>
    if c = 'u' then some ⟨s.done, .code text 4 0⟩
    else (shortEscape? c).map fun c => ⟨s.done, .string (text.char c)⟩
  | .code text left value, some c =>
    (hexValue? c).map fun digit =>
      let value := 16 * value + digit
      if left = 1 then ⟨s.done, .string (text.unit value)⟩
      else ⟨s.done, .code text (left - 1) value⟩
  | .name left token, some c =>
    match left with
    | [last] => if c = last then some ⟨token :: s.done, .between⟩ else none
    | expected :: left => if c = expected then some ⟨s.done, .name left token⟩ else none
    | [] => none
  | .number stage text, some c =>
    match stage.next? c with
    | some stage => some ⟨s.done, .number stage (c :: text)⟩
    | none => if stage.complete then between (numberToken text :: s.done) c else none

def run (s : State) : List (Option Char) → Option State
  | [] => some s
  | c :: rest =>
    match step s c with
    | some s => run s rest
    | none => none

/-- The tokens at the end of the text, which may end a number but nothing else. -/
def finish? (s : State) : Option (List Token) :=
  match s.mode with
  | .between => some s.done.reverse
  | .number stage text =>
    if stage.complete then some (numberToken text :: s.done).reverse else none
  | _ => none

end Lexer

/-- The tokens of a text, none when it cannot be cut into tokens. -/
def tokens? (text : List (Option Char)) : Option (List Token) :=
  (Lexer.run Lexer.start text).bind Lexer.finish?

end DetectionLink.Json
