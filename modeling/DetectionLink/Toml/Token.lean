import DetectionLink.Text.HexDigit

/-!
# Tokens of a settings file

Settings files are TOML. A machine cuts the text into tokens, one character at a time: strings
with their escapes already resolved, runs of blanks, line ends, comments, marks, and atoms, which
are the pieces of bare keys and unquoted values between all of these.

* `Unescape`: what the inside of a string stands for;
* `Lexer.step`: the effect of one character;
* `tokens?`: the tokens of a text.
-/

namespace DetectionLink.Toml

inductive Quote
  /-- Between double quotes, with escapes. -/
  | basic
  /-- Between single quotes, as it stands. -/
  | literal
deriving DecidableEq

namespace Quote

def mark : Quote → Char
  | basic => '"'
  | literal => '\''

end Quote

inductive Token
  | dot
  | equals
  | comma
  | openBracket
  | closeBracket
  | openBrace
  | closeBrace
  | newline
  | comment
  /-- A run of blanks. -/
  | blank (text : List Char)
  /-- A string, and whether it was written between triple quotes. -/
  | text (content : String) (tripled : Bool)
  | atom (text : List Char)
deriving DecidableEq

/-! ## Strings -/

/-- What may stand in a line of text: anything but control characters, of which the tab alone is
allowed. -/
def isPlain (c : Char) : Bool := c = '\t' || (0x20 ≤ c.toNat && c.toNat ≠ 0x7F)

/-- Whether the inside of a string holds no forbidden character. Between triple quotes lines may
end, and a carriage return is part of a line end. -/
def isSound (tripled : Bool) : List Char → Bool
  | [] => true
  | '\r' :: rest => tripled && rest.head? = some '\n' && isSound tripled rest
  | c :: rest => (isPlain c || (tripled && c = '\n')) && isSound tripled rest

/-- The line end right after an opening triple quote does not count. -/
def withoutFirstBreak : List Char → List Char
  | '\n' :: rest => rest
  | '\r' :: '\n' :: rest => rest
  | cs => cs

namespace Unescape

inductive Mode
  | plain
  /-- After a backslash. -/
  | slash
  /-- Inside a character code: digits still to come and the value so far. -/
  | code (left : Nat) (value : Nat)
  /-- Between a backslash and the end of its line. -/
  | lineEnd
  /-- Among the blanks and line ends that a backslash at a line's end removes. -/
  | skipping

structure State where
  /-- The characters so far, latest first. -/
  done : List Char
  mode : Mode

/-- The character that a short escape stands for. -/
def short? : Char → Option Char
  | 'b' => some '\x08'
  | 't' => some '\t'
  | 'n' => some '\n'
  | 'f' => some '\x0c'
  | 'r' => some '\r'
  | 'e' => some '\x1b'
  | '"' => some '"'
  | '\\' => some '\\'
  | _ => none

/-- How many digits the code after an escape letter has. -/
def codeLength? : Char → Option Nat
  | 'x' => some 2
  | 'u' => some 4
  | 'U' => some 8
  | _ => none

def plain (done : List Char) (c : Char) : State :=
  if c = '\\' then ⟨done, .slash⟩ else ⟨c :: done, .plain⟩

def afterSlash (tripled : Bool) (done : List Char) (c : Char) : Option State :=
  match short? c, codeLength? c with
  | some c, _ => some ⟨c :: done, .plain⟩
  | none, some length => some ⟨done, .code length 0⟩
  | none, none =>
    if !tripled then none
    else if c = '\n' then some ⟨done, .skipping⟩
    else if c = ' ' ∨ c = '\t' ∨ c = '\r' then some ⟨done, .lineEnd⟩
    else none

/-- The character of a code; surrogates and codes past the last character have none. -/
def character? (value : Nat) : Option Char :=
  if value.isValidChar then some (Char.ofNat value) else none

def step (tripled : Bool) (s : State) (c : Char) : Option State :=
  match s.mode with
  | .plain => some (plain s.done c)
  | .slash => afterSlash tripled s.done c
  | .code left value =>
    (hexValue? c).bind fun digit =>
      let value := 16 * value + digit
      if left = 1 then (character? value).map fun c => ⟨c :: s.done, .plain⟩
      else some ⟨s.done, .code (left - 1) value⟩
  | .lineEnd =>
    if c = '\n' then some ⟨s.done, .skipping⟩
    else if c = ' ' ∨ c = '\t' ∨ c = '\r' then some s
    else none
  | .skipping =>
    if c = ' ' ∨ c = '\t' ∨ c = '\r' ∨ c = '\n' then some s else some (plain s.done c)

def finish? (s : State) : Option (List Char) :=
  match s.mode with
  | .plain | .skipping => some s.done.reverse
  | _ => none

/-- The text that the inside of a basic string stands for. -/
def run (tripled : Bool) (inside : List Char) : Option (List Char) :=
  (inside.foldlM (step tripled) ⟨[], .plain⟩).bind finish?

end Unescape

/-- The token of a string with the given inside. -/
def textToken? (quote : Quote) (tripled : Bool) (inside : List Char) : Option Token :=
  let inside := if tripled then withoutFirstBreak inside else inside
  if isSound tripled inside then
    match quote with
    | .literal => some (.text (String.ofList inside) tripled)
    | .basic =>
      (Unescape.run tripled inside).map fun content => .text (String.ofList content) tripled
  else none

/-! ## The machine -/

namespace Lexer

inductive Mode
  | between
  /-- Inside a run of blanks: its characters, latest first. -/
  | blank (text : List Char)
  /-- After a carriage return, which only a line feed may follow. -/
  | carriage
  | comment
  /-- Inside an atom: its characters, latest first. -/
  | atom (text : List Char)
  /-- After one or two opening quotes. -/
  | opening (quote : Quote) (two : Bool)
  /-- Inside a string: its characters, latest first, a run of quotes that may turn out to close it,
  and whether a backslash stands before the next character. -/
  | inside (quote : Quote) (tripled : Bool) (text : List Char) (run : Nat) (escaped : Bool)

structure State where
  /-- The tokens read, latest first. -/
  done : List Token
  mode : Mode

def start : State := ⟨[], .between⟩

def mark? : Char → Option Token
  | '.' => some .dot
  | '=' => some .equals
  | ',' => some .comma
  | '[' => some .openBracket
  | ']' => some .closeBracket
  | '{' => some .openBrace
  | '}' => some .closeBrace
  | '\n' => some .newline
  | _ => none

/-- Spaces and tabs. -/
def isBlankChar (c : Char) : Bool := c = ' ' || c = '\t'

/-- A character between tokens. -/
def between (done : List Token) (c : Char) : State :=
  match mark? c with
  | some token => ⟨token :: done, .between⟩
  | none =>
    if isBlankChar c then ⟨done, .blank [c]⟩
    else if c = '\r' then ⟨done, .carriage⟩
    else if c = '#' then ⟨.comment :: done, .comment⟩
    else if c = '"' then ⟨done, .opening .basic false⟩
    else if c = '\'' then ⟨done, .opening .literal false⟩
    else ⟨done, .atom [c]⟩

/-- Whether an atom ends before this character. -/
def endsAtom (c : Char) : Bool :=
  (mark? c).isSome || isBlankChar c || c = '\r' || c = '#'

/-- A character of a string between single quotes. -/
def insideSingle (done : List Token) (quote : Quote) (text : List Char) (escaped : Bool)
    (c : Char) : Option State :=
  if c = '\n' ∨ c = '\r' then none
  else if c = quote.mark ∧ !escaped then
    (textToken? quote false text.reverse).map fun token => ⟨token :: done, .between⟩
  else
    some ⟨done, .inside quote false (c :: text) 0 (!escaped && quote = .basic && c = '\\')⟩

/-- The inside of a triple-quoted string whose last quotes, three to five, are `run` many. -/
def closedInside (quote : Quote) (text : List Char) (run : Nat) : List Char :=
  (List.replicate (run - 3) quote.mark ++ text).reverse

/-- A character of a string between triple quotes. Up to five quotes may end it: the first two of
five are part of the text. -/
def insideTripled (done : List Token) (quote : Quote) (text : List Char) (run : Nat)
    (escaped : Bool) (c : Char) : Option State :=
  if escaped then some ⟨done, .inside quote true (c :: text) 0 false⟩
  else if c = quote.mark then
    if run = 4 then
      (textToken? quote true (closedInside quote text 5)).map fun token =>
        ⟨token :: done, .between⟩
    else some ⟨done, .inside quote true text (run + 1) false⟩
  else if 3 ≤ run then
    (textToken? quote true (closedInside quote text run)).map fun token =>
      between (token :: done) c
  else
    some ⟨done, .inside quote true (c :: List.replicate run quote.mark ++ text) 0
      (quote = .basic && c = '\\')⟩

/-- One character; none when no settings file goes on like this. -/
def step (s : State) (c : Char) : Option State :=
  match s.mode with
  | .between => some (between s.done c)
  | .blank text =>
    if isBlankChar c then some ⟨s.done, .blank (c :: text)⟩
    else some (between (.blank text.reverse :: s.done) c)
  | .carriage => if c = '\n' then some ⟨.newline :: s.done, .between⟩ else none
  | .comment =>
    if c = '\n' ∨ c = '\r' then some (between s.done c)
    else if isPlain c then some s
    else none
  | .atom text =>
    if endsAtom c then some (between (.atom text.reverse :: s.done) c)
    else some ⟨s.done, .atom (c :: text)⟩
  | .opening quote false =>
    if c = quote.mark then some ⟨s.done, .opening quote true⟩
    else insideSingle s.done quote [] false c
  | .opening quote true =>
    if c = quote.mark then some ⟨s.done, .inside quote true [] 0 false⟩
    else some (between (.text "" false :: s.done) c)
  | .inside quote false text _ escaped => insideSingle s.done quote text escaped c
  | .inside quote true text run escaped => insideTripled s.done quote text run escaped c

/-- The tokens at the end of the text. -/
def finish? (s : State) : Option (List Token) :=
  match s.mode with
  | .between | .comment => some s.done.reverse
  | .blank text => some (.blank text.reverse :: s.done).reverse
  | .atom text => some (.atom text.reverse :: s.done).reverse
  | .opening _ true => some (.text "" false :: s.done).reverse
  | .inside quote true text run _ =>
    if 3 ≤ run then
      (textToken? quote true (closedInside quote text run)).map fun token =>
        (token :: s.done).reverse
    else none
  | _ => none

end Lexer

/-- The byte order mark, which may open a file. -/
def byteOrderMark : Char := Char.ofNat 0xFEFF

/-- The tokens of a text, none when it cannot be cut into tokens. -/
def tokens? (text : List Char) : Option (List Token) :=
  let text := if text.head? = some byteOrderMark then text.drop 1 else text
  (text.foldlM Lexer.step Lexer.start).bind Lexer.finish?

end DetectionLink.Toml
