import DetectionLink.Json.Value
import DetectionLink.Proofs.Characters
import Mathlib.Data.List.Forall2

/-!
# What a text is cut into

The machine that cuts a text into tokens takes one character at a time, and only a number does not
know its end. So a piece of text is read as the same tokens wherever a token may begin, numbers
with the proviso that the text stops behind them.

* `Cuts`, `Lexes`: a piece of text and its tokens, the second with the proviso;
* `Lexes.tokens?`: the tokens of a whole text;
* `cuts_intercalate`: pieces between commas;
* `Piece`, `cuts_pieces`: strings as they may be written, character by character;
* `cuts_stringText`: strings as they are printed.
-/

namespace DetectionLink.Json

namespace Lexer

/-! ## Pieces of text -/

/-- The tokens from a state on. -/
def tokensFrom (s : State) (text : List Char) : Option (List Token) :=
  (run s (text.map some)).bind finish?

theorem tokensFrom_cons {s s' : State} {c : Char} (text : List Char)
    (step : step s (some c) = some s') : tokensFrom s (c :: text) = tokensFrom s' text := by
  rw [tokensFrom, List.map_cons, run, step]
  rfl

/-- The text ends here, or goes on with a character that is no part of a number. -/
def Stops (text : List Char) : Prop := ∀ c ∈ text.head?, c = ',' ∨ c = ']' ∨ c = '}'

theorem stops_nil : Stops [] := nofun

theorem stops_cons {c : Char} {text : List Char} (h : c = ',' ∨ c = ']' ∨ c = '}') :
    Stops (c :: text) := by
  intro d hd
  obtain rfl := Option.some.inj hd
  exact h

end Lexer

open Lexer

/-- A piece of text is read as these tokens. -/
def Cuts (text : List Char) (tokens : List Token) : Prop :=
  ∀ done rest, tokensFrom ⟨done, .between⟩ (text ++ rest) =
    tokensFrom ⟨tokens.reverse ++ done, .between⟩ rest

/-- A piece of text is read as these tokens when the text stops behind it. -/
def Lexes (text : List Char) (tokens : List Token) : Prop :=
  ∀ done rest, Stops rest → tokensFrom ⟨done, .between⟩ (text ++ rest) =
    tokensFrom ⟨tokens.reverse ++ done, .between⟩ rest

section Pieces

variable {a b : List Char} {x y : List Token}

theorem Cuts.lexes (h : Cuts a x) : Lexes a x := fun done rest _ => h done rest

theorem Cuts.append (h : Cuts a x) (k : Cuts b y) : Cuts (a ++ b) (x ++ y) := by
  intro done rest
  rw [List.append_assoc, h, k, List.reverse_append, List.append_assoc]

theorem Cuts.append_lexes (h : Cuts a x) (k : Lexes b y) : Lexes (a ++ b) (x ++ y) := by
  intro done rest stops
  rw [List.append_assoc, h, k _ _ stops, List.reverse_append, List.append_assoc]

/-- A piece whose first character stops the piece before. -/
theorem Lexes.append_cuts {c : Char} (h : Lexes a x) (stop : c = ',' ∨ c = ']' ∨ c = '}')
    (k : Cuts (c :: b) y) : Cuts (a ++ c :: b) (x ++ y) := by
  intro done rest
  have stops : Stops (c :: b ++ rest) := stops_cons stop
  rw [List.append_assoc, h _ _ stops, k, List.reverse_append, List.append_assoc]

theorem cuts_of_step {c : Char} {token : Token}
    (step : ∀ done, between done c = some ⟨token :: done, .between⟩) : Cuts [c] [token] :=
  fun done rest => tokensFrom_cons rest (step done)

theorem Lexes.tokens? (h : Lexes a x) : tokens? (a.map some) = some x := by
  have whole := h [] [] stops_nil
  rw [List.append_nil, List.append_nil] at whole
  refine whole.trans ?_
  rw [tokensFrom, List.map_nil, run, Option.bind_some, finish?, List.reverse_reverse]

end Pieces

/-! ## Punctuation and names -/

theorem cuts_openArray : Cuts ['['] [.openArray] := cuts_of_step fun _ => rfl
theorem cuts_closeArray : Cuts [']'] [.closeArray] := cuts_of_step fun _ => rfl
theorem cuts_openObject : Cuts ['{'] [.openObject] := cuts_of_step fun _ => rfl
theorem cuts_closeObject : Cuts ['}'] [.closeObject] := cuts_of_step fun _ => rfl
theorem cuts_comma : Cuts [','] [.comma] := cuts_of_step fun _ => rfl
theorem cuts_colon : Cuts [':'] [.colon] := cuts_of_step fun _ => rfl

theorem cuts_null : Cuts "null".toList [.null] := fun _ _ => rfl

theorem cuts_bool (b : Bool) : Cuts (if b then "true" else "false").toList [.bool b] := by
  cases b <;> exact fun _ _ => rfl

/-- Pieces between commas, closed by a character that stops them. -/
theorem cuts_intercalate {texts : List (List Char)} {tokens : List (List Token)}
    (h : List.Forall₂ Lexes texts tokens) {c : Char} {close : Token}
    (stop : c = ',' ∨ c = ']' ∨ c = '}') (closes : Cuts [c] [close]) :
    Cuts ([','].intercalate texts ++ [c]) ([.comma].intercalate tokens ++ [close]) := by
  induction h with
  | nil => exact closes
  | @cons text token texts tokens first rest ih =>
    cases rest with
    | nil =>
      rw [List.intercalate_singleton, List.intercalate_singleton]
      exact first.append_cuts stop closes
    | cons second more =>
      rw [List.intercalate_cons_cons, List.intercalate_cons_cons, List.append_assoc,
        List.append_assoc, List.append_assoc, List.append_assoc]
      exact first.append_cuts (.inl rfl) (cuts_comma.append ih)

/-! ## Strings -/

/-- The number that hexadecimal digits go on to write behind a value. -/
def hexNumber? (value : Nat) : List Char → Option Nat
  | [] => some value
  | c :: rest => (hexValue? c).bind fun digit => hexNumber? (16 * value + digit) rest

/-- One character of a string as it may be written: as it is, by a short escape, or by the four
digits of a code unit. -/
inductive Piece
  | plain (c : Char) (printable : ¬ c.toNat < 0x20) (noQuote : c ≠ '"') (noEscape : c ≠ '\\')
  | short (letter c : Char) (means : shortEscape? letter = some c)
  | unit (digits : List Char) (value : Nat) (four : digits.length = 4)
      (means : hexNumber? 0 digits = some value)

namespace Piece

def text : Piece → List Char
  | .plain c _ _ _ => [c]
  | .short letter _ _ => ['\\', letter]
  | .unit digits _ _ _ => '\\' :: 'u' :: digits

/-- A string that is being read, with the piece behind it. -/
def read (s : StringSoFar) : Piece → StringSoFar
  | .plain c _ _ _ => s.char c
  | .short _ c _ => s.char c
  | .unit _ value _ _ => s.unit value

end Piece

section Strings

variable (done : List Token) (s : StringSoFar)

theorem tokensFrom_unit {digits : List Char} {value result : Nat} (rest : List Char)
    (nonempty : digits ≠ []) (means : hexNumber? value digits = some result) :
    tokensFrom ⟨done, .code s digits.length value⟩ (digits ++ rest) =
      tokensFrom ⟨done, .string (s.unit result)⟩ rest := by
  induction digits generalizing value with
  | nil => exact absurd rfl nonempty
  | cons c digits ih =>
    obtain ⟨digit, hex, means⟩ := Option.bind_eq_some_iff.mp means
    cases digits with
    | nil =>
      obtain rfl := Option.some.inj means
      have last : step ⟨done, .code s 1 value⟩ (some c) =
          some ⟨done, .string (s.unit (16 * value + digit))⟩ := by
        simp [step, hex]
      exact tokensFrom_cons rest last
    | cons d digits =>
      have next : step ⟨done, .code s (d :: digits).length.succ value⟩ (some c) =
          some ⟨done, .code s (d :: digits).length (16 * value + digit)⟩ := by
        simp [step, hex]
      rw [List.cons_append, List.length_cons, tokensFrom_cons _ next]
      exact ih (List.cons_ne_nil d digits) means

theorem tokensFrom_piece (p : Piece) (rest : List Char) :
    tokensFrom ⟨done, .string s⟩ (p.text ++ rest) =
      tokensFrom ⟨done, .string (p.read s)⟩ rest := by
  have escape : step ⟨done, .string s⟩ (some '\\') = some ⟨done, .escape s⟩ := rfl
  cases p with
  | plain c printable noQuote noEscape =>
    have plain : step ⟨done, .string s⟩ (some c) = some ⟨done, .string (s.char c)⟩ := by
      simp only [step, if_neg noQuote, if_neg noEscape, if_neg printable]
    exact tokensFrom_cons rest plain
  | short letter c means =>
    have noUnit : letter ≠ 'u' := by
      rintro rfl
      exact absurd means nofun
    have short : step ⟨done, .escape s⟩ (some letter) = some ⟨done, .string (s.char c)⟩ := by
      simp only [step, if_neg noUnit, means]
      rfl
    exact (tokensFrom_cons _ escape).trans (tokensFrom_cons rest short)
  | unit digits value four means =>
    have mark : step ⟨done, .escape s⟩ (some 'u') = some ⟨done, .code s digits.length 0⟩ := by
      rw [four]
      rfl
    have nonempty : digits ≠ [] := List.ne_nil_of_length_eq_add_one four
    refine (tokensFrom_cons _ escape).trans ((tokensFrom_cons _ mark).trans ?_)
    exact tokensFrom_unit done s rest nonempty means

theorem tokensFrom_pieces (pieces : List Piece) (rest : List Char) :
    tokensFrom ⟨done, .string s⟩ (pieces.flatMap Piece.text ++ rest) =
      tokensFrom ⟨done, .string (pieces.foldl Piece.read s)⟩ rest := by
  induction pieces generalizing s with
  | nil => rfl
  | cons p pieces ih => rw [List.flatMap_cons, List.append_assoc, tokensFrom_piece, ih]; rfl

end Strings

/-- What a string of pieces stands for, if it can be decoded. -/
def decoded? (pieces : List Piece) : Option String := (pieces.foldl Piece.read .start).finish

theorem cuts_pieces (pieces : List Piece) :
    Cuts ('"' :: (pieces.flatMap Piece.text ++ ['"'])) [.string (decoded? pieces)] := by
  intro done rest
  have opens : step ⟨done, .between⟩ (some '"') = some ⟨done, .string .start⟩ := rfl
  have closes : step ⟨done, .string (pieces.foldl Piece.read .start)⟩ (some '"') =
      some ⟨.string (decoded? pieces) :: done, .between⟩ := rfl
  rw [List.cons_append, List.append_assoc, tokensFrom_cons _ opens, tokensFrom_pieces]
  exact tokensFrom_cons rest closes

/-! ### Printed strings -/

/-- The two digits of a control character below the space. -/
theorem hexPair_digits : ∀ n < 0x20, ∃ a b, (hexPair n).toList = [a, b] ∧
    hexValue? a = some (n / 16) ∧ hexValue? b = some (n % 16) := by
  intro n small
  refine ⟨Nat.digitChar (n / 16), Nat.digitChar (n % 16), ?_, ?_, ?_⟩ <;>
    (revert n; decide)

/-- A character is printed as one piece that stands for it. -/
theorem exists_piece (c : Char) :
    ∃ p : Piece, p.text = (escapedChar c).toList ∧
      ∀ s : StringSoFar, p.read s = s.char c := by
  unfold escapedChar
  by_cases quote : c = '"'
  · subst quote
    exact ⟨.short '"' '"' rfl, rfl, fun _ => rfl⟩
  by_cases backslash : c = '\\'
  · subst backslash
    exact ⟨.short '\\' '\\' rfl, rfl, fun _ => rfl⟩
  rw [if_neg quote, if_neg backslash]
  split
  · next h => exact ⟨.short 'n' c (h ▸ rfl), rfl, fun _ => rfl⟩
  split
  · next h => exact ⟨.short 'r' c (h ▸ rfl), rfl, fun _ => rfl⟩
  split
  · next h => exact ⟨.short 't' c (h ▸ rfl), rfl, fun _ => rfl⟩
  split
  · next h => exact ⟨.short 'b' c (h ▸ rfl), rfl, fun _ => rfl⟩
  split
  · next h => exact ⟨.short 'f' c (h ▸ rfl), rfl, fun _ => rfl⟩
  split
  · next control =>
    obtain ⟨a, b, digits, high, low⟩ := hexPair_digits c.toNat control
    have value : 16 * (c.toNat / 16) + c.toNat % 16 = c.toNat := by omega
    have means : hexNumber? 0 ['0', '0', a, b] = some c.toNat := by
      have zero : hexValue? '0' = some 0 := rfl
      simp [hexNumber?, zero, high, low, value]
    refine ⟨.unit ['0', '0', a, b] c.toNat rfl means, ?_, fun s => ?_⟩
    · rw [String.toList_append, digits]
      rfl
    · rw [Piece.read, StringSoFar.unit, if_neg (by omega), if_neg (by omega), Char.ofNat_toNat]
  · next printable =>
    refine ⟨.plain c printable quote backslash, ?_, fun _ => rfl⟩
    rw [Char.toString_eq_singleton, String.toList_singleton]
    rfl

theorem exists_pieces (text : List Char) :
    ∃ pieces : List Piece,
      pieces.flatMap Piece.text = text.flatMap (fun c => (escapedChar c).toList) ∧
      ∀ characters, pieces.foldl Piece.read ⟨characters, true, none⟩ =
        ⟨text.reverse ++ characters, true, none⟩ := by
  induction text with
  | nil => exact ⟨[], rfl, fun _ => rfl⟩
  | cons c text ih =>
    obtain ⟨p, printed, read⟩ := exists_piece c
    obtain ⟨pieces, rest, goesOn⟩ := ih
    refine ⟨p :: pieces, ?_, fun characters => ?_⟩
    · rw [List.flatMap_cons, List.flatMap_cons, printed, rest]
    · rw [List.foldl_cons, read, List.reverse_cons, List.append_assoc]
      exact goesOn (c :: characters)

theorem toList_stringText (s : String) :
    (stringText s).toList =
      '"' :: (s.toList.flatMap (fun c => (escapedChar c).toList) ++ ['"']) := by
  rw [stringText, String.toList_append, String.toList_append, String.toList_join, List.flatMap_map]
  rfl

theorem cuts_stringText (s : String) : Cuts (stringText s).toList [.string (some s)] := by
  obtain ⟨pieces, printed, read⟩ := exists_pieces s.toList
  have text : decoded? pieces = some s := by
    rw [decoded?, StringSoFar.start, read]
    simp [StringSoFar.finish]
  rw [toList_stringText, ← printed, ← text]
  exact cuts_pieces pieces

end DetectionLink.Json
