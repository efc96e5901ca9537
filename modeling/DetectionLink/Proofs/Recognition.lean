import DetectionLink.Proofs.TreeTokens

/-!
# Only JSON texts are read

A line that is cut into tokens spells them. A bad sequence can stand inside a string only, and such
a string has no text. So a line whose tree has a text for each of its strings is a JSON text of
that tree.

* `isNumber_of_through?`: what is taken as a number;
* `number_of_tokensOn`, `name_of_tokensOn`, `string_of_tokensOn`: what is taken inside a token;
* `Fragment`: strings as they are read, bad sequences and all;
* `front_of_tokensOn`, `spells_of_tokensOn`: what is taken between tokens, and a whole line;
* `isText_of_ofBytes?`: a line is a text of its tree.
-/

namespace DetectionLink.Json

/-! ## Numbers that are read -/

namespace NumberStage

variable {last : NumberStage} {text : List Char}

theorem next_of_through? {stage : NumberStage} {c : Char}
    (h : stage.through? (c :: text) = some last) :
    ∃ next, stage.next? c = some next ∧ next.through? text = some last :=
  Option.bind_eq_some_iff.mp h

theorem digits_of_exponent (h : exponent.through? text = some last) :
    ∀ c ∈ text, c.isDigit = true := by
  induction text with
  | nil => exact List.forall_mem_nil _
  | cons c text ih =>
    obtain ⟨next, taken, ran⟩ := next_of_through? h
    simp only [next?, Option.ite_none_right_eq_some] at taken
    obtain ⟨digit, same⟩ := taken
    obtain rfl := Option.some.inj same
    exact List.forall_mem_cons.mpr ⟨digit, ih ran⟩

theorem isDigits_of_exponentSign (complete : last.complete = true)
    (h : exponentSign.through? text = some last) : IsDigits text := by
  cases text with
  | nil =>
    obtain rfl := Option.some.inj h
    cases complete
  | cons c text =>
    obtain ⟨next, taken, ran⟩ := next_of_through? h
    simp only [next?, Option.ite_none_right_eq_some] at taken
    obtain ⟨digit, same⟩ := taken
    obtain rfl := Option.some.inj same
    exact ⟨List.cons_ne_nil c text, List.forall_mem_cons.mpr ⟨digit, digits_of_exponent ran⟩⟩

/-- Behind the mark of an exponent. -/
theorem isExponent_of_exponentMark {mark : Char} (marks : mark = 'e' ∨ mark = 'E')
    (complete : last.complete = true) (h : exponentMark.through? text = some last) :
    IsExponent (mark :: text) := by
  cases text with
  | nil =>
    obtain rfl := Option.some.inj h
    cases complete
  | cons c text =>
    obtain ⟨next, taken, ran⟩ := next_of_through? h
    simp only [next?] at taken
    split at taken
    · next digit =>
      obtain rfl := Option.some.inj taken
      have digits : IsDigits (c :: text) :=
        ⟨List.cons_ne_nil c text, List.forall_mem_cons.mpr ⟨digit, digits_of_exponent ran⟩⟩
      show IsExponent (mark :: ([] ++ c :: text))
      exact .present marks (.inl rfl) digits
    · split at taken
      · next sign =>
        obtain rfl := Option.some.inj taken
        have digits := isDigits_of_exponentSign complete ran
        rcases sign with rfl | rfl
        · show IsExponent (mark :: (['+'] ++ text))
          exact .present marks (.inr (.inl rfl)) digits
        · show IsExponent (mark :: (['-'] ++ text))
          exact .present marks (.inr (.inr rfl)) digits
      · cases taken

/-- Behind a digit of the fraction. -/
theorem exists_of_fraction (complete : last.complete = true)
    (h : fraction.through? text = some last) :
    ∃ digits exponent, text = digits ++ exponent ∧ (∀ c ∈ digits, c.isDigit = true) ∧
      IsExponent exponent := by
  induction text with
  | nil => exact ⟨[], [], rfl, List.forall_mem_nil _, .absent⟩
  | cons c text ih =>
    obtain ⟨next, taken, ran⟩ := next_of_through? h
    simp only [next?] at taken
    split at taken
    · next digit =>
      obtain rfl := Option.some.inj taken
      obtain ⟨digits, exponent, rfl, all, scale⟩ := ih ran
      exact ⟨c :: digits, exponent, rfl, List.forall_mem_cons.mpr ⟨digit, all⟩, scale⟩
    · simp only [Option.ite_none_right_eq_some] at taken
      obtain ⟨marks, same⟩ := taken
      obtain rfl := Option.some.inj same
      have scale := isExponent_of_exponentMark marks complete ran
      exact ⟨[], c :: text, rfl, List.forall_mem_nil _, scale⟩

theorem exists_of_point (complete : last.complete = true) (h : point.through? text = some last) :
    ∃ digits exponent, text = digits ++ exponent ∧ IsDigits digits ∧ IsExponent exponent := by
  cases text with
  | nil =>
    obtain rfl := Option.some.inj h
    cases complete
  | cons c text =>
    obtain ⟨next, taken, ran⟩ := next_of_through? h
    simp only [next?, Option.ite_none_right_eq_some] at taken
    obtain ⟨digit, same⟩ := taken
    obtain rfl := Option.some.inj same
    obtain ⟨digits, exponent, rfl, all, scale⟩ := exists_of_fraction complete ran
    exact ⟨c :: digits, exponent, rfl,
      ⟨List.cons_ne_nil c digits, List.forall_mem_cons.mpr ⟨digit, all⟩⟩, scale⟩

/-- Behind the whole digits, where no digit follows. -/
theorem exists_of_tail {c : Char} {next : NumberStage} (complete : last.complete = true)
    (taken : (if c = '.' then some point
      else if c = 'e' ∨ c = 'E' then some exponentMark else none) = some next)
    (ran : next.through? text = some last) :
    ∃ fraction exponent, c :: text = fraction ++ exponent ∧ IsFraction fraction ∧
      IsExponent exponent := by
  split at taken
  · next dot =>
    obtain rfl := Option.some.inj taken
    obtain ⟨digits, exponent, rfl, isDigits, scale⟩ := exists_of_point complete ran
    exact ⟨'.' :: digits, exponent, by rw [dot]; rfl, .present isDigits, scale⟩
  · simp only [Option.ite_none_right_eq_some] at taken
    obtain ⟨marks, same⟩ := taken
    obtain rfl := Option.some.inj same
    exact ⟨[], c :: text, rfl, .absent, isExponent_of_exponentMark marks complete ran⟩

theorem exists_of_zero (complete : last.complete = true) (h : zero.through? text = some last) :
    ∃ fraction exponent, text = fraction ++ exponent ∧ IsFraction fraction ∧
      IsExponent exponent := by
  cases text with
  | nil => exact ⟨[], [], rfl, .absent, .absent⟩
  | cons c text =>
    obtain ⟨next, taken, ran⟩ := next_of_through? h
    exact exists_of_tail complete taken ran

theorem exists_of_whole (complete : last.complete = true) (h : whole.through? text = some last) :
    ∃ digits fraction exponent, text = digits ++ (fraction ++ exponent) ∧
      (∀ c ∈ digits, c.isDigit = true) ∧ IsFraction fraction ∧ IsExponent exponent := by
  induction text with
  | nil => exact ⟨[], [], [], rfl, List.forall_mem_nil _, .absent, .absent⟩
  | cons c text ih =>
    obtain ⟨next, taken, ran⟩ := next_of_through? h
    simp only [next?] at taken
    split at taken
    · next digit =>
      obtain rfl := Option.some.inj taken
      obtain ⟨digits, fraction, exponent, rfl, all, places, scale⟩ := ih ran
      exact ⟨c :: digits, fraction, exponent, rfl, List.forall_mem_cons.mpr ⟨digit, all⟩, places,
        scale⟩
    · obtain ⟨fraction, exponent, shape, places, scale⟩ := exists_of_tail complete taken ran
      exact ⟨[], fraction, exponent, shape, List.forall_mem_nil _, places, scale⟩

/-- What is taken behind a sign, or from the start, is a number with that sign. -/
theorem isNumber_of_through? {sign : List Char} (signs : sign = [] ∨ sign = ['-'])
    (complete : last.complete = true) (h : minus.through? text = some last) :
    IsNumber (sign ++ text) := by
  cases text with
  | nil =>
    obtain rfl := Option.some.inj h
    cases complete
  | cons c text =>
    obtain ⟨next, taken, ran⟩ := next_of_through? h
    simp only [next?] at taken
    split at taken
    · next padding =>
      obtain rfl := Option.some.inj taken
      obtain ⟨fraction, exponent, rfl, places, scale⟩ := exists_of_zero complete ran
      subst padding
      show IsNumber (sign ++ (['0'] ++ (fraction ++ exponent)))
      exact .parts signs isDigits_zero (.inl rfl) places scale
    · next noPadding =>
      simp only [Option.ite_none_right_eq_some] at taken
      obtain ⟨digit, same⟩ := taken
      obtain rfl := Option.some.inj same
      obtain ⟨digits, fraction, exponent, rfl, all, places, scale⟩ := exists_of_whole complete ran
      have isDigits : IsDigits (c :: digits) :=
        ⟨List.cons_ne_nil c digits, List.forall_mem_cons.mpr ⟨digit, all⟩⟩
      have unpadded : HasNoPadding (c :: digits) :=
        .inr fun zero => noPadding (Option.some.inj zero)
      show IsNumber (sign ++ (c :: digits ++ (fraction ++ exponent)))
      exact .parts signs isDigits unpadded places scale

end NumberStage

/-! ## What is cut into tokens -/

namespace Lexer

/-- The tokens from a state on, bad sequences and all. -/
def tokensOn (s : State) (line : List (Option Char)) : Option (List Token) :=
  (run s line).bind finish?

theorem exists_of_tokensOn_cons {s : State} {c : Option Char} {line : List (Option Char)}
    {tokens : List Token} (h : tokensOn s (c :: line) = some tokens) :
    ∃ next, step s c = some next ∧ tokensOn next line = some tokens := by
  rw [tokensOn, run] at h
  split at h
  · next next taken => exact ⟨next, taken, h⟩
  · cases h

/-! ### Numbers and names -/

theorem number_of_tokensOn {done tokens : List Token} {stage : NumberStage} {text : List Char}
    {line : List (Option Char)} (h : tokensOn ⟨done, .number stage text⟩ line = some tokens) :
    ∃ digits rest last, line = digits.map some ++ rest ∧ stage.through? digits = some last ∧
      last.complete = true ∧
      tokensOn ⟨numberToken (digits.reverse ++ text) :: done, .between⟩ rest = some tokens := by
  induction line generalizing stage text with
  | nil =>
    have ended : finish? ⟨done, .number stage text⟩ = some tokens := h
    simp only [finish?] at ended
    split at ended
    · next complete => exact ⟨[], [], stage, rfl, rfl, complete, ended⟩
    · cases ended
  | cons c line ih =>
    obtain ⟨next, taken, goesOn⟩ := exists_of_tokensOn_cons h
    cases c with
    | none => cases taken
    | some c =>
      simp only [step] at taken
      split at taken
      · next later goes =>
        obtain rfl := Option.some.inj taken
        obtain ⟨digits, rest, last, rfl, ran, complete, more⟩ := ih goesOn
        refine ⟨c :: digits, rest, last, rfl, ?_, complete, ?_⟩
        · rw [NumberStage.through?, goes]
          exact ran
        · rwa [List.reverse_cons, List.append_assoc]
      · split at taken
        · next complete =>
          refine ⟨[], some c :: line, stage, rfl, rfl, complete, ?_⟩
          have begun : step ⟨numberToken text :: done, .between⟩ (some c) = some next := taken
          rw [List.reverse_nil, List.nil_append, tokensOn, run, begun]
          exact goesOn
        · cases taken

theorem name_of_tokensOn {done tokens : List Token} {token : Token} {left : List Char}
    {line : List (Option Char)} (h : tokensOn ⟨done, .name left token⟩ line = some tokens) :
    ∃ rest, line = left.map some ++ rest ∧
      tokensOn ⟨token :: done, .between⟩ rest = some tokens := by
  induction left generalizing line with
  | nil =>
    cases line with
    | nil => cases h
    | cons c line =>
      obtain ⟨next, taken, _⟩ := exists_of_tokensOn_cons h
      cases c <;> cases taken
  | cons expected left ih =>
    cases line with
    | nil => cases h
    | cons c line =>
      obtain ⟨next, taken, goesOn⟩ := exists_of_tokensOn_cons h
      cases c with
      | none => cases taken
      | some c =>
        cases left with
        | nil =>
          simp only [step, Option.ite_none_right_eq_some, Option.some.injEq] at taken
          obtain ⟨rfl, rfl⟩ := taken
          exact ⟨line, rfl, goesOn⟩
        | cons second left =>
          simp only [step, Option.ite_none_right_eq_some, Option.some.injEq] at taken
          obtain ⟨rfl, rfl⟩ := taken
          obtain ⟨rest, rfl, more⟩ := ih goesOn
          exact ⟨rest, rfl, more⟩

/-! ### Strings -/

theorem code_of_tokensOn {done tokens : List Token} {s : StringSoFar} {left value : Nat}
    {line : List (Option Char)} (h : tokensOn ⟨done, .code s (left + 1) value⟩ line = some tokens) :
    ∃ digits result rest, digits.length = left + 1 ∧ hexNumber? value digits = some result ∧
      line = digits.map some ++ rest ∧
      tokensOn ⟨done, .string (s.unit result)⟩ rest = some tokens := by
  induction left generalizing line value with
  | zero =>
    cases line with
    | nil => cases h
    | cons c line =>
      obtain ⟨next, taken, goesOn⟩ := exists_of_tokensOn_cons h
      cases c with
      | none => cases taken
      | some c =>
        obtain ⟨digit, hex, rfl⟩ := Option.map_eq_some_iff.mp taken
        exact ⟨[c], _, line, rfl, by rw [hexNumber?, hex]; rfl, rfl, goesOn⟩
  | succ left ih =>
    cases line with
    | nil => cases h
    | cons c line =>
      obtain ⟨next, taken, goesOn⟩ := exists_of_tokensOn_cons h
      cases c with
      | none => cases taken
      | some c =>
        obtain ⟨digit, hex, rfl⟩ := Option.map_eq_some_iff.mp taken
        obtain ⟨digits, result, rest, length, means, rfl, more⟩ := ih goesOn
        refine ⟨c :: digits, result, rest, congrArg (· + 1) length, ?_, rfl, more⟩
        rw [hexNumber?, hex]
        exact means

end Lexer

/-- A piece of a string, or a bad sequence in it. -/
abbrev Fragment := Option Piece

namespace Fragment

def line : Fragment → List (Option Char)
  | some p => p.text.map some
  | none => [none]

/-- A string that is being read, with the fragment behind it. -/
def read (s : StringSoFar) : Fragment → StringSoFar
  | some p => p.read s
  | none => s.undecodable

theorem length_line_pos (f : Fragment) : 0 < f.line.length := by
  cases f with
  | none => exact Nat.one_pos
  | some p => cases p <;> exact Nat.succ_pos _

/-- Nothing makes up for what could not be decoded. -/
theorem sound_of_read {s : StringSoFar} {f : Fragment} (h : (f.read s).sound = true) :
    s.sound = true ∧ ∃ p, f = some p := by
  cases f with
  | none => exact absurd h Bool.false_ne_true
  | some p =>
    refine ⟨?_, p, rfl⟩
    cases p with
    | plain c printable noQuote noEscape => exact (Bool.and_eq_true_iff.mp h).1
    | short letter c means => exact (Bool.and_eq_true_iff.mp h).1
    | unit digits value four means =>
      simp only [read, Piece.read, StringSoFar.unit] at h
      split at h
      · split at h
        · exact h
        · exact absurd h Bool.false_ne_true
      split at h
      · exact (Bool.and_eq_true_iff.mp h).1
      · exact (Bool.and_eq_true_iff.mp h).1

/-- Fragments that can be decoded are pieces. -/
theorem exists_pieces_of_sound {fragments : List Fragment} {s : StringSoFar}
    (h : (fragments.foldl read s).sound = true) :
    s.sound = true ∧ ∃ pieces : List Piece, fragments = pieces.map some := by
  induction fragments generalizing s with
  | nil => exact ⟨h, [], rfl⟩
  | cons f fragments ih =>
    obtain ⟨later, pieces, rfl⟩ := ih h
    obtain ⟨sound, p, rfl⟩ := sound_of_read later
    exact ⟨sound, p :: pieces, rfl⟩

theorem exists_pieces_of_finish {fragments : List Fragment}
    (h : (fragments.foldl read .start).finish ≠ none) :
    ∃ pieces : List Piece, fragments.flatMap line = (pieces.flatMap Piece.text).map some ∧
      (fragments.foldl read .start).finish = decoded? pieces := by
  have sound : (fragments.foldl read .start).sound = true := by
    by_contra unsound
    simp [StringSoFar.finish, unsound] at h
  obtain ⟨_, pieces, rfl⟩ := exists_pieces_of_sound sound
  refine ⟨pieces, ?_, ?_⟩
  · rw [List.flatMap_map, List.map_flatMap]
    rfl
  · rw [List.foldl_map]
    rfl

end Fragment

namespace Lexer

/-- Behind a backslash there is the rest of a piece. -/
theorem escape_of_tokensOn {done tokens : List Token} {s : StringSoFar}
    {line : List (Option Char)} (h : tokensOn ⟨done, .escape s⟩ line = some tokens) :
    ∃ (p : Piece) (body : List Char) (rest : List (Option Char)), p.text = '\\' :: body ∧
      line = body.map some ++ rest ∧ tokensOn ⟨done, .string (p.read s)⟩ rest = some tokens := by
  cases line with
  | nil => cases h
  | cons c line =>
    obtain ⟨next, taken, goesOn⟩ := exists_of_tokensOn_cons h
    cases c with
    | none => cases taken
    | some letter =>
      simp only [step] at taken
      split at taken
      · next unit =>
        obtain rfl := Option.some.inj taken
        obtain ⟨digits, value, rest, four, means, rfl, more⟩ := code_of_tokensOn goesOn
        exact ⟨.unit digits value four means, 'u' :: digits, rest, rfl, by rw [unit]; rfl, more⟩
      · obtain ⟨c, means, rfl⟩ := Option.map_eq_some_iff.mp taken
        exact ⟨.short letter c means, [letter], line, rfl, rfl, goesOn⟩

/-- An open string ends with its quote or goes on with a fragment. -/
theorem fragment_of_tokensOn {done tokens : List Token} {s : StringSoFar}
    {line : List (Option Char)} (h : tokensOn ⟨done, .string s⟩ line = some tokens) :
    (∃ rest, line = some '"' :: rest ∧
      tokensOn ⟨.string s.finish :: done, .between⟩ rest = some tokens) ∨
    ∃ (f : Fragment) (rest : List (Option Char)), line = f.line ++ rest ∧
      tokensOn ⟨done, .string (f.read s)⟩ rest = some tokens := by
  cases line with
  | nil => cases h
  | cons c line =>
    obtain ⟨next, taken, goesOn⟩ := exists_of_tokensOn_cons h
    cases c with
    | none =>
      obtain rfl := Option.some.inj taken
      exact .inr ⟨none, line, rfl, goesOn⟩
    | some c =>
      simp only [step] at taken
      split at taken
      · next quote =>
        obtain rfl := Option.some.inj taken
        exact .inl ⟨line, by rw [quote], goesOn⟩
      split at taken
      · next escape =>
        obtain rfl := Option.some.inj taken
        obtain ⟨p, body, rest, text, rfl, more⟩ := escape_of_tokensOn goesOn
        refine .inr ⟨some p, rest, ?_, more⟩
        rw [Fragment.line, text, escape]
        rfl
      split at taken
      · cases taken
      · next noQuote noEscape printable =>
        obtain rfl := Option.some.inj taken
        exact .inr ⟨some (.plain c printable noQuote noEscape), line, rfl, goesOn⟩

theorem string_of_tokensOn {done tokens : List Token} {s : StringSoFar}
    {line : List (Option Char)} (h : tokensOn ⟨done, .string s⟩ line = some tokens) :
    ∃ (fragments : List Fragment) (rest : List (Option Char)),
      line = fragments.flatMap Fragment.line ++ some '"' :: rest ∧
      tokensOn ⟨.string (fragments.foldl Fragment.read s).finish :: done, .between⟩ rest =
        some tokens := by
  rcases fragment_of_tokensOn h with ⟨rest, shape, more⟩ | ⟨f, rest, shape, goesOn⟩
  · exact ⟨[], rest, shape, more⟩
  · have shorter : rest.length < line.length := by
      rw [shape, List.length_append]
      exact Nat.lt_add_of_pos_left f.length_line_pos
    obtain ⟨fragments, rest, others, more⟩ := string_of_tokensOn goesOn
    refine ⟨f :: fragments, rest, ?_, more⟩
    rw [shape, others, List.flatMap_cons, List.append_assoc]
termination_by line.length

/-! ### Whole lines -/

/-- The token of a number is made of its characters in the order they were read. -/
theorem lexeme_numberToken {c : Char} {digits : List Char} (proper : IsNumber (c :: digits)) :
    Lexeme (c :: digits) (numberToken (digits.reverse ++ [c])) := by
  rw [numberToken, List.reverse_append, List.reverse_reverse]
  exact .number proper

/-- What a character between tokens begins. -/
inductive Begins (done : List Token) (c : Char) : State → Prop
  | blank (isBlank : IsBlank c) : Begins done c ⟨done, .between⟩
  | mark {token : Token} (lexeme : Lexeme [c] token) : Begins done c ⟨token :: done, .between⟩
  | quote (isQuote : c = '"') : Begins done c ⟨done, .string .start⟩
  | name {left : List Char} {token : Token} (lexeme : Lexeme (c :: left) token) :
      Begins done c ⟨done, .name left token⟩
  | minus (isMinus : c = '-') : Begins done c ⟨done, .number .minus [c]⟩
  | digit {stage : NumberStage} (begins : NumberStage.minus.next? c = some stage) :
      Begins done c ⟨done, .number stage [c]⟩

/-- Either the first of two choices was taken or the second. -/
theorem taken_of_ite {α : Type} {p : Prop} [Decidable p] {a b : α} {other : Option α}
    (h : (if p then some a else other) = some b) : p ∧ a = b ∨ ¬ p ∧ other = some b := by
  split at h
  · next yes => exact .inl ⟨yes, Option.some.inj h⟩
  · next no => exact .inr ⟨no, h⟩

theorem begins_of_between {done : List Token} {c : Char} {s : State}
    (h : between done c = some s) : Begins done c s := by
  unfold between at h
  rcases taken_of_ite h with ⟨isBlank, rfl⟩ | ⟨_, h⟩
  · exact .blank isBlank
  rcases taken_of_ite h with ⟨rfl, rfl⟩ | ⟨_, h⟩
  · exact .mark .openArray
  rcases taken_of_ite h with ⟨rfl, rfl⟩ | ⟨_, h⟩
  · exact .mark .closeArray
  rcases taken_of_ite h with ⟨rfl, rfl⟩ | ⟨_, h⟩
  · exact .mark .openObject
  rcases taken_of_ite h with ⟨rfl, rfl⟩ | ⟨_, h⟩
  · exact .mark .closeObject
  rcases taken_of_ite h with ⟨rfl, rfl⟩ | ⟨_, h⟩
  · exact .mark .comma
  rcases taken_of_ite h with ⟨rfl, rfl⟩ | ⟨_, h⟩
  · exact .mark .colon
  rcases taken_of_ite h with ⟨isQuote, rfl⟩ | ⟨_, h⟩
  · exact .quote isQuote
  rcases taken_of_ite h with ⟨rfl, rfl⟩ | ⟨_, h⟩
  · exact .name .yes
  rcases taken_of_ite h with ⟨rfl, rfl⟩ | ⟨_, h⟩
  · exact .name .no
  rcases taken_of_ite h with ⟨rfl, rfl⟩ | ⟨_, h⟩
  · exact .name .null
  rcases taken_of_ite h with ⟨isMinus, rfl⟩ | ⟨_, h⟩
  · exact .minus isMinus
  rcases taken_of_ite h with ⟨zero, rfl⟩ | ⟨noZero, h⟩
  · exact .digit (if_pos zero)
  rcases taken_of_ite h with ⟨digit, rfl⟩ | ⟨_, h⟩
  · exact .digit (by rw [NumberStage.next?, if_neg noZero, if_pos digit])
  · cases h

/-- Between tokens a line goes on with a blank or with a token, and the text of the token is known
unless it is a string that cannot be decoded. -/
theorem front_of_tokensOn {done tokens : List Token} {c : Option Char} {line : List (Option Char)}
    (h : tokensOn ⟨done, .between⟩ (c :: line) = some tokens) :
    (∃ blank, c = some blank ∧ IsBlank blank ∧ tokensOn ⟨done, .between⟩ line = some tokens) ∨
    ∃ token rest, rest.length ≤ line.length ∧
      tokensOn ⟨token :: done, .between⟩ rest = some tokens ∧
      (token ≠ .string none →
        ∃ piece, c :: line = piece.map some ++ rest ∧ Lexeme piece token) := by
  obtain ⟨next, taken, goesOn⟩ := exists_of_tokensOn_cons h
  cases c with
  | none => cases taken
  | some c =>
    cases begins_of_between taken with
    | blank isBlank => exact .inl ⟨c, rfl, isBlank, goesOn⟩
    | @mark token lexeme =>
      exact .inr ⟨token, line, Nat.le_refl _, goesOn, fun _ => ⟨[c], rfl, lexeme⟩⟩
    | quote isQuote =>
      obtain ⟨fragments, rest, rfl, more⟩ := string_of_tokensOn goesOn
      refine .inr ⟨_, rest, ?_, more, fun decoded => ?_⟩
      · have tail : rest <:+ some '"' :: rest := List.suffix_cons _ rest
        exact (tail.trans (List.suffix_append _ _)).length_le
      · have known : (fragments.foldl Fragment.read .start).finish ≠ none :=
          fun undecoded => decoded (congrArg Token.string undecoded)
        obtain ⟨pieces, text, meaning⟩ := Fragment.exists_pieces_of_finish known
        refine ⟨'"' :: (pieces.flatMap Piece.text ++ ['"']), ?_, meaning ▸ .string pieces⟩
        rw [text, isQuote]
        simp
    | @name left token lexeme =>
      obtain ⟨rest, rfl, more⟩ := name_of_tokensOn goesOn
      have shorter := (List.suffix_append (left.map some) rest).length_le
      exact .inr ⟨token, rest, shorter, more, fun _ => ⟨c :: left, rfl, lexeme⟩⟩
    | minus isMinus =>
      obtain ⟨digits, rest, last, rfl, ran, complete, more⟩ := number_of_tokensOn goesOn
      have shorter := (List.suffix_append (digits.map some) rest).length_le
      have proper : IsNumber ([c] ++ digits) :=
        NumberStage.isNumber_of_through? (.inr (congrArg ([·]) isMinus)) complete ran
      exact .inr ⟨_, rest, shorter, more, fun _ => ⟨c :: digits, rfl, lexeme_numberToken proper⟩⟩
    | @digit stage begins =>
      obtain ⟨digits, rest, last, rfl, ran, complete, more⟩ := number_of_tokensOn goesOn
      have whole : NumberStage.minus.through? (c :: digits) = some last := by
        rw [NumberStage.through?, begins]
        exact ran
      have shorter := (List.suffix_append (digits.map some) rest).length_le
      have proper := NumberStage.isNumber_of_through? (.inl rfl) complete whole
      exact .inr ⟨_, rest, shorter, more, fun _ => ⟨c :: digits, rfl, lexeme_numberToken proper⟩⟩

theorem spells_of_tokensOn {done tokens : List Token} {line : List (Option Char)}
    (h : tokensOn ⟨done, .between⟩ line = some tokens) (decoded : .string none ∉ tokens) :
    ∃ text more, line = text.map some ∧ tokens = done.reverse ++ more ∧ Spells text more := by
  induction length : line.length using Nat.strongRecOn generalizing done line with
  | ind n ih =>
    subst length
    cases line with
    | nil =>
      obtain rfl := Option.some.inj h
      exact ⟨[], [], rfl, (List.append_nil _).symm, .nil⟩
    | cons c line =>
      rcases front_of_tokensOn h with ⟨blank, rfl, isBlank, goesOn⟩ | ⟨token, rest, shorter, goesOn,
        written⟩
      · obtain ⟨text, more, rfl, rfl, spells⟩ := ih _ (Nat.lt_succ_self _) goesOn rfl
        exact ⟨blank :: text, more, rfl, rfl, .blank isBlank spells⟩
      · obtain ⟨text, more, rfl, rfl, spells⟩ := ih _ (Nat.lt_succ_of_le shorter) goesOn rfl
        have known : token ≠ .string none := by
          rintro rfl
          exact decoded (by simp)
        obtain ⟨piece, shape, lexeme⟩ := written known
        refine ⟨piece ++ text, token :: more, ?_, ?_, .token lexeme spells⟩
        · rw [shape, List.map_append]
        · rw [List.reverse_cons, List.append_assoc]
          rfl

end Lexer

/-! ## Lines -/

/-- A line whose tree has a text for every string is a text of that tree. -/
theorem isText_of_ofBytes? {line : Bytes} {tree : Tree} (read : Tree.ofBytes? line = some tree)
    (decoded : .string none ∉ tree.tokens) : IsText line tree := by
  obtain ⟨tokens, cut, built⟩ := Option.bind_eq_some_iff.mp read
  obtain rfl := tokens_of_ofTokens? built
  obtain ⟨text, more, characters, shape, spells⟩ := Lexer.spells_of_tokensOn cut decoded
  have all : tree.tokens = more := shape
  refine ⟨text, decode?_eq_some_iff.mpr characters, ?_⟩
  rw [all]
  exact spells

end DetectionLink.Json
