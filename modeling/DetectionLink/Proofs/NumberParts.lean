import DetectionLink.Proofs.Lexing
import Mathlib.Data.List.TakeDrop
import Mathlib.Tactic.IntervalCases

/-!
# Numbers in their parts

A number is written as a sign, whole digits, perhaps a fraction and perhaps an exponent. Any such
text with proper digits is one token, and the parts are found again in it.

* `IsNumber`: numbers as they may be written;
* `NumberParts`, `NumberParts.Proper`: the parts of a number as it is printed;
* `tokensFrom_isNumber`, `lexes_parts`: the text is one token;
* `ofChars_text`: the parts of the token.
-/

namespace DetectionLink.Json

/-! ## Digits -/

/-- At least one digit, and nothing else. -/
def IsDigits (digits : List Char) : Prop := digits ≠ [] ∧ ∀ c ∈ digits, c.isDigit = true

theorem isDigits_decimalDigits (n : Nat) : IsDigits (decimalDigits n) :=
  ⟨Nat.toDigits_ne_nil, fun _ mem => Nat.isDigit_of_mem_toDigits (by decide) (by decide) mem⟩

theorem IsDigits.append {a b : List Char} (h : IsDigits a) (k : ∀ c ∈ b, c.isDigit = true) :
    IsDigits (a ++ b) :=
  ⟨List.append_ne_nil_of_left_ne_nil h.1 b, List.forall_mem_append.mpr ⟨h.2, k⟩⟩

/-- The whole digits of a number are a lone zero or do not begin with one. -/
def HasNoPadding (digits : List Char) : Prop := digits = ['0'] ∨ digits.head? ≠ some '0'

theorem digitChar_ne_zero : ∀ d < 10, d ≠ 0 → Nat.digitChar d ≠ '0' := by decide

theorem head?_decimalDigits {n : Nat} (positive : 0 < n) : (decimalDigits n).head? ≠ some '0' := by
  induction n using Nat.strongRecOn with
  | ind n ih =>
    rw [decimalDigits, Nat.toDigits_eq_if (by decide)]
    split
    · next small =>
      simpa using digitChar_ne_zero n small (Nat.pos_iff_ne_zero.mp positive)
    · next large =>
      have front := ih (n / 10) (by omega) (by omega)
      rwa [List.head?_append_of_ne_nil _ Nat.toDigits_ne_nil]

theorem hasNoPadding_decimalDigits (n : Nat) : HasNoPadding (decimalDigits n) := by
  rcases Nat.eq_zero_or_pos n with rfl | positive
  · exact .inl rfl
  · exact .inr (head?_decimalDigits positive)

theorem ofDigits_decimalDigits (n : Nat) : Decimal.ofDigits (decimalDigits n) = n := by
  have back : Nat.ofDigitChars 10 (Nat.toDigits 10 n) 0 = n := Nat.ofDigitChars_ten_toDigits
  rw [Decimal.ofDigits, ofDigitsIn_eq_foldl, List.foldl_map]
  exact back

/-- A run of digits ends where no digit follows. -/
theorem span_digits {digits rest : List Char} (all : ∀ c ∈ digits, c.isDigit = true)
    (ends : ∀ c ∈ rest.head?, c.isDigit = false) :
    (digits ++ rest).span Char.isDigit = (digits, rest) := by
  rw [List.span_eq_takeWhile_dropWhile, List.takeWhile_append_of_pos all,
    List.dropWhile_append_of_pos all]
  cases rest with
  | nil => simp
  | cons c rest =>
    have noDigit := ends c rfl
    rw [List.takeWhile_cons_of_neg (by simp [noDigit]),
      List.dropWhile_cons_of_neg (by simp [noDigit]), List.append_nil]

/-! ## Texts of numbers -/

/-- The digits behind the point, if there is one. -/
inductive IsFraction : List Char → Prop
  | absent : IsFraction []
  | present {digits : List Char} (proper : IsDigits digits) : IsFraction ('.' :: digits)

/-- The exponent, if there is one: a mark of either case, perhaps a sign, and digits. -/
inductive IsExponent : List Char → Prop
  | absent : IsExponent []
  | present {mark : Char} {sign digits : List Char} (marks : mark = 'e' ∨ mark = 'E')
      (signs : sign = [] ∨ sign = ['+'] ∨ sign = ['-']) (proper : IsDigits digits) :
      IsExponent (mark :: (sign ++ digits))

/-- A number as it may be written: perhaps a minus, digits without padding, and then perhaps a
fraction and an exponent. -/
inductive IsNumber : List Char → Prop
  | parts {sign whole fraction exponent : List Char} (signs : sign = [] ∨ sign = ['-'])
      (proper : IsDigits whole) (unpadded : HasNoPadding whole) (places : IsFraction fraction)
      (scale : IsExponent exponent) : IsNumber (sign ++ (whole ++ (fraction ++ exponent)))

/-! ## Parts -/

/-- A number in its written parts; an exponent has a sign and digits. -/
structure NumberParts where
  negative : Bool
  whole : List Char
  fraction : Option (List Char)
  exponent : Option (Bool × List Char)

namespace NumberParts

def signText (negative : Bool) : List Char := if negative then ['-'] else []

def fractionText : Option (List Char) → List Char
  | none => []
  | some digits => '.' :: digits

def exponentText : Option (Bool × List Char) → List Char
  | none => []
  | some (negative, digits) => 'e' :: (if negative then '-' else '+') :: digits

def text (p : NumberParts) : List Char :=
  signText p.negative ++ (p.whole ++ (fractionText p.fraction ++ exponentText p.exponent))

def exponentValue (e : Bool × List Char) : Int :=
  if e.1 then -(Decimal.ofDigits e.2 : Int) else (Decimal.ofDigits e.2 : Int)

/-- What the grammar asks of the parts. -/
structure Proper (p : NumberParts) : Prop where
  whole : IsDigits p.whole
  unpadded : HasNoPadding p.whole
  fraction : ∀ digits ∈ p.fraction, IsDigits digits
  exponent : ∀ e ∈ p.exponent, IsDigits e.2

end NumberParts

/-! ## One token -/

namespace NumberStage

/-- The stage after several characters. -/
def through? : NumberStage → List Char → Option NumberStage
  | stage, [] => some stage
  | stage, c :: rest => (stage.next? c).bind fun stage => stage.through? rest

theorem through?_append {stage later : NumberStage} {a : List Char} (b : List Char)
    (h : stage.through? a = some later) : stage.through? (a ++ b) = later.through? b := by
  induction a generalizing stage with
  | nil =>
    obtain rfl := Option.some.inj h
    rfl
  | cons c rest ih =>
    obtain ⟨next, step, run⟩ := Option.bind_eq_some_iff.mp h
    rw [List.cons_append, through?, step]
    exact ih run

/-- Digits keep a stage that takes digits. -/
theorem through?_digits {stage : NumberStage} {digits : List Char}
    (takes : ∀ c, c.isDigit = true → stage.next? c = some stage)
    (all : ∀ c ∈ digits, c.isDigit = true) : stage.through? digits = some stage := by
  induction digits with
  | nil => rfl
  | cons c rest ih =>
    obtain ⟨first, others⟩ := List.forall_mem_cons.mp all
    rw [through?, takes c first]
    exact ih others

/-- Digits behind a mark that asks for at least one. -/
theorem through?_isDigits {stage later : NumberStage} {digits : List Char}
    (begins : ∀ c, c.isDigit = true → stage.next? c = some later)
    (takes : ∀ c, c.isDigit = true → later.next? c = some later) (h : IsDigits digits) :
    stage.through? digits = some later := by
  obtain ⟨nonempty, all⟩ := h
  cases digits with
  | nil => exact absurd rfl nonempty
  | cons c rest =>
    obtain ⟨first, others⟩ := List.forall_mem_cons.mp all
    rw [through?, begins c first]
    exact through?_digits takes others

theorem through?_whole {digits : List Char} (h : IsDigits digits) (unpadded : HasNoPadding digits) :
    minus.through? digits = some zero ∨ minus.through? digits = some whole := by
  rcases unpadded with rfl | first
  · exact .inl rfl
  · cases digits with
    | nil => exact absurd rfl h.1
    | cons c rest =>
      obtain ⟨digit, others⟩ := List.forall_mem_cons.mp h.2
      have noZero : c ≠ '0' := fun same => first (congrArg some same)
      have begins : minus.next? c = some whole := by rw [next?, if_neg noZero, if_pos digit]
      refine .inr ?_
      rw [through?, begins]
      exact through?_digits (fun c digit => if_pos digit) others

theorem through?_exponent {stage : NumberStage} {exponent : List Char}
    (complete : stage.complete = true)
    (begins : ∀ mark, mark = 'e' ∨ mark = 'E' → stage.next? mark = some exponentMark)
    (h : IsExponent exponent) :
    ∃ last, stage.through? exponent = some last ∧ last.complete = true := by
  cases h with
  | absent => exact ⟨stage, rfl, complete⟩
  | @present mark sign digits marks signs proper =>
    have unsigned : exponentMark.through? digits = some NumberStage.exponent :=
      through?_isDigits (fun c digit => if_pos digit) (fun c digit => if_pos digit) proper
    have signed : exponentSign.through? digits = some NumberStage.exponent :=
      through?_isDigits (fun c digit => if_pos digit) (fun c digit => if_pos digit) proper
    refine ⟨.exponent, ?_, rfl⟩
    rw [through?, begins mark marks, Option.bind_some]
    rcases signs with rfl | rfl | rfl
    · exact unsigned
    · exact signed
    · exact signed

theorem through?_fraction {stage : NumberStage} {fraction exponent : List Char}
    (complete : stage.complete = true) (dot : stage.next? '.' = some point)
    (begins : ∀ mark, mark = 'e' ∨ mark = 'E' → stage.next? mark = some exponentMark)
    (places : IsFraction fraction) (scale : IsExponent exponent) :
    ∃ last, stage.through? (fraction ++ exponent) = some last ∧ last.complete = true := by
  cases places with
  | absent => exact through?_exponent complete begins scale
  | present proper =>
    have digitsRun : point.through? _ = some NumberStage.fraction :=
      through?_isDigits (fun c digit => if_pos digit) (fun c digit => if_pos digit) proper
    rw [List.cons_append, through?, dot, Option.bind_some, through?_append _ digitsRun]
    refine through?_exponent rfl ?_ scale
    rintro mark (rfl | rfl) <;> rfl

/-- A number is taken from its sign to a stage where it may end. -/
theorem through?_unsigned {whole fraction exponent : List Char} (proper : IsDigits whole)
    (unpadded : HasNoPadding whole) (places : IsFraction fraction) (scale : IsExponent exponent) :
    ∃ last, minus.through? (whole ++ (fraction ++ exponent)) = some last ∧
      last.complete = true := by
  rcases through?_whole proper unpadded with run | run
  · rw [through?_append _ run]
    exact through?_fraction rfl rfl (by rintro mark (rfl | rfl) <;> rfl) places scale
  · rw [through?_append _ run]
    exact through?_fraction rfl rfl (by rintro mark (rfl | rfl) <;> rfl) places scale

end NumberStage

namespace Lexer

theorem between_minus (done : List Token) : between done '-' = some ⟨done, .number .minus ['-']⟩ :=
  rfl

/-- Without a sign a number begins as it goes on behind one. -/
theorem between_digit {c : Char} {stage : NumberStage} (done : List Token)
    (begins : NumberStage.minus.next? c = some stage) :
    between done c = some ⟨done, .number stage [c]⟩ := by
  have digit : c.isDigit = true := by
    by_contra none
    have noZero : c ≠ '0' := fun same => none (same ▸ rfl)
    rw [NumberStage.next?, if_neg noZero, if_neg none] at begins
    exact absurd begins nofun
  rw [Char.isDigit, Bool.and_eq_true, decide_eq_true_eq, decide_eq_true_eq] at digit
  have low : 48 ≤ c.toNat := UInt32.le_iff_toNat_le.mp digit.1
  have high : c.toNat ≤ 57 := UInt32.le_iff_toNat_le.mp digit.2
  rw [← Char.ofNat_toNat c] at begins ⊢
  generalize c.toNat = n at low high begins ⊢
  interval_cases n <;> (obtain rfl := Option.some.inj begins; rfl)

theorem tokensFrom_number (done : List Token) {stage last : NumberStage} {text more : List Char}
    (rest : List Char) (run : stage.through? more = some last) :
    tokensFrom ⟨done, .number stage text⟩ (more ++ rest) =
      tokensFrom ⟨done, .number last (more.reverse ++ text)⟩ rest := by
  induction more generalizing stage text with
  | nil =>
    obtain rfl := Option.some.inj run
    rfl
  | cons c more ih =>
    obtain ⟨next, goesOn, run⟩ := Option.bind_eq_some_iff.mp run
    have step : step ⟨done, .number stage text⟩ (some c) =
        some ⟨done, .number next (c :: text)⟩ := by
      simp only [step, goesOn]
    rw [List.cons_append, tokensFrom_cons _ step, ih run, List.reverse_cons, List.append_assoc]
    rfl

/-- A character that is no part of any number. -/
def IsForeign (c : Char) : Prop := ∀ stage : NumberStage, stage.next? c = none

theorem Stops.foreign {rest : List Char} (stops : Stops rest) : ∀ c ∈ rest.head?, IsForeign c := by
  intro c mem stage
  rcases stops c mem with rfl | rfl | rfl <;> cases stage <;> rfl

/-- A number that may end does so in front of a character that is no part of it. -/
theorem tokensFrom_complete (done : List Token) {stage : NumberStage} {text rest : List Char}
    (complete : stage.complete = true) (foreign : ∀ c ∈ rest.head?, IsForeign c) :
    tokensFrom ⟨done, .number stage text⟩ rest =
      tokensFrom ⟨numberToken text :: done, .between⟩ rest := by
  cases rest with
  | nil => simp [tokensFrom, run, finish?, complete]
  | cons c rest =>
    have ends : stage.next? c = none := foreign c rfl stage
    rw [tokensFrom, tokensFrom, List.map_cons, run, run]
    simp only [step, ends, complete, if_true]

end Lexer

open Lexer

theorem tokensFrom_isNumber {text : List Char} (h : IsNumber text) (done : List Token)
    {rest : List Char} (foreign : ∀ c ∈ rest.head?, IsForeign c) :
    tokensFrom ⟨done, .between⟩ (text ++ rest) =
      tokensFrom ⟨.number (.ofChars text) :: done, .between⟩ rest := by
  have token : numberToken text.reverse = .number (.ofChars text) := by
    rw [numberToken, List.reverse_reverse]
  rw [← token]
  obtain ⟨signs, proper, unpadded, places, scale⟩ := h
  next sign whole fraction exponent =>
  obtain ⟨last, run, complete⟩ := NumberStage.through?_unsigned proper unpadded places scale
  generalize whole ++ (fraction ++ exponent) = body at run ⊢
  rcases signs with rfl | rfl
  · cases body with
    | nil => obtain rfl := Option.some.inj run; exact absurd complete nofun
    | cons c more =>
      obtain ⟨stage, begins, run⟩ := Option.bind_eq_some_iff.mp run
      have first : step ⟨done, .between⟩ (some c) = _ := between_digit done begins
      rw [List.nil_append, List.cons_append, tokensFrom_cons _ first,
        tokensFrom_number done rest run, tokensFrom_complete done complete foreign,
        ← List.reverse_cons]
  · have first : step ⟨done, .between⟩ (some '-') = _ := between_minus done
    rw [List.singleton_append, List.cons_append, tokensFrom_cons _ first,
      tokensFrom_number done rest run, tokensFrom_complete done complete foreign,
      ← List.reverse_cons]

theorem NumberParts.isNumber_text {p : NumberParts} (proper : p.Proper) : IsNumber p.text := by
  obtain ⟨negative, whole, fraction, exponent⟩ := p
  refine .parts ?_ proper.whole proper.unpadded ?_ ?_
  · cases negative with
    | true => exact .inr rfl
    | false => exact .inl rfl
  · cases fraction with
    | none => exact .absent
    | some digits => exact .present (proper.fraction digits rfl)
  · cases exponent with
    | none => exact .absent
    | some e =>
      obtain ⟨negative, digits⟩ := e
      have isDigits : IsDigits digits := proper.exponent _ rfl
      cases negative with
      | true => exact .present (.inl rfl) (.inr (.inr rfl)) isDigits
      | false => exact .present (.inl rfl) (.inr (.inl rfl)) isDigits

theorem lexes_parts {p : NumberParts} (proper : p.Proper) :
    Lexes p.text [.number (.ofChars p.text)] :=
  fun done _ stops => tokensFrom_isNumber (NumberParts.isNumber_text proper) done stops.foreign

/-! ## The parts of the token -/

theorem exponent?_exponentText {exponent : Option (Bool × List Char)}
    (h : ∀ e ∈ exponent, IsDigits e.2) :
    Decimal.exponent? ((NumberParts.exponentText exponent).drop 1) =
      exponent.map NumberParts.exponentValue := by
  cases exponent with
  | none => rfl
  | some e =>
    obtain ⟨negative, digits⟩ := e
    obtain ⟨nonempty, digit⟩ := h _ rfl
    have all : digits ≠ [] ∧ digits.all Char.isDigit = true :=
      ⟨nonempty, List.all_eq_true.mpr digit⟩
    cases negative <;> exact if_pos all

theorem noDigit_exponentText (exponent : Option (Bool × List Char)) :
    ∀ c ∈ (NumberParts.exponentText exponent).head?, c.isDigit = false := by
  cases exponent with
  | none => nofun
  | some e =>
    intro c mem
    obtain rfl := Option.some.inj mem
    rfl

theorem noDigit_fractionText (fraction : Option (List Char))
    (exponent : Option (Bool × List Char)) :
    ∀ c ∈ (NumberParts.fractionText fraction ++ NumberParts.exponentText exponent).head?,
      c.isDigit = false := by
  cases fraction with
  | none => exact noDigit_exponentText exponent
  | some digits =>
    intro c mem
    obtain rfl := Option.some.inj mem
    rfl

theorem head?_ne_minus {digits : List Char} (h : IsDigits digits) (rest : List Char) :
    (digits ++ rest).head? ≠ some '-' := by
  cases digits with
  | nil => exact absurd rfl h.1
  | cons c more =>
    intro minus
    obtain rfl := Option.some.inj minus
    exact absurd (h.2 _ List.mem_cons_self) (by decide)

/-- A sign in front is told by the first character. -/
theorem unsigned_text {p : NumberParts} (proper : p.Proper) :
    decide (p.text.head? = some '-') = p.negative ∧
    (if p.text.head? = some '-' then p.text.drop 1 else p.text) =
      p.whole ++ (NumberParts.fractionText p.fraction ++ NumberParts.exponentText p.exponent) := by
  have noMinus := head?_ne_minus proper.whole
    (NumberParts.fractionText p.fraction ++ NumberParts.exponentText p.exponent)
  unfold NumberParts.text
  cases p.negative with
  | true => exact ⟨rfl, rfl⟩
  | false => exact ⟨decide_eq_false noMinus, if_neg noMinus⟩

theorem ofChars_text {p : NumberParts} (proper : p.Proper) :
    NumberText.ofChars p.text =
      ⟨p.negative, p.whole, p.fraction, p.exponent.map NumberParts.exponentValue⟩ := by
  obtain ⟨sign, body⟩ := unsigned_text proper
  have whole := span_digits proper.whole.2 (noDigit_fractionText p.fraction p.exponent)
  have exponent := exponent?_exponentText proper.exponent
  have noDigit := noDigit_exponentText p.exponent
  generalize p.text = text at sign body ⊢
  simp only [NumberText.ofChars, sign, body, whole]
  cases fraction : p.fraction with
  | some digits =>
    have span := span_digits (proper.fraction _ fraction).2 noDigit
    simp only [NumberParts.fractionText, List.cons_append, span, exponent]
  | none =>
    rw [← exponent]
    cases p.exponent with
    | none => rfl
    | some e => rfl

end DetectionLink.Json
