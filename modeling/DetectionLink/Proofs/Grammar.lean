import DetectionLink.Proofs.JsonTexts

/-!
# The grammar of JSON texts

A JSON text is the tokens of one value, written one after another with blanks between them as one
likes. The machines that read a line take every such text, whatever its blanks and escapes.

* `Lexeme`, `Spells`, `IsText`: the grammar;
* `Apart`, `apart_of_run`: no token of a value runs into the number in front of it;
* `ofBytes?_of_isText`: every text of a tree is read as that tree.
-/

namespace DetectionLink.Json

/-! ## The grammar -/

/-- A character that may stand around tokens. -/
def IsBlank (c : Char) : Prop := c = ' ' ∨ c = '\t' ∨ c = '\n' ∨ c = '\r'

/-- The texts of a token. -/
inductive Lexeme : List Char → Token → Prop
  | openArray : Lexeme ['['] .openArray
  | closeArray : Lexeme [']'] .closeArray
  | openObject : Lexeme ['{'] .openObject
  | closeObject : Lexeme ['}'] .closeObject
  | comma : Lexeme [','] .comma
  | colon : Lexeme [':'] .colon
  | null : Lexeme ['n', 'u', 'l', 'l'] .null
  | yes : Lexeme ['t', 'r', 'u', 'e'] (.bool true)
  | no : Lexeme ['f', 'a', 'l', 's', 'e'] (.bool false)
  | number {text : List Char} (proper : IsNumber text) : Lexeme text (.number (.ofChars text))
  | string (pieces : List Piece) :
      Lexeme ('"' :: (pieces.flatMap Piece.text ++ ['"'])) (.string (decoded? pieces))

/-- Tokens written one after another, with blanks anywhere between them. -/
inductive Spells : List Char → List Token → Prop
  | nil : Spells [] []
  | blank {c : Char} {text : List Char} {tokens : List Token} (isBlank : IsBlank c)
      (rest : Spells text tokens) : Spells (c :: text) tokens
  | token {piece text : List Char} {token : Token} {tokens : List Token}
      (lexeme : Lexeme piece token) (rest : Spells text tokens) :
      Spells (piece ++ text) (token :: tokens)

/-- A line is a JSON text of a tree: it decodes, and the text spells the tokens of the tree. -/
def IsText (line : Bytes) (tree : Tree) : Prop :=
  ∃ text, Utf8.decode? line = some text ∧ Spells text tree.tokens

/-! ## Tokens that stand apart -/

/-- The tokens that may follow a complete value. -/
def Separates : Token → Prop
  | .comma | .closeArray | .closeObject => True
  | _ => False

/-- What follows a number separates it from the rest. -/
def Apart (tokens : List Token) : Prop :=
  tokens.IsChain fun a b => (∃ text, a = .number text) → Separates b

namespace Builder

/-- A complete value is followed by a separator, or by nothing. -/
theorem separates_of_step {tree : Tree} {stack : List Frame} {s : State} {token : Token}
    (h : step (supply tree stack) token = some s) : Separates token := by
  cases stack with
  | nil => cases h
  | cons frame rest => cases frame <;> cases token <;> trivial

theorem supplied_of_number {s s' : State} {text : NumberText}
    (h : step s (.number text) = some s') : ∃ tree stack, s' = supply tree stack := by
  obtain ⟨stack, expected⟩ := s
  cases expected with
  | value => exact ⟨_, stack, (Option.some.inj h).symm⟩
  | valueOrClose => exact ⟨_, stack, (Option.some.inj h).symm⟩
  | separator =>
    cases stack with
    | nil => cases h
    | cons frame rest => cases frame <;> cases h
  | key => cases h
  | keyOrClose => cases h
  | colon => cases h
  | nothing tree => cases h

theorem run_cons {s s' : State} {token : Token} {rest : List Token}
    (h : run s (token :: rest) = some s') :
    ∃ next, step s token = some next ∧ run next rest = some s' := by
  rw [run] at h
  split at h
  · next next taken => exact ⟨next, taken, h⟩
  · cases h

/-- What a builder takes stands apart. -/
theorem apart_of_run {s s' : State} {tokens : List Token} (h : run s tokens = some s') :
    Apart tokens := by
  induction tokens generalizing s with
  | nil => exact .nil
  | cons a rest ih =>
    obtain ⟨next, first, h⟩ := run_cons h
    cases rest with
    | nil => exact .singleton a
    | cons b rest =>
      refine .cons_cons ?_ (ih h)
      rintro ⟨text, rfl⟩
      obtain ⟨tree, stack, rfl⟩ := supplied_of_number first
      obtain ⟨_, second, _⟩ := run_cons h
      exact separates_of_step second

end Builder

theorem apart_tokens (tree : Tree) : Apart tree.tokens := by
  have built := Builder.run_tokens [] tree []
  rw [List.append_nil] at built
  exact Builder.apart_of_run built

/-! ## Texts are read -/

theorem isForeign_of_isBlank {c : Char} (h : IsBlank c) : Lexer.IsForeign c := by
  intro stage
  rcases h with rfl | rfl | rfl | rfl <;> cases stage <;> rfl

/-- A text that begins with no token, or with one that separates, runs into no number. -/
theorem Spells.foreign {text : List Char} {tokens : List Token} (h : Spells text tokens)
    (separate : ∀ token ∈ tokens.head?, Separates token) :
    ∀ c ∈ text.head?, Lexer.IsForeign c := by
  cases h with
  | nil =>
    intro c mem
    cases mem
  | blank isBlank rest =>
    intro c mem
    obtain rfl := Option.some.inj mem
    exact isForeign_of_isBlank isBlank
  | token lexeme rest =>
    have separates := separate _ rfl
    cases lexeme <;> first
      | exact absurd separates id
      | exact (Lexer.stops_cons (by simp)).foreign

theorem Lexeme.cuts {piece : List Char} {token : Token} (h : Lexeme piece token)
    (noNumber : ∀ text, token ≠ .number text) : Cuts piece [token] := by
  cases h with
  | openArray => exact cuts_openArray
  | closeArray => exact cuts_closeArray
  | openObject => exact cuts_openObject
  | closeObject => exact cuts_closeObject
  | comma => exact cuts_comma
  | colon => exact cuts_colon
  | null => exact cuts_null
  | yes => exact cuts_bool true
  | no => exact cuts_bool false
  | number proper => exact absurd rfl (noNumber _)
  | string pieces => exact cuts_pieces pieces

theorem Spells.tokensFrom_eq {text : List Char} {tokens : List Token} (h : Spells text tokens)
    (apart : Apart tokens) (done : List Token) :
    Lexer.tokensFrom ⟨done, .between⟩ text = some (done.reverse ++ tokens) := by
  induction h generalizing done with
  | nil =>
    rw [List.append_nil]
    rfl
  | @blank c text tokens isBlank rest ih =>
    have passed : Lexer.step ⟨done, .between⟩ (some c) = some ⟨done, .between⟩ := if_pos isBlank
    rw [Lexer.tokensFrom_cons text passed]
    exact ih apart done
  | @token piece text token tokens lexeme rest ih =>
    have first : Lexer.tokensFrom ⟨done, .between⟩ (piece ++ text) =
        Lexer.tokensFrom ⟨token :: done, .between⟩ text := by
      by_cases number : ∃ parts, token = .number parts
      · have separate : ∀ next ∈ tokens.head?, Separates next := by
          intro next mem
          obtain ⟨rest, rfl⟩ := List.head?_eq_some_iff.mp mem
          exact (List.isChain_cons_cons.mp apart).1 number
        obtain ⟨parts, rfl⟩ := number
        cases lexeme with
        | number proper => exact tokensFrom_isNumber proper done (rest.foreign separate)
      · exact lexeme.cuts (fun parts same => number ⟨parts, same⟩) done text
    rw [first, ih (List.IsChain.of_cons apart), List.reverse_cons, List.append_assoc]
    rfl

/-- Bytes decode to a text when they hold its characters and no bad sequence. -/
theorem decode?_eq_some_iff {line : Bytes} {text : List Char} :
    Utf8.decode? line = some text ↔ Utf8.scalars line = text.map some := by
  unfold Utf8.decode?
  generalize Utf8.scalars line = scalars
  induction scalars generalizing text with
  | nil => cases text <;> simp
  | cons scalar rest ih =>
    rw [List.mapM_cons]
    constructor
    · intro decoded
      obtain ⟨c, character, others⟩ := Option.bind_eq_some_iff.mp decoded
      obtain ⟨more, read, made⟩ := Option.bind_eq_some_iff.mp others
      have first : scalar = some c := character
      obtain rfl := Option.some.inj made
      rw [first, ih.mp read, List.map_cons]
    · intro characters
      cases text with
      | nil => cases characters
      | cons c text =>
        obtain ⟨rfl, others⟩ := List.cons.inj characters
        exact Option.bind_eq_some_iff.mpr
          ⟨c, rfl, Option.bind_eq_some_iff.mpr ⟨text, ih.mpr others, rfl⟩⟩

/-- Every text of a tree is read as that tree. -/
theorem ofBytes?_of_isText {line : Bytes} {tree : Tree} (h : IsText line tree) :
    Tree.ofBytes? line = some tree := by
  obtain ⟨text, decoded, spells⟩ := h
  have cut : tokens? (text.map some) = some tree.tokens :=
    spells.tokensFrom_eq (apart_tokens tree) []
  rw [Tree.ofBytes?, decode?_eq_some_iff.mp decoded, cut, Option.bind_some, ofTokens?_tokens]

/-- A line is a text of one tree only. -/
theorem IsText.unique {line : Bytes} {a b : Tree} (h : IsText line a) (k : IsText line b) :
    a = b :=
  Option.some.inj ((ofBytes?_of_isText h).symm.trans (ofBytes?_of_isText k))

end DetectionLink.Json
