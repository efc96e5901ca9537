import DetectionLink.Json.Tree
import DetectionLink.Proofs.PrintedNumbers

/-!
# The text of a value parses

The compact text of a value is cut into the tokens of its tree, and the tokens of a tree are built
into that tree, however deep it nests. So a value that is written is read as its tree; what the
numbers of that tree stand for is another matter.

* `Tree.tokens`, `ofTokens?_tokens`: the tokens of a tree make it;
* `Value.tree`, `lexes_text`: a value's text is cut into the tokens of its tree;
* `ofBytes?_text`: both together, on bytes.
-/

namespace DetectionLink.Json

/-! ## Tokens of a tree -/

namespace Tree

mutual

/-- The tokens of a tree. -/
def tokens : Tree → List Token
  | .null => [.null]
  | .bool b => [.bool b]
  | .number text => [.number text]
  | .string text => [.string text]
  | .array items => .openArray :: ([.comma].intercalate (itemTokens items) ++ [.closeArray])
  | .object members =>
    .openObject :: ([.comma].intercalate (memberTokens members) ++ [.closeObject])

/-- The tokens of an array's items. -/
def itemTokens : List Tree → List (List Token)
  | [] => []
  | item :: rest => item.tokens :: itemTokens rest

/-- The tokens of an object's members. -/
def memberTokens : List (Option String × Tree) → List (List Token)
  | [] => []
  | (key, value) :: rest => (.string key :: .colon :: value.tokens) :: memberTokens rest

end

end Tree

namespace Builder

/-- Where a container may also end, a value begins as elsewhere. -/
theorem run_valueOrClose (tree : Tree) (stack : List Frame) (rest : List Token) :
    run ⟨stack, .valueOrClose⟩ (tree.tokens ++ rest) =
      run ⟨stack, .value⟩ (tree.tokens ++ rest) := by
  cases tree <;> simp [Tree.tokens, run, step]

mutual

/-- The tokens of a tree put it in its place. -/
theorem run_tokens (rest : List Token) : (tree : Tree) → (stack : List Frame) →
    run ⟨stack, .value⟩ (tree.tokens ++ rest) = run (supply tree stack) rest
  | .null, _ => by simp [Tree.tokens, run, step, open?]
  | .bool _, _ => by simp [Tree.tokens, run, step, open?]
  | .number _, _ => by simp [Tree.tokens, run, step, open?]
  | .string _, _ => by simp [Tree.tokens, run, step, open?]
  | .array [], _ => by simp [Tree.tokens, Tree.itemTokens, run, step, open?, close?]
  | .array (item :: items), stack => by
    have opened : run ⟨stack, .value⟩ ((Tree.array (item :: items)).tokens ++ rest) =
        run ⟨.array [] :: stack, .valueOrClose⟩
          ([.comma].intercalate (Tree.itemTokens (item :: items)) ++ .closeArray :: rest) := by
      simp [Tree.tokens, run, step, open?]
    have first : run ⟨.array [] :: stack, .valueOrClose⟩
          ([.comma].intercalate (Tree.itemTokens (item :: items)) ++ .closeArray :: rest) =
        run ⟨.array [] :: stack, .value⟩
          ([.comma].intercalate (Tree.itemTokens (item :: items)) ++ .closeArray :: rest) := by
      cases items with
      | nil => simp only [Tree.itemTokens, List.intercalate_singleton, run_valueOrClose]
      | cons next more =>
        simp only [Tree.itemTokens, List.intercalate_cons_cons, List.append_assoc,
          run_valueOrClose]
    rw [opened, first, run_items rest (item :: items) nofun [] stack]
    rfl
  | .object [], _ => by simp [Tree.tokens, Tree.memberTokens, run, step, open?, close?]
  | .object (member :: members), stack => by
    have opened : run ⟨stack, .value⟩ ((Tree.object (member :: members)).tokens ++ rest) =
        run ⟨.object [] :: stack, .keyOrClose⟩
          ([.comma].intercalate (Tree.memberTokens (member :: members)) ++
            .closeObject :: rest) := by
      simp [Tree.tokens, run, step, open?]
    have first : run ⟨.object [] :: stack, .keyOrClose⟩
          ([.comma].intercalate (Tree.memberTokens (member :: members)) ++ .closeObject :: rest) =
        run ⟨.object [] :: stack, .key⟩
          ([.comma].intercalate (Tree.memberTokens (member :: members)) ++
            .closeObject :: rest) := by
      cases members with
      | nil => simp [Tree.memberTokens, run, step]
      | cons next more => simp [Tree.memberTokens, List.intercalate_cons_cons, run, step]
    rw [opened, first, run_members rest (member :: members) nofun [] stack]
    rfl

/-- Items between commas fill an open array, and the bracket closes it. -/
theorem run_items (rest : List Token) : (items : List Tree) → items ≠ [] → (done : List Tree) →
    (stack : List Frame) → run ⟨.array done :: stack, .value⟩
        ([.comma].intercalate (Tree.itemTokens items) ++ .closeArray :: rest) =
      run (supply (.array (done.reverse ++ items)) stack) rest
  | [], nonempty, _, _ => absurd rfl nonempty
  | [item], _, done, stack => by
    rw [Tree.itemTokens, Tree.itemTokens, List.intercalate_singleton, run_tokens]
    simp [supply, run, step, close?]
  | item :: next :: more, _, done, stack => by
    have later := run_items rest (next :: more) nofun (item :: done) stack
    rw [Tree.itemTokens] at later
    rw [Tree.itemTokens, Tree.itemTokens, List.intercalate_cons_cons, List.append_assoc,
      List.append_assoc, run_tokens]
    simpa [supply, run, step] using later

/-- Members between commas fill an open object, and the brace closes it. -/
theorem run_members (rest : List Token) : (members : List (Option String × Tree)) →
    members ≠ [] → (done : List (Option String × Tree)) → (stack : List Frame) →
    run ⟨.object done :: stack, .key⟩
        ([.comma].intercalate (Tree.memberTokens members) ++ .closeObject :: rest) =
      run (supply (.object (done.reverse ++ members)) stack) rest
  | [], nonempty, _, _ => absurd rfl nonempty
  | [(key, value)], _, done, stack => by
    rw [Tree.memberTokens, Tree.memberTokens, List.intercalate_singleton]
    simp only [List.cons_append, run, step]
    rw [run_tokens]
    simp [supply, run, step, close?]
  | (key, value) :: next :: more, _, done, stack => by
    have later := run_members rest (next :: more) nofun ((key, value) :: done) stack
    obtain ⟨nextKey, nextValue⟩ := next
    rw [Tree.memberTokens] at later
    rw [Tree.memberTokens, Tree.memberTokens, List.intercalate_cons_cons, List.append_assoc,
      List.append_assoc]
    simp only [List.cons_append, run, step]
    rw [run_tokens]
    simpa [supply, run, step] using later

end

end Builder

theorem ofTokens?_tokens (tree : Tree) : Tree.ofTokens? tree.tokens = some tree := by
  have built := Builder.run_tokens [] tree []
  rw [List.append_nil] at built
  rw [Tree.ofTokens?, Builder.start, built]
  rfl

/-! ## Trees of values -/

/-- The tree of a number; a double that is not finite has no text of its own. -/
def Number.tree : Number → Tree
  | .whole n _ => .number (.ofChars (wholeText n).toList)
  | .real x => if x.isFinite then .number (.ofChars (layout.text x).toList) else .null

namespace Value

mutual

/-- The tree of a value as it is written. -/
def tree : Value → Tree
  | .null => .null
  | .bool b => .bool b
  | .number n => n.tree
  | .string s => .string (some s)
  | .array items => .array (itemTrees items)
  | .object members => .object (memberTrees members)

/-- The trees of an array's items. -/
def itemTrees : List Value → List Tree
  | [] => []
  | item :: rest => item.tree :: itemTrees rest

/-- The trees of an object's members. -/
def memberTrees : List (String × Value) → List (Option String × Tree)
  | [] => []
  | (key, value) :: rest => (some key, value.tree) :: memberTrees rest

end

end Value

/-! ## Texts of values -/

theorem lexes_real {x : Binary64} (finite : x.isFinite = true) :
    Lexes (Number.layout.text x).toList [.number (.ofChars (Number.layout.text x).toList)] := by
  cases x with
  | nan => exact absurd finite nofun
  | infinite _ => exact absurd finite nofun
  | finite negative rank =>
    have text : Number.layout.text (.finite negative rank) =
        (Number.real (.finite negative rank)).text := rfl
    rw [text, toList_realText]
    exact lexes_parts (proper_realParts negative rank)

theorem lexes_number (n : Number) : Lexes n.text.toList n.tree.tokens := by
  cases n with
  | whole n fits =>
    rw [Number.tree, Tree.tokens, Number.text, toList_wholeText]
    exact lexes_parts (proper_wholeParts n)
  | real x =>
    rw [Number.tree, Number.text]
    by_cases finite : x.isFinite = true
    · rw [if_pos finite, if_pos finite, Tree.tokens]
      exact lexes_real finite
    · rw [if_neg finite, if_neg finite, Tree.tokens]
      exact cuts_null.lexes

mutual

/-- The text of a value is cut into the tokens of its tree. -/
theorem lexes_text : (v : Value) → Lexes v.text.toList v.tree.tokens
  | .null => by
    rw [Value.text, Value.tree, Tree.tokens]
    exact cuts_null.lexes
  | .bool b => by
    rw [Value.text, Value.tree, Tree.tokens]
    exact (cuts_bool b).lexes
  | .number n => by
    rw [Value.text, Value.tree]
    exact lexes_number n
  | .string s => by
    rw [Value.text, Value.tree, Tree.tokens]
    exact (cuts_stringText s).lexes
  | .array items => by
    have inside := cuts_intercalate (lexes_itemTexts items) (.inr (.inl rfl)) cuts_closeArray
    rw [Value.text, Value.tree, Tree.tokens, String.toList_append, String.toList_append,
      String.toList_intercalate, List.append_assoc]
    exact (cuts_openArray.append inside).lexes
  | .object members => by
    have inside := cuts_intercalate (lexes_memberTexts members) (.inr (.inr rfl)) cuts_closeObject
    rw [Value.text, Value.tree, Tree.tokens, String.toList_append, String.toList_append,
      String.toList_intercalate, List.append_assoc]
    exact (cuts_openObject.append inside).lexes

theorem lexes_itemTexts : (items : List Value) →
    List.Forall₂ Lexes ((Value.itemTexts items).map String.toList)
      (Tree.itemTokens (Value.itemTrees items))
  | [] => by
    rw [Value.itemTexts, Value.itemTrees, Tree.itemTokens]
    exact .nil
  | item :: rest => by
    rw [Value.itemTexts, Value.itemTrees, Tree.itemTokens]
    exact .cons (lexes_text item) (lexes_itemTexts rest)

theorem lexes_memberTexts : (members : List (String × Value)) →
    List.Forall₂ Lexes ((Value.memberTexts members).map String.toList)
      (Tree.memberTokens (Value.memberTrees members))
  | [] => by
    rw [Value.memberTexts, Value.memberTrees, Tree.memberTokens]
    exact .nil
  | (key, value) :: rest => by
    have member : Lexes (stringText key ++ ":" ++ value.text).toList
        (.string (some key) :: .colon :: value.tree.tokens) := by
      rw [String.toList_append, String.toList_append, List.append_assoc]
      exact (cuts_stringText key).append_lexes (cuts_colon.append_lexes (lexes_text value))
    rw [Value.memberTexts, Value.memberTrees, Tree.memberTokens]
    exact .cons member (lexes_memberTexts rest)

end

/-- The bytes of a value are read as its tree. -/
theorem ofBytes?_text (v : Value) : Tree.ofBytes? (Utf8.ofString v.text) = some v.tree := by
  rw [Tree.ofBytes?, Utf8.ofString, Utf8.scalars_encode, (lexes_text v).tokens?, Option.bind_some,
    ofTokens?_tokens]

end DetectionLink.Json
