import DetectionLink.Proofs.Grammar

/-!
# The tokens of what is built

The tokens that build a tree are the tokens of that tree and no others, so a tree says which tokens
it was built of.

* `Builder.Builds`: a builder in some state makes a tree of tokens;
* `step_after_item`, `step_after_member`, `step_key` and the like: what each state takes;
* `value_of_builds`, `items_of_builds`, `members_of_builds`: what comes first where a value, an item
  or a key is expected;
* `tokens_of_ofTokens?`: the tokens of a tree that is built.
-/

namespace DetectionLink.Json

namespace Builder

/-! ## Steps -/

/-- A builder makes a tree of tokens. -/
def Builds (s : State) (tokens : List Token) (tree : Tree) : Prop :=
  (run s tokens).bind finish? = some tree

theorem Builds.cons {s : State} {token : Token} {rest : List Token} {tree : Tree}
    (h : Builds s (token :: rest) tree) :
    ∃ next, step s token = some next ∧ Builds next rest tree := by
  obtain ⟨last, ran, finished⟩ := Option.bind_eq_some_iff.mp h
  obtain ⟨next, taken, ran⟩ := run_cons ran
  exact ⟨next, taken, Option.bind_eq_some_iff.mpr ⟨last, ran, finished⟩⟩

section Steps

variable {stack : List Frame} {token : Token} {next : State}

theorem step_after_item {items : List Tree}
    (h : step ⟨.array items :: stack, .separator⟩ token = some next) :
    token = .comma ∧ next = ⟨.array items :: stack, .value⟩ ∨
      token = .closeArray ∧ next = supply (.array items.reverse) stack := by
  cases token <;> first
    | exact .inl ⟨rfl, (Option.some.inj h).symm⟩
    | exact .inr ⟨rfl, (Option.some.inj h).symm⟩
    | cases h

theorem step_after_member {members : List (Option String × Tree)}
    (h : step ⟨.object members :: stack, .separator⟩ token = some next) :
    token = .comma ∧ next = ⟨.object members :: stack, .key⟩ ∨
      token = .closeObject ∧ next = supply (.object members.reverse) stack := by
  cases token <;> first
    | exact .inl ⟨rfl, (Option.some.inj h).symm⟩
    | exact .inr ⟨rfl, (Option.some.inj h).symm⟩
    | cases h

theorem step_openArray (h : step ⟨.array [] :: stack, .valueOrClose⟩ token = some next) :
    token = .closeArray ∧ next = supply (.array []) stack ∨
      step ⟨.array [] :: stack, .value⟩ token = some next := by
  cases token <;> first
    | exact .inl ⟨rfl, (Option.some.inj h).symm⟩
    | exact .inr h

theorem step_openObject (h : step ⟨.object [] :: stack, .keyOrClose⟩ token = some next) :
    token = .closeObject ∧ next = supply (.object []) stack ∨
      step ⟨.object [] :: stack, .key⟩ token = some next := by
  cases token <;> first
    | exact .inl ⟨rfl, (Option.some.inj h).symm⟩
    | exact .inr h

theorem step_key {members : List (Option String × Tree)}
    (h : step ⟨.object members :: stack, .key⟩ token = some next) :
    ∃ key, token = .string key ∧ next = ⟨.member members key :: stack, .colon⟩ := by
  cases token <;> first
    | exact ⟨_, rfl, (Option.some.inj h).symm⟩
    | cases h

theorem step_colon (h : step ⟨stack, .colon⟩ token = some next) :
    token = .colon ∧ next = ⟨stack, .value⟩ := by
  cases token <;> first
    | exact ⟨rfl, (Option.some.inj h).symm⟩
    | cases h

end Steps

/-! ## Runs -/

mutual

/-- Where a value is expected, the tokens of one come first. -/
theorem value_of_builds {stack : List Frame} {tokens : List Token} {tree : Tree}
    (h : Builds ⟨stack, .value⟩ tokens tree) :
    ∃ value rest, tokens = value.tokens ++ rest ∧ Builds (supply value stack) rest tree := by
  cases tokens with
  | nil => cases h
  | cons token rest =>
    obtain ⟨next, taken, built⟩ := h.cons
    cases token with
    | null =>
      obtain rfl := Option.some.inj taken
      exact ⟨.null, rest, by rw [Tree.tokens, List.singleton_append], built⟩
    | bool b =>
      obtain rfl := Option.some.inj taken
      exact ⟨.bool b, rest, by rw [Tree.tokens, List.singleton_append], built⟩
    | number text =>
      obtain rfl := Option.some.inj taken
      exact ⟨.number text, rest, by rw [Tree.tokens, List.singleton_append], built⟩
    | string text =>
      obtain rfl := Option.some.inj taken
      exact ⟨.string text, rest, by rw [Tree.tokens, List.singleton_append], built⟩
    | openArray =>
      obtain rfl := Option.some.inj taken
      cases rest with
      | nil => cases built
      | cons token rest =>
        obtain ⟨next, taken, more⟩ := built.cons
        rcases step_openArray taken with ⟨rfl, rfl⟩ | first
        · exact ⟨.array [], rest, by simp [Tree.tokens, Tree.itemTokens], more⟩
        · have inside : Builds ⟨.array [] :: stack, .value⟩ (token :: rest) tree := by
            rw [Builds, run, first]
            exact more
          obtain ⟨item, items, after, shape, built⟩ := items_of_builds inside
          refine ⟨.array (item :: items), after, ?_, built⟩
          rw [shape, Tree.tokens, List.cons_append, List.append_assoc, List.singleton_append]
    | openObject =>
      obtain rfl := Option.some.inj taken
      cases rest with
      | nil => cases built
      | cons token rest =>
        obtain ⟨next, taken, more⟩ := built.cons
        rcases step_openObject taken with ⟨rfl, rfl⟩ | first
        · exact ⟨.object [], rest, by simp [Tree.tokens, Tree.memberTokens], more⟩
        · have inside : Builds ⟨.object [] :: stack, .key⟩ (token :: rest) tree := by
            rw [Builds, run, first]
            exact more
          obtain ⟨member, members, after, shape, built⟩ := members_of_builds inside
          refine ⟨.object (member :: members), after, ?_, built⟩
          rw [shape, Tree.tokens, List.cons_append, List.append_assoc, List.singleton_append]
    | closeArray => cases taken
    | closeObject => cases taken
    | comma => cases taken
    | colon => cases taken
termination_by (tokens.length, 0)

/-- Where an item is expected, the tokens of all items to come are first, and then the array is
closed. -/
theorem items_of_builds {done : List Tree} {stack : List Frame} {tokens : List Token} {tree : Tree}
    (h : Builds ⟨.array done :: stack, .value⟩ tokens tree) :
    ∃ item items rest,
      tokens = [.comma].intercalate (Tree.itemTokens (item :: items)) ++ .closeArray :: rest ∧
      Builds (supply (.array (done.reverse ++ item :: items)) stack) rest tree := by
  obtain ⟨item, rest, shape, built⟩ := value_of_builds h
  cases rest with
  | nil => cases built
  | cons token rest =>
    obtain ⟨next, taken, built⟩ := built.cons
    rcases step_after_item taken with ⟨rfl, rfl⟩ | ⟨rfl, rfl⟩
    · have shorter : rest.length < tokens.length := by
        rw [shape]
        exact (List.suffix_append item.tokens (.comma :: rest)).length_le
      obtain ⟨second, items, after, others, built⟩ := items_of_builds built
      refine ⟨item, second :: items, after, ?_, ?_⟩
      · rw [shape, others]
        simp [Tree.itemTokens, List.intercalate_cons_cons]
      · rwa [List.reverse_cons, List.append_assoc] at built
    · refine ⟨item, [], rest, ?_, by rwa [List.reverse_cons] at built⟩
      rw [shape, Tree.itemTokens, Tree.itemTokens, List.intercalate_singleton]
termination_by (tokens.length, 1)

/-- Where a key is expected, the tokens of all members to come are first, and then the object is
closed. -/
theorem members_of_builds {done : List (Option String × Tree)} {stack : List Frame}
    {tokens : List Token} {tree : Tree} (h : Builds ⟨.object done :: stack, .key⟩ tokens tree) :
    ∃ member members rest,
      tokens = [.comma].intercalate (Tree.memberTokens (member :: members)) ++
        .closeObject :: rest ∧
      Builds (supply (.object (done.reverse ++ member :: members)) stack) rest tree := by
  match tokens, h with
  | [], h => cases h
  | [token], h =>
    obtain ⟨next, taken, built⟩ := h.cons
    obtain ⟨key, rfl, rfl⟩ := step_key taken
    cases built
  | token :: mark :: tokens, h =>
    obtain ⟨next, taken, built⟩ := h.cons
    obtain ⟨key, rfl, rfl⟩ := step_key taken
    obtain ⟨next, taken, built⟩ := built.cons
    obtain ⟨rfl, rfl⟩ := step_colon taken
    obtain ⟨value, rest, shape, built⟩ := value_of_builds built
    cases rest with
    | nil => cases built
    | cons token rest =>
      obtain ⟨next, taken, built⟩ := built.cons
      rcases step_after_member taken with ⟨rfl, rfl⟩ | ⟨rfl, rfl⟩
      · have shorter : rest.length < tokens.length := by
          rw [shape]
          exact (List.suffix_append value.tokens (.comma :: rest)).length_le
        obtain ⟨second, members, after, others, built⟩ := members_of_builds built
        refine ⟨(key, value), second :: members, after, ?_, ?_⟩
        · obtain ⟨secondKey, secondValue⟩ := second
          rw [shape, others]
          simp [Tree.memberTokens, List.intercalate_cons_cons]
        · rwa [List.reverse_cons, List.append_assoc] at built
      · refine ⟨(key, value), [], rest, ?_, by rwa [List.reverse_cons] at built⟩
        rw [shape, Tree.memberTokens, Tree.memberTokens, List.intercalate_singleton,
          List.cons_append, List.cons_append]
termination_by (tokens.length, 1)

end

end Builder

theorem tokens_of_ofTokens? {tokens : List Token} {tree : Tree}
    (built : Tree.ofTokens? tokens = some tree) : tokens = tree.tokens := by
  obtain ⟨value, rest, shape, done⟩ := Builder.value_of_builds built
  cases rest with
  | nil =>
    obtain rfl := Option.some.inj done
    rw [shape, List.append_nil]
  | cons token rest =>
    obtain ⟨next, taken, _⟩ := done.cons
    cases taken

end DetectionLink.Json
