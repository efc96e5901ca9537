import DetectionLink.Proofs.Recognition

/-!
# Texts that have a value

Not every JSON text has a value. A string may name half of a surrogate pair, a number may be beyond
every double, and arrays and objects may nest too deep. Nothing else keeps a text from being read.

* `Tree.Within`: the trees that have a value;
* `exists_ofTreeWithin?_iff`: they are what the reader takes;
* `Tree.Within.decoded`: each of their strings has a text;
* `ofBytes?_eq_some_iff`: the lines that have a value.
-/

namespace DetectionLink.Json

/-- A tree that nests at most so deep, with a text for each string and key and a value for each
number. -/
inductive Tree.Within : Nat → Tree → Prop
  | null {depth : Nat} : Within depth .null
  | bool {depth : Nat} (b : Bool) : Within depth (.bool b)
  | number {depth : Nat} {text : NumberText} {n : Number} (read : Number.ofText? text = some n) :
      Within depth (.number text)
  | string {depth : Nat} (s : String) : Within depth (.string (some s))
  | array {depth : Nat} {items : List Tree} (inside : ∀ item ∈ items, Within depth item) :
      Within (depth + 1) (.array items)
  | object {depth : Nat} {members : List (Option String × Tree)}
      (keys : ∀ member ∈ members, ∃ key, member.1 = some key)
      (inside : ∀ member ∈ members, Within depth member.2) : Within (depth + 1) (.object members)

/-! ## The reader of trees -/

theorem exists_mapM_iff {α β : Type} {read? : α → Option β} {items : List α} :
    (∃ results, items.mapM read? = some results) ↔ ∀ a ∈ items, ∃ b, read? a = some b := by
  induction items with
  | nil => exact ⟨fun _ => List.forall_mem_nil _, fun _ => ⟨[], rfl⟩⟩
  | cons a items ih =>
    rw [List.forall_mem_cons, ← ih, List.mapM_cons]
    constructor
    · rintro ⟨results, all⟩
      obtain ⟨b, first, others⟩ := Option.bind_eq_some_iff.mp all
      obtain ⟨rest, others, _⟩ := Option.bind_eq_some_iff.mp others
      exact ⟨⟨b, first⟩, rest, others⟩
    · rintro ⟨⟨b, first⟩, rest, others⟩
      exact ⟨b :: rest, Option.bind_eq_some_iff.mpr
        ⟨b, first, Option.bind_eq_some_iff.mpr ⟨rest, others, rfl⟩⟩⟩

theorem exists_map_iff {α β : Type} {f : α → β} {o : Option α} :
    (∃ b, o.map f = some b) ↔ ∃ a, o = some a := by
  cases o <;> simp

theorem exists_ofTreeWithin?_iff (depth : Nat) (tree : Tree) :
    (∃ v, Value.ofTreeWithin? depth tree = some v) ↔ tree.Within depth := by
  cases tree with
  | null =>
    rw [Value.ofTreeWithin?]
    exact ⟨fun _ => .null, fun _ => ⟨_, rfl⟩⟩
  | bool b =>
    rw [Value.ofTreeWithin?]
    exact ⟨fun _ => .bool b, fun _ => ⟨_, rfl⟩⟩
  | number text =>
    rw [Value.ofTreeWithin?, exists_map_iff]
    constructor
    · rintro ⟨n, read⟩
      exact .number read
    · rintro (_ | _ | read)
      exact ⟨_, read⟩
  | string text =>
    rw [Value.ofTreeWithin?, exists_map_iff]
    constructor
    · rintro ⟨s, rfl⟩
      exact .string s
    · rintro (_ | _ | _ | s)
      exact ⟨s, rfl⟩
  | array items =>
    cases depth with
    | zero =>
      constructor
      · rintro ⟨v, read⟩
        cases read
      · rintro (_ | _)
    | succ depth =>
      rw [Value.ofTreeWithin?, exists_map_iff, exists_mapM_iff]
      constructor
      · exact fun read => .array fun item mem =>
          (exists_ofTreeWithin?_iff depth item).mp (read item mem)
      · rintro (_ | _ | _ | _ | inside)
        exact fun item mem => (exists_ofTreeWithin?_iff depth item).mpr (inside item mem)
  | object members =>
    cases depth with
    | zero =>
      constructor
      · rintro ⟨v, read⟩
        cases read
      · rintro (_ | _)
    | succ depth =>
      rw [Value.ofTreeWithin?, exists_map_iff, exists_mapM_iff]
      constructor
      · intro read
        have each (member : Option String × Tree) (mem : member ∈ members) :
            (∃ key, member.1 = some key) ∧ member.2.Within depth := by
          obtain ⟨_, both⟩ := read member mem
          obtain ⟨key, isKey, valued⟩ := Option.bind_eq_some_iff.mp both
          obtain ⟨value, isValue, _⟩ := Option.bind_eq_some_iff.mp valued
          exact ⟨⟨key, isKey⟩, (exists_ofTreeWithin?_iff depth member.2).mp ⟨value, isValue⟩⟩
        exact .object (fun member mem => (each member mem).1) fun member mem => (each member mem).2
      · rintro (_ | _ | _ | _ | _ | ⟨keys, inside⟩)
        intro member mem
        obtain ⟨key, isKey⟩ := keys member mem
        obtain ⟨value, isValue⟩ := (exists_ofTreeWithin?_iff depth member.2).mpr (inside member mem)
        exact ⟨(key, value), Option.bind_eq_some_iff.mpr
          ⟨key, isKey, Option.bind_eq_some_iff.mpr ⟨value, isValue, rfl⟩⟩⟩
termination_by depth

/-- Of all trees that have a value only an object is read as one. -/
theorem isObject_iff_of_ofTreeWithin? {depth : Nat} {tree : Tree} {v : Value}
    (read : Value.ofTreeWithin? depth tree = some v) :
    v.isObject = true ↔ ∃ members, tree = .object members := by
  cases tree with
  | object members =>
    cases depth with
    | zero => cases read
    | succ depth =>
      obtain ⟨_, _, rfl⟩ := Option.map_eq_some_iff.mp read
      exact ⟨fun _ => ⟨members, rfl⟩, fun _ => rfl⟩
  | _ =>
    have noObject : v.isObject = false := by
      cases depth <;> simp only [Value.ofTreeWithin?, Option.map_eq_some_iff, Option.some.injEq,
        reduceCtorEq] at read <;> obtain ⟨_, _, rfl⟩ := read <;> rfl
    simp [noObject]

/-! ## Tokens of trees that have a value -/

theorem itemTokens_eq (items : List Tree) : Tree.itemTokens items = items.map Tree.tokens := by
  induction items with
  | nil => rw [Tree.itemTokens, List.map_nil]
  | cons item items ih => rw [Tree.itemTokens, ih, List.map_cons]

theorem memberTokens_eq (members : List (Option String × Tree)) :
    Tree.memberTokens members =
      members.map fun member => .string member.1 :: .colon :: member.2.tokens := by
  induction members with
  | nil => rw [Tree.memberTokens, List.map_nil]
  | cons member members ih =>
    obtain ⟨key, value⟩ := member
    rw [Tree.memberTokens, ih, List.map_cons]

/-- What stands between commas is a comma or in one of the pieces. -/
theorem eq_comma_or_mem_of_mem_intercalate {token : Token} {pieces : List (List Token)}
    (mem : token ∈ [Token.comma].intercalate pieces) :
    token = .comma ∨ ∃ piece ∈ pieces, token ∈ piece := by
  induction pieces with
  | nil => exact absurd mem List.not_mem_nil
  | cons first pieces ih =>
    cases pieces with
    | nil =>
      rw [List.intercalate_singleton] at mem
      exact .inr ⟨first, List.mem_cons_self, mem⟩
    | cons second pieces =>
      rw [List.intercalate_cons_cons, List.append_assoc, List.mem_append] at mem
      rcases mem with inFirst | later
      · exact .inr ⟨first, List.mem_cons_self, inFirst⟩
      · rcases List.mem_cons.mp later with rfl | later
        · exact .inl rfl
        · rcases ih later with comma | ⟨piece, inside, mem⟩
          · exact .inl comma
          · exact .inr ⟨piece, List.mem_cons_of_mem first inside, mem⟩

theorem Tree.Within.decoded {depth : Nat} {tree : Tree} (h : tree.Within depth) :
    .string none ∉ tree.tokens := by
  induction h with
  | null => simp [Tree.tokens]
  | bool b => simp [Tree.tokens]
  | number read => simp [Tree.tokens]
  | string s => simp [Tree.tokens]
  | array inside ih =>
    intro mem
    rw [Tree.tokens, itemTokens_eq, List.mem_cons, List.mem_append] at mem
    rcases mem with same | between | close
    · cases same
    · rcases eq_comma_or_mem_of_mem_intercalate between with same | ⟨piece, isPiece, mem⟩
      · cases same
      · obtain ⟨item, isItem, rfl⟩ := List.mem_map.mp isPiece
        exact ih item isItem mem
    · cases List.mem_singleton.mp close
  | object keys inside ih =>
    intro mem
    rw [Tree.tokens, memberTokens_eq, List.mem_cons, List.mem_append] at mem
    rcases mem with same | between | close
    · cases same
    · rcases eq_comma_or_mem_of_mem_intercalate between with same | ⟨piece, isPiece, mem⟩
      · cases same
      · obtain ⟨member, isMember, rfl⟩ := List.mem_map.mp isPiece
        rcases List.mem_cons.mp mem with key | mem
        · obtain ⟨key', isKey⟩ := keys member isMember
          rw [isKey] at key
          cases key
        · rcases List.mem_cons.mp mem with colon | mem
          · cases colon
          · exact ih member isMember mem
    · cases List.mem_singleton.mp close

/-! ## Lines -/

/-- A line has a value when it is the text of a tree that has one. -/
theorem ofBytes?_eq_some_iff {line : Bytes} {v : Value} :
    Value.ofBytes? line = some v ↔
      ∃ tree, IsText line tree ∧ Value.ofTreeWithin? Value.maxDepth tree = some v := by
  constructor
  · intro read
    obtain ⟨tree, parsed, valued⟩ := Option.bind_eq_some_iff.mp read
    have within : tree.Within Value.maxDepth := (exists_ofTreeWithin?_iff _ _).mp ⟨v, valued⟩
    exact ⟨tree, isText_of_ofBytes? parsed within.decoded, valued⟩
  · rintro ⟨tree, isText, valued⟩
    exact Option.bind_eq_some_iff.mpr ⟨tree, ofBytes?_of_isText isText, valued⟩

end DetectionLink.Json
