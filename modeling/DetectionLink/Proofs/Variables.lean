import DetectionLink.Proofs.Grammar
import DetectionLink.Settings.Startup
import Mathlib.Data.List.TakeDrop
import Mathlib.Data.List.TakeWhile

/-!
# What a file of variables supplies

A variable that has a text as its value keeps it. Any other, not set or set to bytes that are no
text, takes the first value that a line of the file assigns to it, up to the first line that cannot
be read. If it cannot hold that value, start-up does not come back.

* `Environment.lookup_set`, `value?_eq_lookup`: setting and looking up;
* `DotFile.assignments`, `DotFile.offers`: what the lines of a file assign;
* `DotFile.Taken`: what comes of these;
* `taken_loadVariables`: the environment that start-up goes on with, if it does.
-/

namespace DetectionLink

/-! ## Setting and looking up -/

namespace Environment

variable (env : Environment) {name : String}

/-- Setting a variable leaves the others as they are. -/
theorem lookup_set (value : Bytes) (other : String) :
    (env.set name value).lookup other = if other = name then some value else env.lookup other := by
  by_cases same : other = name
  · rw [if_pos same, set, List.lookup_cons, beq_iff_eq.mpr same]
  · rw [if_neg same, set, List.lookup_cons, beq_eq_false_iff_ne.mpr same]
    dsimp only
    induction env with
    | nil => rfl
    | cons entry rest ih =>
      by_cases removed : entry.1 = name
      · have unlike : other ≠ entry.1 := fun equal => same (equal.trans removed)
        rw [List.filter_cons_of_neg (by simpa using removed), ih, List.lookup_cons,
          beq_eq_false_iff_ne.mpr unlike]
      · rw [List.filter_cons_of_pos (by simpa using removed), List.lookup_cons,
          List.lookup_cons, ih]

/-- Nothing is looked for inside a value unless the name has an equals sign. -/
theorem value?_eq_lookup (plain : '=' ∉ name.toList) : env.value? name = env.lookup name := by
  have whole : name.toList.span (· ≠ '=') = (name.toList, []) := by
    have kept : ∀ c ∈ name.toList, decide (c ≠ '=') = true := fun c mem =>
      decide_eq_true fun same => plain (same ▸ mem)
    rw [List.span_eq_takeWhile_dropWhile, List.takeWhile_eq_self_iff.mpr kept,
      List.dropWhile_eq_nil_iff.mpr kept]
  rw [value?, inside?, whole]
  cases env.lookup name <;> rfl

end Environment

theorem Utf8.decode?_encode (text : List Char) : decode? (encode text) = some text :=
  Json.decode?_eq_some_iff.mpr (scalars_encode text)

namespace DotFile

/-! ## Keys -/

theorem plain_of_key? {cs rest : List Char} {key : String} (read : key? cs = some (key, rest)) :
    '=' ∉ key.toList := by
  unfold key? at read
  split at read
  · rw [List.span_eq_takeWhile_dropWhile] at read
    obtain ⟨rfl, -⟩ := Prod.mk.inj (Option.some.inj read)
    rw [String.toList_ofList]
    intro mem
    have part : isKeyChar '=' = true := List.mem_takeWhile_imp mem
    exact absurd part (by decide)
  · cases read

theorem plain_of_sides? {cs rest : List Char} {key : String} (read : sides? cs = some (key, rest)) :
    '=' ∉ key.toList := by
  obtain ⟨⟨first, behind⟩, front, read⟩ := Option.bind_eq_some_iff.mp read
  dsimp only at read
  split at read
  · obtain ⟨rfl, -⟩ := Prod.mk.inj (Option.some.inj read)
    exact plain_of_key? front
  · split at read
    · obtain ⟨_, front, read⟩ := Option.bind_eq_some_iff.mp read
      split at read
      · obtain ⟨rfl, -⟩ := Prod.mk.inj (Option.some.inj read)
        exact plain_of_key? front
      · cases read
    · cases read

/-- No line assigns to a name with an equals sign. -/
theorem plain_of_assignment? {scope : Scope} {line value : List Char} {key : String}
    (read : assignment? scope line = some (.assigns key value)) : '=' ∉ key.toList := by
  unfold assignment? at read
  split at read
  · cases read
  · cases read
  · obtain ⟨⟨first, behind⟩, front, read⟩ := Option.bind_eq_some_iff.mp read
    have same : key = first := by
      dsimp only at read
      split at read
      · exact (Assignment.assigns.inj (Option.some.inj read)).1.symm
      · exact (Assignment.assigns.inj (Option.some.inj read)).1.symm
      · obtain ⟨_, -, made⟩ := Option.bind_eq_some_iff.mp read
        exact (Assignment.assigns.inj (Option.some.inj made)).1.symm
    exact same ▸ plain_of_sides? front

/-! ## What is assigned -/

/-- What lines assign, up to the first that cannot be read or whose value cannot be set. -/
def assignments (s : Scope) : List (Option (List Char)) → List (String × List Char)
  | [] => []
  | none :: _ => []
  | some line :: rest =>
    match assignment? s line with
    | none => []
    | some .nothing => assignments s rest
    | some (.assigns key value) =>
      match s.assign key value with
      | .ok s => (key, value) :: assignments s rest
      | .error _ => [(key, value)]

/-- A variable keeps a value that is text, and otherwise takes what it is offered. -/
def supplied (own : Option Bytes) (offered : Option (List Char)) : Option Bytes :=
  if (own.bind Utf8.decode?).isSome then own else (offered.map Utf8.encode).or own

@[simp] theorem supplied_none (own : Option Bytes) : supplied own none = own := ite_self own

/-- What was supplied is text. -/
theorem isSome_supplied (own : Option Bytes) (value : List Char) :
    ((supplied own (some value)).bind Utf8.decode?).isSome := by
  rw [supplied]
  split
  · assumption
  · exact Option.isSome_iff_exists.mpr ⟨value, Utf8.decode?_encode value⟩

/-- The first offer counts. -/
theorem supplied_some (own : Option Bytes) (value : List Char) (offered : Option (List Char)) :
    supplied (supplied own (some value)) offered = supplied own (some value) :=
  if_pos (isSome_supplied own value)

/-- A variable would have to take what it is offered, and cannot hold it. -/
inductive Refused : Option Bytes → Option (List Char) → Prop
  | offer {own : Option Bytes} {value : List Char} (textless : own.bind Utf8.decode? = none)
      (ended : terminator ∈ value) : Refused own (some value)

theorem not_refused_of_text {own : Option Bytes} (text : (own.bind Utf8.decode?).isSome)
    (offered : Option (List Char)) : ¬ Refused own offered := by
  rintro ⟨textless, -⟩
  rw [textless] at text
  cases text

/-- What comes of offers to the variables of an environment: a variable refuses the first one made
to it, or each takes that. -/
inductive Taken (env : Environment) (offers : List (String × List Char)) :
    Except Unsettable Environment → Prop
  | refused (unsettable : Unsettable) (name : String)
      (refused : Refused (env.lookup name) (offers.lookup name)) :
      Taken env offers (.error unsettable)
  | all {env' : Environment}
      (fits : ∀ name, ¬ Refused (env.lookup name) (offers.lookup name))
      (lookup_eq : ∀ name,
        env'.lookup name = supplied (env.lookup name) (offers.lookup name)) :
      Taken env offers (.ok env')

namespace Taken

variable {env env' : Environment} {offers : List (String × List Char)}
  {taken : Except Unsettable Environment}

theorem nothing (env : Environment) : Taken env [] (.ok env) :=
  .all (fun _ => nofun) fun _ => (supplied_none _).symm

theorem exists_error_iff (h : Taken env offers taken) :
    (∃ u, taken = .error u) ↔ ∃ name, Refused (env.lookup name) (offers.lookup name) := by
  cases h with
  | refused u name refused => exact ⟨fun _ => ⟨name, refused⟩, fun _ => ⟨u, rfl⟩⟩
  | all fits _ => exact ⟨nofun, fun ⟨name, unfit⟩ => absurd unfit (fits name)⟩

/-- An offer concerns one variable. -/
theorem lookup_offer (key : String) (value : List Char) (name : String) :
    ((key, value) :: offers).lookup name =
      if name = key then some value else offers.lookup name := by
  rw [List.lookup_cons]
  split
  · next same => rw [if_pos (beq_iff_eq.mp same)]
  · next unlike => rw [if_neg (beq_eq_false_iff_ne.mp unlike)]

/-- One offer, which its variable takes. -/
theorem one {key : String} {value : List Char} (fits : ¬ Refused (env.lookup key) (some value))
    (mine : env'.lookup key = supplied (env.lookup key) (some value))
    (others : ∀ name, name ≠ key → env'.lookup name = env.lookup name) :
    Taken env [(key, value)] (.ok env') := by
  refine .all (fun name => ?_) fun name => ?_
  · rw [lookup_offer]
    split
    · next same => exact same ▸ fits
    · exact nofun
  · rw [lookup_offer]
    split
    · next same => exact same ▸ mine
    · next unlike => exact (others name unlike).trans (supplied_none _).symm

/-- One offer, then others. -/
theorem cons {key : String} {value : List Char} (first : Taken env [(key, value)] (.ok env'))
    (later : Taken env' offers taken) : Taken env ((key, value) :: offers) taken := by
  obtain _ | ⟨fits, lookup_eq⟩ := first
  have mine : env'.lookup key = supplied (env.lookup key) (some value) := by
    rw [lookup_eq, List.lookup_cons_self]
  have other {name : String} (unlike : name ≠ key) : env'.lookup name = env.lookup name := by
    rw [lookup_eq, lookup_offer, if_neg unlike]
    exact supplied_none _
  -- a variable that took the first offer is open to no other one
  have closed (offered : Option (List Char)) : ¬ Refused (env'.lookup key) offered :=
    not_refused_of_text (mine ▸ isSome_supplied _ value) offered
  cases later with
  | refused u name refused =>
    have unlike : name ≠ key := fun same => closed _ (same ▸ refused)
    refine .refused u name ?_
    rw [lookup_offer, if_neg unlike, ← other unlike]
    exact refused
  | all fits' lookup_eq' =>
    refine .all (fun name => ?_) fun name => ?_
    · rw [lookup_offer]
      split
      · next same =>
        have unrefused := fits key
        rw [List.lookup_cons_self] at unrefused
        exact same ▸ unrefused
      · next unlike => exact other unlike ▸ fits' name
    · rw [lookup_eq', lookup_offer]
      split
      · next same =>
        rw [same, mine]
        exact supplied_some ..
      · next unlike => rw [other unlike]

end Taken

/-- What an assignment does to the environment. -/
theorem taken_assign {key : String} (plain : '=' ∉ key.toList) (s : Scope) (value : List Char) :
    Taken s.env [(key, value)] ((s.assign key value).map Scope.env) := by
  rw [Scope.assign, Environment.text?, Environment.value?_eq_lookup _ plain]
  split
  · next text =>
    exact .one (not_refused_of_text text _) (if_pos text).symm fun _ _ => rfl
  · next textless =>
    split
    · next ended =>
      refine .refused _ key ?_
      rw [List.lookup_cons_self]
      exact .offer (Option.not_isSome_iff_eq_none.mp textless) ended
    · next free =>
      refine .one (fun ⟨_, ended⟩ => free ended) ?_ fun name unlike => ?_
      · rw [Environment.lookup_set, if_pos rfl, supplied, if_neg textless]
        rfl
      · rw [Environment.lookup_set, if_neg unlike]

theorem taken_assignAll (s : Scope) (lines : List (Option (List Char))) :
    Taken s.env (assignments s lines) ((assignAll s lines).map Prod.snd) := by
  -- for every scope, because a line sees what the lines before it assigned
  induction lines generalizing s with
  | nil => exact .nothing s.env
  | cons line rest ih =>
    cases line with
    | none => exact .nothing s.env
    | some line =>
      rw [assignAll, assignments]
      cases read : assignment? s line with
      | none => exact .nothing s.env
      | some assignment =>
        cases assignment with
        | nothing => exact ih s
        | assigns key value =>
          have first := taken_assign (plain_of_assignment? read) s value
          dsimp only
          cases set : s.assign key value with
          | error u =>
            rw [set] at first
            exact first
          | ok s' =>
            rw [set] at first
            exact first.cons (ih s')

/-- What the nearest file assigns. -/
def offers (f : Files) (working : Place) (env : Environment) : List (String × List Char) :=
  match find? f working.reverse with
  | some (_, content) => if f.canOpen then assignments ⟨env, []⟩ (lines content) else []
  | none => []

end DotFile

theorem taken_loadVariables (f : Files) (working : Place) (env : Environment) :
    DotFile.Taken env (DotFile.offers f working env)
      ((Settings.loadVariables f working env).map Prod.fst) := by
  rw [Settings.loadVariables, DotFile.offers]
  cases DotFile.find? f working.reverse with
  | none => exact .nothing env
  | some found =>
    dsimp only
    split
    · have taken := DotFile.taken_assignAll ⟨env, []⟩ (DotFile.lines found.2)
      rw [DotFile.load]
      cases loaded : DotFile.assignAll ⟨env, []⟩ (DotFile.lines found.2) with
      | error u =>
        rw [loaded] at taken
        exact taken
      | ok done =>
        rw [loaded] at taken
        exact taken
    · exact .nothing env

end DetectionLink
