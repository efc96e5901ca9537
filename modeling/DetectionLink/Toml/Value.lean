import DetectionLink.Number.Decimal

/-!
# Values and tables of a settings file

A table grows as the file is read, and how it came about decides what may still be added to it.

* `Value`: what a key can stand for;
* `Entries.assign`: a value for a dotted key;
* `Entries.openTable`, `openTables`: the effect of a header.
-/

namespace DetectionLink.Toml

/-- How a table came about. -/
inductive Origin
  /-- Written between braces: nothing is ever added. -/
  | inline
  /-- Named by a header. -/
  | header
  /-- On the way to the table of a header; a header of its own may still name it. -/
  | passed
  /-- On the way of a dotted key. -/
  | dotted
deriving DecidableEq

inductive Value
  | text (content : String)
  /-- A whole number, missing when what is written is not all digits. -/
  | integer (n : Option Int)
  /-- A number with a point or an exponent, missing when it is beyond the largest double. -/
  | real (x : Option Binary64)
  | boolean (b : Bool)
  | date
  | array (items : List Value)
  | table (origin : Origin) (entries : List (String × Value))
  /-- The tables of a repeated header, latest first. -/
  | tables (latestFirst : List (List (String × Value)))

/-- The keys of a table and what they stand for. -/
abbrev Entries := List (String × Value)

namespace Entries

/-- Adds a key that is not there yet, or changes what one stands for. -/
def update (key : String) (change : Option Value → Option Value) : Entries → Option Entries
  | [] => (change none).map fun value => [(key, value)]
  | (name, value) :: rest =>
    if name = key then (change (some value)).map fun value => (name, value) :: rest
    else (update key change rest).map ((name, value) :: ·)

/-- Changes the table at a path of keys. Tables missing on the way are made. A dotted key goes
through no table that a header names, unless the header is repeated; neither a dotted key nor a
header goes through a table between braces or through a plain value. Of repeated tables the latest
is on the way. -/
def within (dotted : Bool) (change : Origin → Entries → Option Entries) :
    List String → Origin → Entries → Option Entries
  | [], origin, entries => change origin entries
  | key :: path, _, entries =>
    let made : Origin := if dotted then .dotted else .passed
    entries.update key fun
      | none => (within dotted change path made []).map (.table made)
      | some (.table origin inner) =>
        if origin = .inline ∨ (dotted ∧ origin = .header) then none
        else (within dotted change path origin inner).map (.table origin)
      | some (.tables (latest :: earlier)) =>
        (within dotted change path .header latest).map fun latest => .tables (latest :: earlier)
      | some _ => none

/-- Adds a value under a key that is new. At the end of a dotted key stands a table that dotted
keys made, not one that headers passed through. -/
def add (dotted : Bool) (key : String) (value : Value) (origin : Origin) (entries : Entries) :
    Option Entries :=
  if dotted ∧ origin ≠ .dotted then none
  else entries.update key fun
    | none => some value
    | some _ => none

/-- A value for a key, dotted or not. -/
def assign (path : List String) (key : String) (value : Value) (origin : Origin)
    (entries : Entries) : Option Entries :=
  within true (add (!path.isEmpty) key value) path origin entries

/-- A header names a table: a new one, or one that headers only passed through so far. -/
def openTable (path : List String) (key : String) (entries : Entries) : Option Entries :=
  within false (fun _ parent => parent.update key fun
    | none => some (.table .header [])
    | some (.table .passed inner) => some (.table .header inner)
    | some _ => none) path .header entries

/-- A repeated header starts another table. -/
def openTables (path : List String) (key : String) (entries : Entries) : Option Entries :=
  within false (fun _ parent => parent.update key fun
    | none => some (.tables [[]])
    | some (.tables earlier) => some (.tables ([] :: earlier))
    | some _ => none) path .header entries

end Entries
end DetectionLink.Toml
