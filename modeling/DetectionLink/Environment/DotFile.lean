import DetectionLink.Environment.Basic
import DetectionLink.Text.Alphanumeric
import DetectionLink.Text.Blank
import DetectionLink.Text.Quoted

/-!
# Variables from a file

A file `.env` in the working directory, or in the nearest directory above that has one, supplies
variables that are not set yet. Its lines assign one variable each; quotes keep blanks and line
ends, a dollar sign puts in the value of another variable.

* `logicalLines`: the lines of the file, a quoted value with line ends being one line;
* `assignment?`: what a line assigns;
* `DotFile.load`: the environment after the file. The first line that is none ends the reading,
  and what came before it stays. A value that no variable can hold stops the process.
-/

namespace DetectionLink
namespace DotFile

/-! ## Lines -/

/-- Where a line stands after some of its characters. -/
inductive LineMode
  | outside
  /-- After a blank outside quotes, where a comment may start. -/
  | blank
  | escaped
  | weak
  | weakEscaped
  | strong
  | strongEscaped
deriving DecidableEq

namespace LineMode

def outsideNext (c : Char) : LineMode :=
  if c = '\\' then escaped else if c = '"' then weak else if c = '\'' then strong else outside

/-- The mode after a character that starts no comment. -/
def next : LineMode → Char → LineMode
  | blank, c => outsideNext c
  | outside, c => if isBlank c ∧ c ≠ '\n' ∧ c ≠ '\r' then blank else outsideNext c
  | escaped, _ => outside
  | weak, c => if c = '\\' then weakEscaped else if c = '"' then outside else weak
  | weakEscaped, _ => weak
  | strong, c => if c = '\\' then strongEscaped else if c = '\'' then outside else strong
  | strongEscaped, _ => strong

end LineMode

/-- How a piece of a line ends. -/
inductive PieceEnd
  /-- With the mode after all its characters. -/
  | mode (m : LineMode)
  /-- With a comment after these characters. -/
  | comment (before : List Char)

/-- Reads one piece; `before` are its characters so far, latest first. -/
def pieceEnd (m : LineMode) (before : List Char) : List Char → PieceEnd
  | [] => .mode m
  | c :: rest =>
    if m = .blank ∧ c = '#' then .comment before.reverse
    else pieceEnd (m.next c) (c :: before) rest

/-- A line without its line end; its characters are given latest first. -/
def withoutBreak : List Char → List Char
  | '\n' :: '\r' :: rest => rest.reverse
  | '\n' :: rest => rest.reverse
  | line => line.reverse

/-- The lines of a file, a quoted value with line ends in one of them; `held` is a line so far,
latest first. A line that is no text, or a value that does not end, is none. -/
def logicalLines (m : LineMode) (held : List Char) :
    List (Option (List Char)) → List (Option (List Char))
  | [] => if m = .outside then [] else [none]
  | none :: _ => [none]
  | some piece :: rest =>
    if held = [] ∧ (piece.dropWhile isBlank).head? = some '#' then
      some [] :: logicalLines .outside [] rest
    else match pieceEnd m [] piece with
      | .comment before => some (held.reverse ++ before) :: logicalLines .outside [] rest
      | .mode .outside =>
        some (withoutBreak (piece.reverse ++ held)) :: logicalLines .outside [] rest
      | .mode m => logicalLines m (piece.reverse ++ held) rest

/-- Cuts after every line feed. -/
def pieces (current : Bytes) : Bytes → List Bytes
  | [] => if current = [] then [] else [current.reverse]
  | b :: rest =>
    if b = 10 then (b :: current).reverse :: pieces [] rest else pieces (b :: current) rest

/-- The bytes of a file without a byte order mark at their front. -/
def withoutMark : Bytes → Bytes
  | 0xEF :: 0xBB :: 0xBF :: rest => rest
  | content => content

def lines (content : Bytes) : List (Option (List Char)) :=
  logicalLines .outside [] ((pieces [] (withoutMark content)).map Utf8.decode?)

/-! ## Values -/

/-- The values that variables in a value stand for: those of the environment, then those that the
file assigned. -/
structure Scope where
  env : Environment
  assigned : List (String × List Char)

namespace Scope

def value (s : Scope) (name : List Char) : List Char :=
  let name := String.ofList name
  match s.env.text? name with
  | some value => value
  | none => (s.assigned.lookup name).getD []

end Scope

inductive ValueMode
  | plain
  | strong
  | escaped
  /-- After a dollar sign: the name so far, latest first. -/
  | name (text : List Char)
  /-- After a dollar sign and a brace. -/
  | block (text : List Char)
  /-- After a blank that ends the value. -/
  | ending
  | comment
deriving DecidableEq

structure ValueState where
  /-- The value so far, latest first. -/
  done : List Char
  /-- Between double quotes. -/
  weak : Bool
  mode : ValueMode

namespace ValueState

def start : ValueState := ⟨[], false, .plain⟩

def push (s : ValueState) (c : Char) : ValueState := { s with done := c :: s.done, mode := .plain }

/-- Puts in the value of a variable. -/
def substitute (scope : Scope) (name : List Char) (s : ValueState) : ValueState :=
  { s with done := (scope.value name.reverse).reverse ++ s.done, mode := .plain }

def plain (s : ValueState) (c : Char) : ValueState :=
  if c = '$' then { s with mode := .name [] }
  else if c = '\\' then { s with mode := .escaped }
  else if c = '"' then { s with weak := !s.weak }
  else if s.weak then s.push c
  else if c = '\'' then { s with mode := .strong }
  else if c = ' ' ∨ c = '\t' then { s with mode := .ending }
  else s.push c

/-- A character after a name that it does not go on. It is taken as it is, whatever it is. -/
def afterName (scope : Scope) (name : List Char) (s : ValueState) (c : Char) : ValueState :=
  if c = '$' then { s.substitute scope name with mode := .name [] }
  else (s.substitute scope name).push c

def step (scope : Scope) (s : ValueState) (c : Char) : Option ValueState :=
  match s.mode with
  | .plain => some (s.plain c)
  | .comment => some s
  | .ending =>
    if c = ' ' ∨ c = '\t' then some s
    else if c = '#' then some { s with mode := .comment }
    else none
  | .escaped =>
    if c = 'n' then some (s.push '\n')
    else if c = '\\' ∨ c = '\'' ∨ c = '"' ∨ c = '$' ∨ c = ' ' then some (s.push c)
    else none
  | .strong =>
    if c = '\'' then some { s with mode := .plain }
    else some { s with done := c :: s.done }
  | .name text =>
    if isAlphanumeric c then some { s with mode := .name (c :: text) }
    else if c = '{' ∧ text = [] then some { s with mode := .block [] }
    else some (s.afterName scope text c)
  | .block text =>
    if c = '}' then some (s.substitute scope text) else some { s with mode := .block (c :: text) }

/-- The value at the end of its line; open quotes and braces make it none. -/
def finish? (scope : Scope) (s : ValueState) : Option (List Char) :=
  match s.mode with
  | .strong | .block _ => none
  | .name text => if s.weak then none else some (s.substitute scope text).done.reverse
  | _ => if s.weak then none else some s.done.reverse

end ValueState

/-- The value that a text stands for. -/
def value? (scope : Scope) (text : List Char) : Option (List Char) :=
  (text.foldlM (ValueState.step scope) .start).bind (ValueState.finish? scope)

/-! ## Assignments -/

def startsKey (c : Char) : Bool := c.isAlpha || c = '_'

def isKeyChar (c : Char) : Bool := c.isAlphanum || c = '_' || c = '.'

/-- A key at the front, and the rest behind it and behind blanks. -/
def key? (cs : List Char) : Option (String × List Char) :=
  if cs.head?.any startsKey then
    let (key, rest) := cs.span isKeyChar
    some (String.ofList key, rest.dropWhile isBlank)
  else none

/-- The key and the text behind its equals sign. The word `export` may stand in front of a key, and
is a key itself when the sign follows. -/
def sides? (cs : List Char) : Option (String × List Char) := do
  let (key, rest) ← key? cs
  match rest with
  | '=' :: rest => pure (key, rest.dropWhile isBlank)
  | _ =>
    if key = "export" then
      match ← key? rest with
      | (key, '=' :: rest) => pure (key, rest.dropWhile isBlank)
      | _ => none
    else none

/-- What a line does. -/
inductive Assignment
  /-- Nothing stands on it. -/
  | nothing
  | assigns (key : String) (value : List Char)

/-- What a line assigns, none when it is no assignment. -/
def assignment? (scope : Scope) (line : List Char) : Option Assignment :=
  match trim line with
  | [] | '#' :: _ => some .nothing
  | text => do
    let (key, value) ← sides? text
    match value with
    | [] | '#' :: _ => pure (.assigns key [])
    | value => pure (.assigns key (← value? scope value))

/-! ## Loading -/

/-- A variable and a value that it was to be set to, but cannot hold. -/
structure Unsettable where
  key : String
  value : List Char
deriving DecidableEq

def Unsettable.text (u : Unsettable) : String :=
  s!"failed to set environment variable `{quoted u.key.toList}` to `{quoted u.value}`: " ++
    FileFault.zeroByte.text

/-- The character that ends a variable, and so is in none. -/
def terminator : Char := '\x00'

/-- The scope after an assignment: a variable that has a text value keeps it, whatever is assigned
to it. Any other is set, which a value with the terminator in it cannot be. -/
def Scope.assign (s : Scope) (key : String) (value : List Char) : Except Unsettable Scope :=
  let assigned := (key, value) :: s.assigned
  if (s.env.text? key).isSome then .ok ⟨s.env, assigned⟩
  else if terminator ∈ value then .error ⟨key, value⟩
  else .ok ⟨s.env.set key (Utf8.encode value), assigned⟩

/-- Assigns line by line, and says whether all lines were read. -/
def assignAll (s : Scope) : List (Option (List Char)) → Except Unsettable (Bool × Environment)
  | [] => .ok (true, s.env)
  | none :: _ => .ok (false, s.env)
  | some line :: rest =>
    match assignment? s line with
    | none => .ok (false, s.env)
    | some .nothing => assignAll s rest
    | some (.assigns key value) =>
      match s.assign key value with
      | .ok s => assignAll s rest
      | .error unsettable => .error unsettable

/-- The environment after a file of this content, and whether all of it was read. -/
def load (env : Environment) (content : Bytes) : Except Unsettable (Bool × Environment) :=
  assignAll ⟨env, []⟩ (lines content)

def fileName : Bytes := Utf8.ofString ".env"

/-- The nearest file of the name, in a directory given by its names from the innermost out. -/
def find? (f : Files) : List Bytes → Option (Place × Bytes)
  | [] => fileAt []
  | name :: outer =>
    match fileAt (name :: outer).reverse with
    | some found => some found
    | none => find? f outer
where
  fileAt (directory : Place) : Option (Place × Bytes) :=
    match f.node? (directory ++ [fileName]) with
    | some (.file content) => some (directory ++ [fileName], content)
    | _ => none

end DotFile
end DetectionLink
