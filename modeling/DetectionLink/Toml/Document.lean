import DetectionLink.Toml.Scalar
import DetectionLink.Toml.Token

/-!
# A whole settings file

Tokens are put together by a machine: headers and keys on lines of their own, values that may hold
further values. Containers that are open stand on a stack, at most `maxDepth` of them, and a key
has at most `maxParts` parts.

* `Document.step`: the effect of one token;
* `document?`: the entries of a text.
-/

namespace DetectionLink.Toml

/-- How deep containers may nest. -/
def maxDepth : Nat := 80

/-- How many parts a key may have. -/
def maxParts : Nat := 80

namespace Document

/-- An open container with what it holds so far. -/
inductive Frame
  /-- An array: its items, latest first. -/
  | array (items : List Value)
  /-- A table between braces. -/
  | braces (entries : Entries)
  /-- A table between braces whose next value has a key. -/
  | member (entries : Entries) (path : List String) (key : String)

/-- A key being read: the parts before its last dot, latest first, and the part after it. -/
structure KeySoFar where
  path : List String
  last : Option String
deriving DecidableEq

namespace KeySoFar

def start : KeySoFar := ⟨[], none⟩

end KeySoFar

/-- What a header names. -/
inductive Heading
  | table
  | tables
deriving DecidableEq

/-- What may come next. -/
inductive Mode
  /-- A key, a header or nothing on a new line. -/
  | lineStart
  /-- Only a comment. -/
  | lineEnd
  /-- Right after an opening bracket of a header. -/
  | headerStart
  | headerKey (heading : Heading) (key : KeySoFar)
  /-- Right before the second closing bracket of a repeated header. -/
  | headerEnd (key : KeySoFar)
  | lineKey (key : KeySoFar)
  | value
  /-- A value between braces, which may stand on a later line than its key. -/
  | memberValue
  /-- A value or the end of the array. -/
  | item
  /-- A comma or the end of the container. -/
  | separator
  /-- A key or the end of the table between braces. -/
  | braceStart
  | braceKey (key : KeySoFar)
  /-- Only the equals sign of a key between braces. -/
  | braceEquals (key : KeySoFar)
  /-- An unquoted value: its characters, latest first. -/
  | scalar (text : List Char)
  /-- Blanks behind an unquoted value, which goes on if an atom follows them. -/
  | scalarBlank (text blanks : List Char)

structure State where
  root : Entries
  /-- The table that keys belong to: the path of its header and its last key. -/
  header : Option (List String × String)
  /-- The key on the line whose value is being read. -/
  pending : List String × String
  stack : List Frame
  mode : Mode

def start : State := ⟨[], none, ([], ""), [], .lineStart⟩

/-! ## Keys -/

def isBare (c : Char) : Bool := c.isAlphanum || c = '-' || c = '_'

/-- The part of a key that a token is. -/
def keyPart? : Token → Option String
  | .text content false => some content
  | .atom text => if text.all isBare then some (String.ofList text) else none
  | _ => none

/-- A token inside a key, other than the one that ends it. -/
def key? (k : KeySoFar) (token : Token) : Option KeySoFar :=
  match token, k.last with
  | .blank _, _ => some k
  | .dot, some last =>
    if k.path.length + 1 < maxParts then some ⟨last :: k.path, none⟩ else none
  | token, none => (keyPart? token).map fun part => ⟨k.path, some part⟩
  | _, some _ => none

/-! ## Values -/

/-- A value for a key of the table that the last header named. -/
def assignLine (s : State) (value : Value) : Option State :=
  let (path, key) := s.pending
  let assigned :=
    match s.header with
    | none => s.root.assign path key value .header
    | some (place, name) =>
      s.root.within false (Entries.assign path key value) (place ++ [name]) .header
  assigned.map fun root => { s with root, mode := .lineEnd }

/-- A complete value takes its place. -/
def supply (s : State) (value : Value) : Option State :=
  match s.stack with
  | [] => assignLine s value
  | .array items :: rest =>
    some { s with stack := .array (value :: items) :: rest, mode := .separator }
  | .member entries path key :: rest =>
    (entries.assign path key value .inline).map fun entries =>
      { s with stack := .braces entries :: rest, mode := .separator }
  | .braces _ :: _ => none

def push (s : State) (frame : Frame) (mode : Mode) : Option State :=
  if s.stack.length < maxDepth then some { s with stack := frame :: s.stack, mode } else none

/-- The token that starts a value. -/
def open? (s : State) : Token → Option State
  | .text content _ => supply s (.text content)
  | .atom text => some { s with mode := .scalar text.reverse }
  | .openBracket => push s (.array []) .item
  | .openBrace => push s (.braces []) .braceStart
  | _ => none

/-- The token that ends the innermost container. -/
def close? (s : State) (token : Token) : Option State :=
  match s.stack, token with
  | .array items :: rest, .closeBracket => supply { s with stack := rest } (.array items.reverse)
  | .braces entries :: rest, .closeBrace =>
    supply { s with stack := rest } (.table .inline entries)
  | _, _ => none

/-- The table between braces gets a key, whose value comes next. -/
def openMember (s : State) (k : KeySoFar) : Option State :=
  match k.last, s.stack with
  | some last, .braces entries :: rest =>
    some { s with stack := .member entries k.path.reverse last :: rest, mode := .memberValue }
  | _, _ => none

/-- Whether a token only separates others inside a container. -/
def isSpacing : Token → Bool
  | .blank _ | .newline | .comment => true
  | _ => false

/-! ## The machine -/

def openHeader (s : State) (heading : Heading) (k : KeySoFar) : Option State :=
  k.last.bind fun last =>
    let path := k.path.reverse
    let root := match heading with
      | .table => s.root.openTable path last
      | .tables => s.root.openTables path last
    root.map fun root => { s with root, header := some (path, last), mode := .lineEnd }

/-- A token after a value or a header. -/
def afterLine (s : State) : Token → Option State
  | .blank _ | .comment => some s
  | .newline => some { s with mode := .lineStart }
  | _ => none

/-- A token after a value inside a container. -/
def afterItem (s : State) (token : Token) : Option State :=
  if isSpacing token then some s
  else match token, s.stack with
    | .comma, .array _ :: _ => some { s with mode := .item }
    | .comma, .braces _ :: _ => some { s with mode := .braceStart }
    | token, _ => close? s token

/-- A token after a complete value. -/
def afterValue (s : State) (token : Token) : Option State :=
  match s.mode with
  | .lineEnd => afterLine s token
  | _ => afterItem s token

/-- The end of an unquoted value. -/
def endScalar (s : State) (text : List Char) : Option State :=
  (scalar? text.reverse).bind (supply s)

def step (s : State) (token : Token) : Option State :=
  match s.mode with
  | .lineStart =>
    match token with
    | .blank _ | .comment | .newline => some s
    | .openBracket => some { s with mode := .headerStart }
    | token => (key? .start token).map fun k => { s with mode := .lineKey k }
  | .lineEnd => afterLine s token
  | .headerStart =>
    match token with
    | .openBracket => some { s with mode := .headerKey .tables .start }
    | token => (key? .start token).map fun k => { s with mode := .headerKey .table k }
  | .headerKey heading k =>
    match heading, token with
    | .table, .closeBracket => openHeader s .table k
    | .tables, .closeBracket => some { s with mode := .headerEnd k }
    | heading, token => (key? k token).map fun k => { s with mode := .headerKey heading k }
  | .headerEnd k => if token = .closeBracket then openHeader s .tables k else none
  | .lineKey k =>
    match token, k.last with
    | .equals, some last => some { s with pending := (k.path.reverse, last), mode := .value }
    | token, _ => (key? k token).map fun k => { s with mode := .lineKey k }
  | .value =>
    match token with
    | .blank _ => some s
    | token => open? s token
  | .memberValue => if isSpacing token then some s else open? s token
  | .item =>
    if isSpacing token then some s
    else if token = .closeBracket then close? s token
    else open? s token
  | .separator => afterItem s token
  | .braceStart =>
    if isSpacing token then some s
    else if token = .closeBrace then close? s token
    else (key? .start token).map fun k => { s with mode := .braceKey k }
  | .braceKey k =>
    match token with
    | .equals => openMember s k
    | .newline | .comment => if k.last.isSome then some { s with mode := .braceEquals k } else none
    | token => (key? k token).map fun k => { s with mode := .braceKey k }
  | .braceEquals k =>
    if isSpacing token then some s
    else if token = .equals then openMember s k
    else none
  | .scalar text =>
    match token with
    | .atom more => some { s with mode := .scalar (more.reverse ++ text) }
    | .dot => some { s with mode := .scalar ('.' :: text) }
    | .blank blanks => some { s with mode := .scalarBlank text blanks }
    | token => (endScalar s text).bind fun s => afterValue s token
  | .scalarBlank text blanks =>
    match token with
    | .atom more => some { s with mode := .scalar (more.reverse ++ blanks.reverse ++ text) }
    | token => (endScalar s text).bind fun s => afterValue s token

/-- The entries at the end of the file, which ends its last line. -/
def finish? (s : State) : Option Entries :=
  (step s .newline).bind fun s =>
    match s.mode with
    | .lineStart => some s.root
    | _ => none

end Document

/-- The entries of a text, none when it is no settings file. -/
def document? (text : List Char) : Option Entries :=
  (tokens? text).bind fun tokens =>
    (tokens.foldlM Document.step Document.start).bind Document.finish?

end DetectionLink.Toml
