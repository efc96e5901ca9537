import DetectionLink.Json.Token

/-!
# The structure of a JSON text

Tokens are put together on a stack of open containers, so that a text may nest as deep as it
likes. A tree is a text that is well formed; whether its numbers, strings and depth are
acceptable is for the reader of the tree to say.

* `Tree`: a well-formed text;
* `Builder.step`: the effect of one token;
* `Tree.ofBytes?`: the tree of a line.
-/

namespace DetectionLink.Json

/-- A well-formed JSON text. A key or a string that cannot be decoded has no text. -/
inductive Tree
  | null
  | bool (value : Bool)
  | number (text : NumberText)
  | string (text : Option String)
  | array (items : List Tree)
  | object (members : List (Option String × Tree))

namespace Builder

/-- An open container with what it holds so far, latest first; `member` is an object whose next
key is known. -/
inductive Frame
  | array (items : List Tree)
  | object (members : List (Option String × Tree))
  | member (members : List (Option String × Tree)) (key : Option String)

/-- What may come next. -/
inductive Expected
  | value
  | valueOrClose
  | key
  | keyOrClose
  | colon
  | separator
  | nothing (tree : Tree)

structure State where
  stack : List Frame
  expected : Expected

def start : State := ⟨[], .value⟩

/-- A complete value takes its place in the innermost open container. -/
def supply (tree : Tree) : List Frame → State
  | [] => ⟨[], .nothing tree⟩
  | .array items :: rest => ⟨.array (tree :: items) :: rest, .separator⟩
  | .member members key :: rest => ⟨.object ((key, tree) :: members) :: rest, .separator⟩
  | .object members :: rest => ⟨.object members :: rest, .separator⟩

/-- The token that starts a value. -/
def open? (stack : List Frame) : Token → Option State
  | .openArray => some ⟨.array [] :: stack, .valueOrClose⟩
  | .openObject => some ⟨.object [] :: stack, .keyOrClose⟩
  | .null => some (supply .null stack)
  | .bool value => some (supply (.bool value) stack)
  | .number text => some (supply (.number text) stack)
  | .string text => some (supply (.string text) stack)
  | _ => none

/-- The token that ends the innermost container. -/
def close? : List Frame → Token → Option State
  | .array items :: rest, .closeArray => some (supply (.array items.reverse) rest)
  | .object members :: rest, .closeObject => some (supply (.object members.reverse) rest)
  | _, _ => none

def step (s : State) (token : Token) : Option State :=
  match s.expected, token, s.stack with
  | .value, token, stack => open? stack token
  | .valueOrClose, .closeArray, stack => close? stack .closeArray
  | .valueOrClose, token, stack => open? stack token
  | .key, .string key, .object members :: rest => some ⟨.member members key :: rest, .colon⟩
  | .keyOrClose, .string key, .object members :: rest =>
    some ⟨.member members key :: rest, .colon⟩
  | .keyOrClose, .closeObject, stack => close? stack .closeObject
  | .colon, .colon, stack => some ⟨stack, .value⟩
  | .separator, .comma, .array items :: rest => some ⟨.array items :: rest, .value⟩
  | .separator, .comma, .object members :: rest => some ⟨.object members :: rest, .key⟩
  | .separator, token, stack => close? stack token
  | _, _, _ => none

def run (s : State) : List Token → Option State
  | [] => some s
  | token :: rest =>
    match step s token with
    | some s => run s rest
    | none => none

def finish? (s : State) : Option Tree :=
  match s.expected with
  | .nothing tree => some tree
  | _ => none

end Builder

namespace Tree

/-- The tree that tokens make, none when they make none or more than one. -/
def ofTokens? (tokens : List Token) : Option Tree :=
  (Builder.run Builder.start tokens).bind Builder.finish?

/-- The tree of a line. -/
def ofBytes? (line : Bytes) : Option Tree := (tokens? (Utf8.scalars line)).bind ofTokens?

end Tree
end DetectionLink.Json
