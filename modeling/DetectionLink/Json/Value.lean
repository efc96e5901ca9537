import DetectionLink.Json.Number
import DetectionLink.Json.Tree

/-!
# JSON values

A value is a tree whose strings decode, whose numbers can be read, and which nests at most `127`
deep. Members of an object are held once per key, in the order of the keys'
code points, which is the order of their UTF-8 bytes.

* `Value.ofTree?`, `Value.ofBytes?`: reading;
* `Value.member?`: a member by key;
* `Value.text`: the compact text.
-/

namespace DetectionLink.Json

/-! ## Strings -/

/-- Two hexadecimal digits. -/
def hexPair (n : Nat) : String :=
  String.ofList ([n / 16, n % 16].flatMap (Nat.toDigits 16))

/-- A character inside quotes: the quote, the backslash and the controls below the space are
escaped, and nothing else is. -/
def escapedChar (c : Char) : String :=
  if c = '"' then "\\\""
  else if c = '\\' then "\\\\"
  else if c = '\n' then "\\n"
  else if c = '\r' then "\\r"
  else if c = '\t' then "\\t"
  else if c = '\x08' then "\\b"
  else if c = '\x0c' then "\\f"
  else if c.toNat < 0x20 then "\\u00" ++ hexPair c.toNat
  else c.toString

def stringText (s : String) : String := "\"" ++ String.join (s.toList.map escapedChar) ++ "\""

/-! ## Values -/

inductive Value
  | null
  | bool (value : Bool)
  | number (number : Number)
  | string (text : String)
  | array (items : List Value)
  | object (members : List (String × Value))

instance : Inhabited Value := ⟨.null⟩

namespace Value

/-- Keeps the later of neighbours with one key. -/
def dropRepeated : List (String × Value) → List (String × Value)
  | a :: b :: rest => if a.1 = b.1 then dropRepeated (b :: rest) else a :: dropRepeated (b :: rest)
  | members => members

/-- Members in key order. Of members with one key the last written counts: the sort is stable, so
it comes last among them. -/
def ordered (members : List (String × Value)) : List (String × Value) :=
  dropRepeated (members.mergeSort fun a b => !(decide (b.1 < a.1)))

/-- How deep arrays and objects may nest. -/
def maxDepth : Nat := 127

/-- The value of a tree that may nest `depth` deep. -/
def ofTreeWithin? : Nat → Tree → Option Value
  | _, .null => some .null
  | _, .bool b => some (.bool b)
  | _, .number text => (Number.ofText? text).map .number
  | _, .string text => text.map .string
  | 0, .array _ => none
  | 0, .object _ => none
  | depth + 1, .array items => (items.mapM (ofTreeWithin? depth)).map .array
  | depth + 1, .object members =>
    (members.mapM fun (member : Option String × Tree) => do
      let key ← member.1
      let value ← ofTreeWithin? depth member.2
      pure (key, value)).map fun members => .object (ordered members)

def ofTree? (tree : Tree) : Option Value := ofTreeWithin? maxDepth tree

/-- The value of a line; none when the line is no JSON text or not an acceptable one. -/
def ofBytes? (line : Bytes) : Option Value := (Tree.ofBytes? line).bind ofTree?

def isObject : Value → Bool
  | .object _ => true
  | _ => false

/-- The member of an object with a key. -/
def member? (key : String) : Value → Option Value
  | .object members => members.lookup key
  | _ => none

def string? : Value → Option String
  | .string s => some s
  | _ => none

mutual

/-- The compact text of a value. -/
def text : Value → String
  | .null => "null"
  | .bool b => if b then "true" else "false"
  | .number n => n.text
  | .string s => stringText s
  | .array items => "[" ++ ",".intercalate (itemTexts items) ++ "]"
  | .object members => "\x7b" ++ ",".intercalate (memberTexts members) ++ "\x7d"

/-- The texts of an array's items. -/
def itemTexts : List Value → List String
  | [] => []
  | item :: rest => item.text :: itemTexts rest

/-- The texts of an object's members. -/
def memberTexts : List (String × Value) → List String
  | [] => []
  | (key, value) :: rest => (stringText key ++ ":" ++ value.text) :: memberTexts rest

end

end Value
end DetectionLink.Json
