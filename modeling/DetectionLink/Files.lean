import DetectionLink.Text.Utf8

/-!
# Files

What the client sees of a file system: regular files, directories and sockets, and the kinds of
failure that reach a message. Paths are bytes; names between slashes are looked up one by one, so
that a path through anything but a directory fails where it really does.

* `Files.node?`: what stands at a place;
* `Files.locate`: the place a path leads to;
* `Files.readText`, `makeDirectories`, `append`: the operations.
-/

namespace DetectionLink

/-- What can stand at a place. -/
inductive FileNode
  | file (content : Bytes)
  | directory
  | socket (listening : Bool)
deriving DecidableEq

/-- Why an operation on files fails. -/
inductive FileFault
  | missing
  | exists
  | notDirectory
  | isDirectory
  | noDevice
  | tooManyOpen
  | nameTooLong
  | zeroByte
  | notText
deriving DecidableEq

namespace FileFault

def text : FileFault → String
  | missing => "No such file or directory (os error 2)"
  | noDevice => "No such device or address (os error 6)"
  | «exists» => "File exists (os error 17)"
  | notDirectory => "Not a directory (os error 20)"
  | isDirectory => "Is a directory (os error 21)"
  | tooManyOpen => "Too many open files (os error 24)"
  | nameTooLong => "File name too long (os error 36)"
  | zeroByte => "file name contained an unexpected NUL byte"
  | notText => "stream did not contain valid UTF-8"

end FileFault

/-- The names on the way from the root to a place. -/
abbrev Place := List Bytes

/-! ## Paths -/

namespace Path

def slash : UInt8 := 47

def isAbsolute (path : Bytes) : Bool := path.head? = some slash

/-- The names of a path, empty ones where slashes meet or stand at an end. -/
def names (path : Bytes) : List Bytes := path.splitOn slash

/-- Names without the empty ones at the end. -/
def trimmed (names : List Bytes) : List Bytes := (names.reverse.dropWhile (· = [])).reverse

/-- The names that matter: empty ones do not, nor does a single dot behind another name or a
slash. -/
def parts (path : Bytes) : List Bytes :=
  match names path with
  | [46] :: rest => [46] :: rest.filter matters
  | names => names.filter matters
where
  matters (name : Bytes) : Bool := name ≠ [] && name ≠ [46]

/-- A path and those above it, the longest first, without the root. -/
def ancestors (path : Bytes) : List Bytes :=
  let parts := parts path
  let lead := if isAbsolute path then [slash] else []
  let above := (List.range (parts.length - 1)).map fun (dropped : Nat) =>
    lead ++ [slash].intercalate (parts.take (parts.length - 1 - dropped))
  if parts = [] then [] else path :: above

/-- `name` inside `base`: an absolute name stands for itself, and no slash is added after one. -/
def join (base name : Bytes) : Bytes :=
  if isAbsolute name then name
  else if base = [] ∨ base.getLast? = some slash then base ++ name
  else base ++ [slash] ++ name

end Path

structure Files where
  nodes : List (Place × FileNode)
  /-- Whether a file that exists can be opened for reading. -/
  canOpen : Bool

namespace Files

def empty : Files := ⟨[], true⟩

/-- What stands at a place. A directory exists as soon as something stands below it. -/
def node? (f : Files) (place : Place) : Option FileNode :=
  match f.nodes.lookup place with
  | some node => some node
  | none =>
    if place = [] ∨ f.nodes.any (fun entry => place.isPrefixOf entry.1) then some .directory
    else none

def remove (f : Files) (place : Place) : Files :=
  { f with nodes := f.nodes.filter fun entry => entry.1 ≠ place }

def put (f : Files) (place : Place) (node : FileNode) : Files :=
  { f.remove place with nodes := (place, node) :: (f.remove place).nodes }

/-! ## Looking up -/

/-- The longest name a directory holds. -/
def maxName : Nat := 255

/-- The longest path that is looked up. -/
def maxPath : Nat := 4095

/-- One name further. Whether the place reached exists is not asked until the next step. -/
def step (f : Files) (place : Place) (name : Bytes) : Except FileFault Place :=
  match f.node? place with
  | none => .error .missing
  | some .directory =>
    if name = [] ∨ name = [46] then .ok place
    else if name = [46, 46] then .ok place.dropLast
    else if maxName < name.length then .error .nameTooLong
    else .ok (place ++ [name])
  | some _ => .error .notDirectory

/-- The place of a path, looked up from a working directory unless it is absolute. -/
def locate (f : Files) (working : Place) (path : Bytes) : Except FileFault Place :=
  if path.contains 0 then .error .zeroByte
  else if path = [] then .error .missing
  else if maxPath < path.length then .error .nameTooLong
  else (Path.names path).foldlM f.step (if Path.isAbsolute path then [] else working)

/-- What a path leads to. -/
def lookup (f : Files) (working : Place) (path : Bytes) : Except FileFault FileNode := do
  let place ← f.locate working path
  match f.node? place with
  | some node => .ok node
  | none => .error .missing

def pathExists (f : Files) (working : Place) (path : Bytes) : Bool :=
  (f.lookup working path).toBool

/-! ## Reading -/

/-- The whole content of a file. -/
def readBytes (f : Files) (working : Place) (path : Bytes) : Except FileFault Bytes :=
  match f.lookup working path with
  | .error e => .error e
  | .ok node =>
    match node, f.canOpen with
    | _, false => .error .tooManyOpen
    | .socket _, true => .error .noDevice
    | .directory, true => .error .isDirectory
    | .file content, true => .ok content

/-- The whole content of a text file. -/
def readText (f : Files) (working : Place) (path : Bytes) : Except FileFault (List Char) :=
  match f.readBytes working path with
  | .error e => .error e
  | .ok content =>
    match Utf8.decode? content with
    | some text => .ok text
    | none => .error .notText

/-! ## Writing -/

/-- Makes one directory. Slashes behind its name do not matter, and a name that always exists names
nothing that could be made. -/
def makeDirectory (f : Files) (working : Place) (path : Bytes) : Except FileFault Files := do
  if path.contains 0 then .error .zeroByte
  else if path = [] then .error .missing
  else if maxPath < path.length then .error .nameTooLong
  else
    let names := Path.trimmed (Path.names path)
    let parent ← names.dropLast.foldlM f.step (if Path.isAbsolute path then [] else working)
    let place ← f.step parent (names.getLast?.getD [])
    if place.length ≤ parent.length ∨ (f.node? place).isSome then .error .exists
    else .ok (f.put place .directory)

/-- Whether a path leads to a directory. -/
def isDirectory (f : Files) (working : Place) (path : Bytes) : Bool :=
  match f.lookup working path with
  | .ok .directory => true
  | _ => false

/-- Makes a directory that may be there by now. -/
def ensureDirectory (f : Files) (working : Place) (path : Bytes) : Except FileFault Files :=
  match f.makeDirectory working path with
  | .error .exists => if f.isDirectory working path then .ok f else .error .exists
  | made => made

/-- Makes the first of some paths, each above the one before it; when something above is missing,
that is made first. -/
def makeFrom (f : Files) (working : Place) : List Bytes → Except FileFault Files
  | [] => .ok f
  | path :: shorter =>
    match f.ensureDirectory working path with
    | .error .missing => do (← f.makeFrom working shorter).ensureDirectory working path
    | made => made

/-- Makes a directory and those above it that are missing. The path is used as it stands: one that
ends in a dot is only good when the directory is there. -/
def makeDirectories (f : Files) (working : Place) (path : Bytes) : Except FileFault Files :=
  f.makeFrom working (Path.ancestors path)

/-- The place of a file that can be appended to; it need not exist yet. -/
def openAppend (f : Files) (working : Place) (path : Bytes) : Except FileFault Place := do
  let place ← f.locate working path
  match f.node? place with
  | some .directory => .error .isDirectory
  | some (.socket _) => .error .noDevice
  | some (.file _) | none => .ok place

/-- Adds to the end of a file. -/
def append (f : Files) (place : Place) (more : Bytes) : Files :=
  match f.node? place with
  | some (.file content) => f.put place (.file (content ++ more))
  | _ => f.put place (.file more)

end Files
end DetectionLink
