import DetectionLink.Files

/-!
# Environment variables

* `Environment`: variables and their values, which need not be text;
* `UserDirectories`: where a platform keeps a user's settings and data, given an environment;
* `UserDirectories.ofAccount`: the directories of a user with an account.
-/

namespace DetectionLink

/-- Variables and their values. The first entry of a name counts. -/
abbrev Environment := List (String × Bytes)

namespace Environment

/-- What a name with an equals sign in it stands for. A variable is kept as its name, an equals sign
and its value in one text, and what is looked for there is the name and another equals sign. So
the part behind the first sign is looked for at the front of the value. -/
def inside? (env : Environment) (name : String) : Option Bytes :=
  match name.toList.span (· ≠ '=') with
  | (key, _ :: front) =>
    (env.lookup (String.ofList key)).bind (Utf8.encode (front ++ ['='])).isPrefixOf?
  | (_, []) => none

def value? (env : Environment) (name : String) : Option Bytes :=
  match env.lookup name with
  | some value => some value
  | none => env.inside? name

/-- The value of a variable, if it is text. -/
def text? (env : Environment) (name : String) : Option (List Char) :=
  (env.value? name).bind Utf8.decode?

def set (env : Environment) (name : String) (value : Bytes) : Environment :=
  (name, value) :: env.filter (·.1 ≠ name)

def temporaryDirectory (env : Environment) : Bytes :=
  (env.value? "TMPDIR").getD (Utf8.ofString "/tmp")

end Environment

/-! ## Directories -/

/-- Where a platform keeps a user's settings and data. A platform need not have such places. -/
structure UserDirectories where
  config? : Environment → Option Bytes
  data? : Environment → Option Bytes

namespace UserDirectories

/-- Where data is kept: a temporary directory when the platform has no place for it. -/
def dataDirectory (D : UserDirectories) (env : Environment) : Bytes :=
  (D.data? env).getD env.temporaryDirectory

/-! ### Users with an account -/

/-- The home directory: that of the environment, where an empty value is none, else the one that
the user's account names, if it names one. -/
def home? (account : Option Bytes) (env : Environment) : Option Bytes :=
  ((env.value? "HOME").filter (· ≠ [])).or account

/-- A directory named by a variable, which counts only when its path is absolute, else one below
the home directory. -/
def directory? (account : Option Bytes) (env : Environment) (name below : String) :
    Option Bytes :=
  match (env.value? name).filter Path.isAbsolute with
  | some path => some path
  | none => (home? account env).map fun home => Path.join home (Utf8.ofString below)

/-- The directories of a user whose account names this home directory. -/
def ofAccount (account : Option Bytes) : UserDirectories where
  config? env := directory? account env "XDG_CONFIG_HOME" ".config"
  data? env := directory? account env "XDG_DATA_HOME" ".local/share"

end UserDirectories
end DetectionLink
