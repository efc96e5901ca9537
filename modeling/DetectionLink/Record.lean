/-!
# Log records

* `Level`: how severe a record is;
* `Record`: a level and a message;
* `admits`: whether a record passes a threshold, `none` standing for silence.
-/

namespace DetectionLink

inductive Level
  | error
  | warn
  | info
  | debug
  | trace
deriving DecidableEq

namespace Level

/-- The more severe, the lower. -/
def verbosity : Level → Nat
  | error => 1
  | warn => 2
  | info => 3
  | debug => 4
  | trace => 5

def name : Level → String
  | error => "ERROR"
  | warn => "WARN"
  | info => "INFO"
  | debug => "DEBUG"
  | trace => "TRACE"

end Level

structure Record where
  level : Level
  message : String
deriving DecidableEq

namespace Record

def error (message : String) : Record := ⟨.error, message⟩
def warn (message : String) : Record := ⟨.warn, message⟩
def info (message : String) : Record := ⟨.info, message⟩
def debug (message : String) : Record := ⟨.debug, message⟩
def trace (message : String) : Record := ⟨.trace, message⟩

end Record

/-- A threshold lets records through that are at least as severe. -/
def admits (threshold : Option Level) (r : Record) : Bool :=
  match threshold with
  | some level => r.level.verbosity ≤ level.verbosity
  | none => false

end DetectionLink
