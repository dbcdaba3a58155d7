/-!
# Diagnostics

Loading tells what it does in diagnostics: a level, the part of the program that speaks, a message and
named details. How they are shown is decided elsewhere.
-/
namespace StartupConfig

/-- How grave a diagnostic is, the gravest first. -/
inductive Level
  | error
  | warn
  | info
  | debug
  | trace
  deriving DecidableEq, Repr

namespace Level

/-- The word for a level. -/
def name : Level → String
  | .error => "ERROR"
  | .warn => "WARN"
  | .info => "INFO"
  | .debug => "DEBUG"
  | .trace => "TRACE"

/-- The place of a level, one for the gravest. -/
def rank : Level → Nat
  | .error => 1
  | .warn => 2
  | .info => 3
  | .debug => 4
  | .trace => 5

end Level

/-- The value of a detail: a text to be quoted, a text to be shown as it is, or a count. -/
inductive Detail
  | quoted (text : String)
  | shown (text : String)
  | count (n : Nat)
  deriving DecidableEq, Repr

/-- The text of a detail before any quoting. -/
def Detail.text : Detail → String
  | .quoted text => text
  | .shown text => text
  | .count n => String.ofList (Nat.toDigits 10 n)

/-- One thing said during a load. -/
structure Diagnostic where
  level : Level
  target : String
  message : String
  details : List (String × Detail)
  deriving DecidableEq, Repr

/-- A value together with what was said on the way to it. -/
structure Told (α : Type) where
  value : α
  diagnostics : List Diagnostic

end StartupConfig
