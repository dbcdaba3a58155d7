import StartupConfig.Diagnostic

/-!
# Verbosity

How often the command line asks for more decides the least grave level that is shown.
-/
namespace StartupConfig

/-- The level that a number of requests for more shows. -/
def verbosityLevel : Nat → Level
  | 0 => .warn
  | 1 => .info
  | 2 => .debug
  | _ => .trace

/-- The word for a level in filters. -/
def Level.filterName : Level → String
  | .error => "error"
  | .warn => "warn"
  | .info => "info"
  | .debug => "debug"
  | .trace => "trace"

/-- The filter that a number of requests for more stands for. -/
def verbosityFilter (verbosity : Nat) : String := (verbosityLevel verbosity).filterName

/-- The variable that holds a filter. -/
def filterVariable : String := "TRAINING_OPERATOR_LOG_LEVEL"

end StartupConfig
