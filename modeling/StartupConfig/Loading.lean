import StartupConfig.Setting
import StartupConfig.Environment
import StartupConfig.Diagnostic

/-!
# Loading

Every setting is resolved against a lookup from names to texts: a text that is present is taken, an
integer also has to be readable, and the default stands in otherwise. Loading never fails; a report says
where each value came from, and the diagnostics say the same in order.
-/
namespace StartupConfig

/-- Anything that answers names with texts. -/
abbrev Lookup := String → Option String

/-- How an environment is handed to a loader: itself, by reference, or behind the interface alone. -/
inductive Handle
  | owned (e : Environment)
  | reference (target : Handle)
  | interface (target : Handle)

namespace Handle

/-- A reference and an interface pass the name on to what is behind them. -/
def lookup : Handle → Lookup
  | .owned e => e.lookup
  | .reference target => target.lookup
  | .interface target => target.lookup

/-- The environment behind a handle. -/
def environment : Handle → Environment
  | .owned e => e
  | .reference target => target.environment
  | .interface target => target.environment

end Handle

/-- Where a resolved value came from. -/
inductive Source
  | environment
  | fallback
  | rejected (raw : String)
  deriving DecidableEq, Repr

namespace Source

/-- A short label for people. -/
def label : Source → String
  | .environment => "env"
  | .fallback => "default"
  | .rejected _ => "default (invalid value)"

/-- The word for a source in written records. -/
def tag : Source → String
  | .environment => "environment"
  | .fallback => "default"
  | .rejected _ => "invalid_fallback"

/-- The text that was rejected, if one was. -/
def rejected? : Source → Option String
  | .rejected raw => some raw
  | _ => none

end Source

/-- A value and where it came from. -/
structure Resolved (α : Type) where
  value : α
  source : Source
  deriving DecidableEq, Repr

namespace Diagnostic

/-- A text could not be read, and the default is used. -/
def ignoring (variableName raw : String) (fault : ReadFault) : Diagnostic where
  level := .warn
  target := "training_operator_config::config::env"
  message := "ignoring unparsable environment value, using default"
  details := [("variable", .quoted variableName), ("value", .shown raw),
    ("error", .shown fault.message)]

/-- A setting has its value. -/
def resolved (variableName : String) (source : Source) : Diagnostic where
  level := .debug
  target := "training_operator_config::config::loader"
  message := "resolved setting"
  details := [("variable", .quoted variableName), ("source", .quoted source.label)]

/-- The record is complete. -/
def initialized (fromEnvironment rejected total : Nat) : Diagnostic where
  level := .info
  target := "training_operator_config::config::loader"
  message := "operator configuration initialized"
  details := [("from_env", .count fromEnvironment), ("invalid", .count rejected),
    ("total", .count total)]

end Diagnostic

/-- Takes the text of a variable, or the default when the variable is absent. -/
def resolveText (lookup : Lookup) (name default : String) : Resolved String :=
  match lookup name with
  | none => ⟨default, .fallback⟩
  | some text => ⟨text, .environment⟩

/-- Reads the text of a variable; the default stands in when the variable is absent or unreadable, and
an unreadable text is told. -/
def resolveRead {α : Type} (read : String → Except ReadFault α) (lookup : Lookup) (name : String)
    (default : α) : Told (Resolved α) :=
  match lookup name with
  | none => ⟨⟨default, .fallback⟩, []⟩
  | some raw =>
    match read raw with
    | .ok value => ⟨⟨value, .environment⟩, []⟩
    | .error fault => ⟨⟨default, .rejected raw⟩, [.ignoring name raw fault]⟩

/-- Reads an integer of the record. -/
def resolveLong (lookup : Lookup) (name : String) (default : Long) : Told (Resolved Long) :=
  resolveRead (readInteger _) lookup name default

/-- How one setting was resolved; its value is kept as text. -/
structure Resolution where
  setting : Setting
  value : String
  source : Source
  deriving DecidableEq, Repr

/-- A loaded record with the resolution of each setting. -/
structure Report where
  record : Record
  resolutions : List Resolution
  deriving DecidableEq, Repr

namespace Report

/-- The number of settings taken from the environment. -/
def fromEnvironmentCount (r : Report) : Nat :=
  r.resolutions.countP fun s => s.source = .environment

/-- The settings whose text was rejected. -/
def rejected (r : Report) : List Resolution :=
  r.resolutions.filter fun s => s.source.rejected?.isSome

/-- The same report with the resolutions at the given places, in the given order. -/
def keep (r : Report) (places : List Nat) : Report :=
  { r with resolutions := places.filterMap (r.resolutions[·]?) }

end Report

/-- A lookup and the values to fall back to. -/
structure Loader where
  source : Lookup
  defaults : Record

namespace Loader

/-- A loader with the documented defaults. -/
def reading (source : Lookup) : Loader := ⟨source, .documented⟩

/-- Resolves every setting, and tells first of a rejected text, then of each setting, then of the whole. The sources
are listed in the order of the table, and the record is asked for the text of each variable. -/
def run (l : Loader) : Told Report :=
  let template := resolveText l.source "PYTORCH_INIT_CONTAINER_TEMPLATE_FILE" l.defaults.templateFile
  let image := resolveText l.source "PYTORCH_INIT_CONTAINER_IMAGE" l.defaults.initImage
  let delivery := resolveText l.source "MPI_KUBECTL_DELIVERY_IMAGE" l.defaults.deliveryImage
  let tries := resolveLong l.source "PYTORCH_INIT_CONTAINER_MAX_TRIES" l.defaults.maxTries
  let record : Record := ⟨template.value, image.value, delivery.value, tries.value.value⟩
  let sources := [template.source, image.source, delivery.source, tries.value.source]
  let report : Report := ⟨record, (Setting.all.zip sources).map fun (s, source) =>
    ⟨s, (record.textFor? s.variableName).getD "", source⟩⟩
  ⟨report, tries.diagnostics
    ++ report.resolutions.map (fun s => .resolved s.setting.variableName s.source)
    ++ [.initialized report.fromEnvironmentCount report.rejected.length
      report.resolutions.length]⟩

/-- The report of a load. -/
def report (l : Loader) : Report := l.run.value

/-- The record of a load. -/
def load (l : Loader) : Record := l.report.record

end Loader

end StartupConfig
