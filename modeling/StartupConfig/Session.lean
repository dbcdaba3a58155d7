import StartupConfig.Show
import StartupConfig.Listing

/-!
# Sessions

A session holds an environment that is edited step by step, a saved copy of it, a loader over a snapshot of
the environment, the last report and the last loaded record. Each step answers something; only the steps
that name a part of the session change it.
-/
namespace StartupConfig

/-- A record with one setting replaced; a text that is no integer leaves the integer as it is. -/
def Record.withText (r : Record) (s : Setting) (text : String) : Record :=
  match s with
  | .templateFile => { r with templateFile := text }
  | .initImage => { r with initImage := text }
  | .deliveryImage => { r with deliveryImage := text }
  | .maxTries =>
    match readInteger _ text with
    | .ok n => { r with maxTries := n }
    | .error _ => r

/-- The parts of a session. -/
structure Session where
  env : Environment
  saved : Environment
  snapshot : Environment
  defaults : Record
  report : Report
  previous : Option Record
  deriving DecidableEq

/-- What can be done in a session. -/
inductive Step
  | set (name value : String)
  | collect (pairs : List (String × String))
  | clear
  | lookup (name : String)
  | save
  | restore
  | same
  | newLoader
  | putDefaults (defaults : Record)
  | putImage (image : String)
  | reportedDefaults
  | load
  | makeReport
  | keep (places : List Nat)
  | edit (setting : Setting) (text : String)
  | show (format : Format) (sources : Bool) (sink : Sink)
  | list (format : Format) (sink : Sink)
  | reportedText (variableName : String)
  | defaultText (variableName : String)
  | text (name default : String)
  | integer (name : String) (default : Long)

/-- What a step answers. -/
inductive Answer
  | bound (value : Option String) (sameAsSaved : Bool)
  | recognized (values : List (Option String)) (sameAsSaved : Option Bool)
  | sameAsSaved (value : Bool)
  | truth (value : Bool)
  | found (value : Option String)
  | text (value : String)
  | record (value : Record)
  | loaded (value : Record) (sameAsPrevious : Option Bool)
  | report (value : Report)
  | kept (value : Report)
  | delivered (fault : Option Fault) (sink : Sink)

namespace Session

/-- A session at its beginning: no variables, and the report of a load without any. -/
def start : Session :=
  { env := .empty
    saved := .empty
    snapshot := .empty
    defaults := .documented
    report := (Loader.reading Environment.empty.lookup).report
    previous := none }

/-- The loader of a session reads the snapshot. -/
def loader (s : Session) : Loader := ⟨s.snapshot.lookup, s.defaults⟩

/-- The environment is as it was saved. -/
def isSaved (s : Session) : Bool := decide (s.env = s.saved)

/-- The texts of the four variables. -/
def recognized (s : Session) : List (Option String) :=
  Setting.all.map fun x => s.env.lookup x.variableName

/-- A session after a step. -/
def next (s : Session) : Step → Session
  | .set name value => { s with env := s.env.set name value }
  | .collect pairs => { s with env := .collect pairs }
  | .clear => { s with env := .empty }
  | .save => { s with saved := s.env }
  | .restore => { s with env := s.saved }
  | .newLoader => { s with snapshot := s.env, defaults := .documented }
  | .putDefaults defaults => { s with defaults }
  | .putImage image => { s with defaults := s.defaults.withInitImage image }
  | .reportedDefaults => { s with defaults := s.report.record }
  | .load => { s with previous := some s.loader.load }
  | .makeReport => { s with report := s.loader.report }
  | .keep places => { s with report := s.report.keep places }
  | .edit setting text =>
    { s with report := { s.report with record := s.report.record.withText setting text } }
  | _ => s

/-- The answer of a step, given the session before it. -/
def answer (s : Session) (step : Step) : Answer :=
  let after := s.next step
  match step with
  | .set name _ => .bound (after.env.lookup name) after.isSaved
  | .collect _ => .recognized after.recognized (some after.isSaved)
  | .clear => .sameAsSaved after.isSaved
  | .lookup name => .found (s.env.lookup name)
  | .save => .sameAsSaved after.isSaved
  | .restore => .recognized after.recognized none
  | .same => .truth s.isSaved
  | .newLoader => .record after.defaults
  | .putDefaults _ => .record after.defaults
  | .putImage _ => .record after.defaults
  | .reportedDefaults => .record after.defaults
  | .load => .loaded s.loader.load (s.previous.map fun r => decide (s.loader.load = r))
  | .makeReport => .report after.report
  | .keep _ => .kept after.report
  | .edit _ _ => .record after.report.record
  | .show format sources sink =>
    let (fault, sink) := deliver (s.report.output format sources) sink
    .delivered fault sink
  | .list format sink =>
    let (fault, sink) := deliver (listingOutput s.env.lookup format) sink
    .delivered fault sink
  | .reportedText name => .found (s.report.record.textFor? name)
  | .defaultText name => .found (s.defaults.textFor? name)
  | .text name default => .text (resolveText s.env.lookup name default).value
  | .integer name default =>
    .text (String.ofList (Decimal.render (resolveLong s.env.lookup name default).value.value.val))

/-- The answers of steps taken one after the other. -/
def run : Session → List Step → List Answer
  | _, [] => []
  | s, step :: steps => s.answer step :: run (s.next step) steps

end Session

end StartupConfig
