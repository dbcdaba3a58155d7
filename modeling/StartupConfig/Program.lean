import StartupConfig.CommandLine.Invocation
import StartupConfig.Completion.Script
import StartupConfig.Listing
import StartupConfig.Logging.Filter
import StartupConfig.Logging.Line
import StartupConfig.Show

/-!
# A run of the program

The command line decides what is written to standard output; the settings come from the variables alone.
Diagnostics go to standard error, as far as the filter lets them through. The exit code tells a refused
command line, a refused body of JSON and any other refused output apart. Before anything is loaded the filter is
read, unless the run is quiet; where reading it breaks off, so does the run.
-/
namespace StartupConfig

/-- What a run is started with; `time` is the text that stands for the time in its diagnostics. -/
structure Launch where
  arguments : List Utf8.Bytes
  environment : ProcessEnvironment
  stdout : Sink
  time : List Char

/-- How a run ends, and what it has written. For a refused command line standard error holds the first line only of
what is said about it, and for a run that breaks off the cause only, without what the system says around it. -/
structure Outcome where
  exitCode : ExitCode
  stdout : Utf8.Bytes
  stderr : List Char
  deriving DecidableEq

namespace CommandLine

/-- The output of a command, and what is told on the way to it. -/
def Command.run (lookup : Lookup) : Command → Told Output
  | .show format sources =>
    let told := (Loader.reading lookup).run
    ⟨told.value.output format sources, told.diagnostics⟩
  | .env format => ⟨listingOutput lookup format, []⟩
  | .completions shell => ⟨Completion.output shell, []⟩
  | .version format => ⟨versionOutput format, []⟩

/-- The verbosity from which on diagnostics name their target. -/
def targetVerbosity : Nat := 2

/-- How an invocation writes diagnostics. Standard error is no terminal here; without one, colours are used only when
they are asked for, and never in JSON. -/
def Invocation.lineStyle (i : Invocation) : LineStyle where
  isJson := i.logJson
  isColored := decide (i.color = .always)
  showsTarget := decide (targetVerbosity ≤ i.verbose)

/-- Which diagnostics an invocation shows: none if it is quiet, and else those that its filter admits. -/
def Invocation.logging (i : Invocation) (written : Option String) : Except SplitCharacter (Diagnostic → Bool) :=
  if i.quiet then .ok fun _ => false
  else
    match Filter.chosen written i.verbose with
    | .ok f => .ok f.admits
    | .error s => .error s

end CommandLine

namespace Launch

/-- What the command line is read as; the colour variable has a say in it. -/
def parsed (l : Launch) : Except CommandLine.Refusal CommandLine.Invocation :=
  CommandLine.read (l.environment.bytes? CommandLine.colorVariable) l.arguments

/-- Which diagnostics an invocation shows; the filter variable has a say in it. -/
def logging (l : Launch) (i : CommandLine.Invocation) : Except SplitCharacter (Diagnostic → Bool) :=
  i.logging (l.environment.strict? filterVariable)

/-- The diagnostics that an invocation writes to standard error; one that breaks off comes to none. -/
def shown (l : Launch) (i : CommandLine.Invocation) : List Diagnostic :=
  match l.logging i with
  | .ok admits => (i.command.run l.environment.lookup).diagnostics.filter admits
  | .error _ => []

/-- The output of an invocation, as it comes to standard output line by line. -/
def output (l : Launch) (i : CommandLine.Invocation) : Output :=
  (i.command.run l.environment.lookup).value.byLines []

/-- Carries out an invocation. -/
def carryOut (l : Launch) (i : CommandLine.Invocation) : Outcome :=
  let log := (l.shown i).flatMap (Diagnostic.line i.lineStyle l.time)
  match deliver (l.output i) l.stdout with
  | (none, sink) => ⟨.success, sink.taken, log⟩
  | (some fault, sink) =>
    ⟨fault.exitCode, sink.taken, log ++ "error: ".toList ++ fault.message.toList ++ ['\n']⟩

/-- The outcome of a run. Help and the version are written as far as standard output takes them. -/
def run (l : Launch) : Outcome :=
  match l.parsed with
  | .ok i =>
    match l.logging i with
    | .ok _ => l.carryOut i
    | .error s => ⟨.breakdown, l.stdout.taken, s.message ++ ['\n']⟩
  | .error r =>
    if r.isMistake then ⟨.usage, l.stdout.taken, r.firstLine ++ ['\n']⟩
    else ⟨.success, (deliver (.plain r.message) l.stdout).2.taken, []⟩

end Launch

end StartupConfig
