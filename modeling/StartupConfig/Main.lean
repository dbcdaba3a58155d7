import StartupConfig.Logging.Timestamp
import StartupConfig.Program
import Std.Time.DateTime.Timestamp

/-!
# The command line program

Collects what a run is started with and writes what it answers. If standard output refuses the answer, the
run is told so from the beginning.
-/
namespace StartupConfig

/-- The variables that a run may look up. -/
def variablesRead : List String :=
  Setting.all.map Setting.variableName ++ [filterVariable, CommandLine.colorVariable]

/-- The variables of this process that a run may look up. -/
def environmentRead : IO ProcessEnvironment := do
  let found ← variablesRead.filterMapM fun name => do
    return (← IO.getEnv name).map fun value => (name, Utf8.encode value.toList)
  return ⟨found⟩

/-- Writes bytes to a stream. -/
def writeBytes (stream : IO.FS.Stream) (bytes : Utf8.Bytes) : IO Unit := do
  stream.write ⟨bytes.toArray⟩
  stream.flush

end StartupConfig

open StartupConfig

/-- Runs the program. -/
def main (arguments : List String) : IO UInt32 := do
  let now ← Std.Time.Timestamp.now
  let time := Timestamp.render (now.toNanosecondsSinceUnixEpoch.val.toNat / 1000)
  let environment ← environmentRead
  let launch (sink : Sink) : Launch :=
    ⟨arguments.map fun a => Utf8.encode a.toList, environment, sink, time⟩
  let whole := (launch .endless).run
  let outcome ←
    try
      writeBytes (← IO.getStdout) whole.stdout
      pure whole
    catch e => pure (launch (.bounded 0 e.toString)).run
  writeBytes (← IO.getStderr) (Utf8.encode outcome.stderr)
  return outcome.exitCode.toNat.toUInt32
