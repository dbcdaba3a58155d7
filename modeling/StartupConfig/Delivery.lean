import StartupConfig.Text.Utf8

/-!
# Delivering output to a sink that may refuse it

Output is a list of chunks that are written whole, one after the other. A sink takes bytes until its room
is used up; the chunk that does not fit is taken as far as it goes and the delivery ends with a fault. The
kind of the fault depends on the chunk: the body of a structured value, or plain output. Standard output is
written line by line, so a chunk may wait for the end of its last line in the next one.
-/
namespace StartupConfig

/-- What went wrong in a command or in reading a record. -/
inductive Fault
  | output (cause : String)
  | json (cause : String)
  | yaml (cause : String)
  deriving DecidableEq, Repr

namespace Fault

/-- The wording of a fault. -/
def message : Fault → String
  | .output cause => "I/O error: " ++ cause
  | .json cause => "JSON error: " ++ cause
  | .yaml cause => "YAML error: " ++ cause

end Fault

/-- The codes a run ends with; the last one is not chosen by the run, it breaks off. -/
inductive ExitCode
  | success
  | serialization
  | output
  | usage
  | breakdown
  deriving DecidableEq, Repr

/-- The number of a code. -/
def ExitCode.toNat : ExitCode → Nat
  | .success => 0
  | .serialization => 2
  | .output => 3
  | .usage => 64
  | .breakdown => 101

/-- The code of a run that ends with a fault. -/
def Fault.exitCode : Fault → ExitCode
  | .output _ => .output
  | .json _ => .serialization
  | .yaml _ => .serialization

/-- What a chunk is part of. -/
inductive Stage
  | jsonBody
  | plain
  deriving DecidableEq, Repr

/-- A piece of output that is written whole. -/
structure Chunk where
  stage : Stage
  text : List Char
  deriving DecidableEq, Repr

/-- The output of a command. -/
abbrev Output := List Chunk

/-- All bytes of an output. -/
def Output.bytes (o : Output) : Utf8.Bytes := o.flatMap fun c => Utf8.encode c.text

/-- A text cut behind its last line break. -/
def cutLines : List Char → List Char × List Char
  | [] => ([], [])
  | c :: cs =>
    match cutLines cs with
    | ([], held) => if c = '\n' then (['\n'], held) else ([], c :: held)
    | (lines, held) => (c :: lines, held)

/-- The chunks in which a line buffer hands an output on. Of what is written it holds back the part behind the
last line break. The next chunk takes that along, and what is held at the end goes by itself; whoever makes the
buffer write has the fault. -/
def Output.byLines (held : List Char) : Output → Output
  | [] => [⟨.plain, held⟩]
  | c :: cs =>
    match cutLines (held ++ c.text) with
    | (lines, held) => ⟨c.stage, lines⟩ :: byLines held cs

/-- A place to write to: what it has taken, how many bytes it still takes (any number if nothing is said),
and the cause it gives when it takes no more. -/
structure Sink where
  taken : Utf8.Bytes
  room : Option Nat
  refusal : String
  deriving DecidableEq, Repr

namespace Sink

/-- A sink that takes everything. -/
def endless : Sink := ⟨[], none, ""⟩

/-- A sink that takes a number of bytes. -/
def bounded (room : Nat) (refusal : String) : Sink := ⟨[], some room, refusal⟩

/-- Writes bytes as far as there is room, and tells whether all were taken. -/
def write (s : Sink) (bytes : Utf8.Bytes) : Bool × Sink :=
  match s.room with
  | none => (true, { s with taken := s.taken ++ bytes })
  | some room =>
    if bytes.length ≤ room then
      (true, { s with taken := s.taken ++ bytes, room := some (room - bytes.length) })
    else (false, { s with taken := s.taken ++ bytes.take room, room := some 0 })

end Sink

/-- The fault of a chunk that was refused. -/
def Stage.refused (cause : String) : Stage → Fault
  | .jsonBody => .json cause
  | .plain => .output cause

/-- Writes the chunks in order until one is refused. -/
def deliver : Output → Sink → Option Fault × Sink
  | [], s => (none, s)
  | c :: cs, s =>
    match s.write (Utf8.encode c.text) with
    | (true, s) => deliver cs s
    | (false, s) => (some (c.stage.refused s.refusal), s)

end StartupConfig
