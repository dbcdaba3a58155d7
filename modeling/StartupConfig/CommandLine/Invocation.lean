import StartupConfig.CommandLine.Refusal

/-!
# Reading a command line

Arguments are taken one after the other in the scope of the program, and after a command in the scope of the
command. A flag's value may be attached to it, and is then stored at once, or be the next argument, and is
then held until something else follows. The colour variable fills a colour that a scope was not given. Where
both scopes were given a flag, the command's counts; where only one was, that one does.
-/
namespace StartupConfig.CommandLine

/-- What a scope was given. -/
structure Given where
  format : Option Format
  sources : Bool
  verbose : Nat
  quiet : Bool
  logJson : Bool
  color : Option ColorChoice
  shell : Option Shell
  deriving DecidableEq, Repr

/-- Nothing was given. -/
def Given.nothing : Given := ⟨none, false, 0, false, false, none, none⟩

/-- What a scope is waiting for: nothing, a value for a slot, or the end of a value that it holds. -/
inductive Waiting
  | nothing
  | value (slot : Slot)
  | held (slot : Slot) (value : Argument)
  deriving DecidableEq

/-- How far the reading of a scope has come. -/
structure Progress where
  given : Given
  waiting : Waiting
  positionalsOnly : Bool
  deriving DecidableEq

/-- The beginning of a scope. -/
def Progress.start : Progress := ⟨.nothing, .nothing, false⟩

/-- The greatest count of requests for more. -/
def greatestVerbosity : Nat := 255

/-- The value of a word for a slot. -/
def choose {α : Type} (slot : Slot) (choices : List (Choice α)) (a : Argument) : Except Refusal α :=
  match a.text?.bind (Choice.find? choices) with
  | some c => .ok c.value
  | none => .error (.invalidValue slot a.lossy)

namespace Given

/-- Fills a slot that is empty. -/
def fill (g : Given) (slot : Slot) (a : Argument) : Except Refusal Given :=
  match slot with
  | .format =>
    if g.format.isSome then .error (.repeated .format)
    else (choose slot Choice.formats a).map fun v => { g with format := some v }
  | .color =>
    if g.color.isSome then .error (.repeated .color)
    else (choose slot Choice.colors a).map fun v => { g with color := some v }
  | .shell => (choose slot Choice.shells a).map fun v => { g with shell := some v }

/-- Raises a flag without a slot; of these only the request for more may be raised again. -/
def raise (g : Given) (f : Flag) : Except Refusal Given :=
  match f with
  | .verbose => .ok { g with verbose := min greatestVerbosity (g.verbose + 1) }
  | .sources => if g.sources then .error (.repeated f) else .ok { g with sources := true }
  | .quiet => if g.quiet then .error (.repeated f) else .ok { g with quiet := true }
  | .logJson => if g.logJson then .error (.repeated f) else .ok { g with logJson := true }
  | _ => .ok g

/-- Was any flag given that the program's own scope has? -/
def isNothing (g : Given) : Bool :=
  g.verbose == 0 && !g.quiet && !g.logJson && g.color.isNone

end Given

namespace Progress

/-- Stores a held value; a value that is still awaited is missing. -/
def settle (p : Progress) : Except Refusal Progress :=
  match p.waiting with
  | .nothing => .ok p
  | .value slot => .error (.invalidValue slot [])
  | .held slot a => (p.given.fill slot a).map fun g => { p with given := g, waiting := .nothing }

/-- Stores an attached value. -/
def attach (p : Progress) (slot : Slot) (a : Argument) : Except Refusal Progress := do
  let p ← p.settle
  let g ← p.given.fill slot a
  return { p with given := g }

/-- Waits for the value of a slot. -/
def await (p : Progress) (slot : Slot) : Except Refusal Progress := do
  let p ← p.settle
  return { p with waiting := .value slot }

/-- Raises a flag without a slot; the flags that ask for help or the version end the reading. -/
def raise (scope : Scope) (color : Argument) (amount : Help.Amount) (p : Progress) (f : Flag) :
    Except Refusal Progress := do
  let p ← p.settle
  match f with
  | .help => .error (.help (.scope scope) amount color)
  | .version => .error (.version scope)
  | f =>
    let g ← p.given.raise f
    return { p with given := g }

/-- Takes a long flag, with the value that is attached to it. -/
def takeLong (scope : Scope) (color : Argument) (p : Progress) (name : Argument)
    (value : Option Argument) : Except Refusal Progress :=
  match name.text?.bind scope.long? with
  | none => .error (.unknownArgument ('-' :: '-' :: name.lossy))
  | some f =>
    match f.slot?, value with
    | some slot, some v => p.attach slot v
    | some slot, none => p.await slot
    | none, some v => .error (.unexpectedValue f v.lossy)
    | none, none => raise scope color .full p f

/-- Takes letters that are joined behind one dash; what follows a letter with a slot is its value. -/
def takeLetters (scope : Scope) (color : Argument) : Progress → Argument → Except Refusal Progress
  | p, [] => .ok p
  | _, .malformed run :: rest =>
    .error (.unknownArgument ('-' :: Argument.lossy (.malformed run :: rest)))
  | p, .scalar c :: rest =>
    match scope.letter? c with
    | none => .error (.unknownArgument ['-', c])
    | some f =>
      match f.slot? with
      | none =>
        match raise scope color .brief p f with
        | .error r => .error r
        | .ok p => takeLetters scope color p rest
      | some slot =>
        match rest with
        | [] => p.await slot
        | .scalar '=' :: v => p.attach slot v
        | v => p.attach slot v

/-- Takes an argument that is no flag. -/
def takePositional (scope : Scope) (p : Progress) (a : Argument) : Except Refusal Progress :=
  let isTaken := p.given.shell.isSome || p.waiting matches .held .shell _
  match scope.positional? with
  | some slot =>
    if isTaken then .error (.unknownArgument a.lossy)
    else do
      let p ← p.settle
      return { p with waiting := .held slot a }
  | none =>
    if scope ≠ .program ∨ p.positionalsOnly ∧ (a.text?.bind Scope.ofWord?).isSome then
      .error (.unknownArgument a.lossy)
    else .error (.unknownCommand a.lossy)

/-- Takes an argument that is no command. -/
def take (scope : Scope) (color : Argument) (p : Progress) (a : Argument) : Except Refusal Progress :=
  if p.positionalsOnly then p.takePositional scope a
  else
    match a with
    | [.scalar '-', .scalar '-'] => .ok { p with positionalsOnly := true }
    | .scalar '-' :: .scalar '-' :: rest =>
      match rest.span (· ≠ .scalar '=') with
      | (name, []) => p.takeLong scope color name none
      | (name, _ :: value) => p.takeLong scope color name (some value)
    | .scalar '-' :: c :: rest => p.takeLetters scope color (c :: rest)
    | a =>
      match p.waiting with
      | .value slot => .ok { p with waiting := .held slot a }
      | _ => p.takePositional scope a

/-- Takes arguments one after the other. -/
def takeAll (scope : Scope) (color : Argument) : Progress → List Argument → Except Refusal Progress
  | p, [] => .ok p
  | p, a :: as =>
    match p.take scope color a with
    | .error r => .error r
    | .ok p => takeAll scope color p as

end Progress

/-- A colour choice and whether it was given on the command line. -/
structure Settled where
  given : Given
  color : ColorChoice
  isGiven : Bool
  isNothing : Bool
  deriving DecidableEq

/-- The end of a scope: held values are stored, and the variable fills a colour that was not given. -/
def Progress.finish (preset : Option Argument) (p : Progress) : Except Refusal Settled := do
  let p ← p.settle
  match p.given.color, preset with
  | some c, _ => return ⟨p.given, c, true, false⟩
  | none, some a => return ⟨p.given, ← choose .color Choice.colors a, false, false⟩
  | none, none => return ⟨p.given, .standard, false, p.given.isNothing⟩

/-- What the program is to do. -/
inductive Command
  | show (format : Format) (sources : Bool)
  | env (format : Format)
  | completions (shell : Shell)
  | version (format : Format)
  deriving DecidableEq, Repr

/-- A command with the flags that stand in either scope. -/
structure Invocation where
  command : Command
  verbose : Nat
  quiet : Bool
  logJson : Bool
  color : ColorChoice
  deriving DecidableEq, Repr

/-- The command of a scope that has been read to its end. -/
def Given.command (g : Given) : Scope → Except Refusal Command
  | .show => .ok (.show (g.format.getD .standard) g.sources)
  | .env => .ok (.env (g.format.getD .standard))
  | .version => .ok (.version (g.format.getD .standard))
  | .completions =>
    match g.shell with
    | some s => .ok (.completions s)
    | none => .error .missingArgument
  | .program => .error .missingCommand

/-- Joins what both scopes were given: the command's flags count where it was given any. -/
def merge (outer inner : Settled) (command : Command) : Invocation where
  command := command
  verbose := if inner.given.verbose = 0 then outer.given.verbose else inner.given.verbose
  quiet := inner.given.quiet || outer.given.quiet
  logJson := inner.given.logJson || outer.given.logJson
  color := if outer.isGiven && !inner.isGiven then outer.color else inner.color

/-- Help on the command that is named; the word `help` names itself, and nothing may follow it. -/
def helpOn (color : Argument) : List Argument → Refusal
  | [] => .help (.scope .program) .full color
  | a :: as =>
    let page? := match a.text? with
      | some t => if t = helpWord.toList then some .help else (Scope.ofWord? t).map .scope
      | none => none
    match page?, as with
    | none, _ => .unknownCommand a.lossy
    | some _, b :: _ => .unknownCommand b.lossy
    | some page, [] => .help page .full color

/-- Reads the arguments of a command, and then settles both scopes. -/
def readCommand (preset : Option Argument) (outer : Progress) (scope : Scope) (as : List Argument) :
    Except Refusal Invocation := do
  let inner ← Progress.start.takeAll scope (preset.getD []) as
  let inner ← inner.finish preset
  let command ← inner.given.command scope
  let outer ← outer.finish preset
  return merge outer inner command

/-- Is the next argument looked at as a command? Not where a value is awaited. -/
def Progress.admitsCommand (p : Progress) : Bool :=
  !p.positionalsOnly && !(p.waiting matches .value _)

/-- Reads arguments in the scope of the program up to the command. -/
def readProgram (preset : Option Argument) : Progress → List Argument → Except Refusal Invocation
  | p, [] => do
    let s ← p.finish preset
    if s.isNothing then .error (.helpInstead (preset.getD [])) else .error .missingCommand
  | p, a :: as =>
    let word? := if p.admitsCommand then a.text? else none
    match word?.bind Scope.ofWord? with
    | some scope => readCommand preset p scope as
    | none =>
      if word? = some helpWord.toList then .error (helpOn (preset.getD []) as)
      else
        match p.take .program (preset.getD []) a with
        | .error r => .error r
        | .ok p => readProgram preset p as

/-- Reads a command line, given the value of the colour variable if it is set. -/
def read (preset : Option Utf8.Bytes) (arguments : List Utf8.Bytes) : Except Refusal Invocation :=
  readProgram (preset.map Argument.ofBytes) .start (arguments.map Argument.ofBytes)

end StartupConfig.CommandLine
