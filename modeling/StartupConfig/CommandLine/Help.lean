import StartupConfig.CommandLine.Syntax

/-!
# Help

A page tells what a scope is for, how it is used and which commands, arguments and flags it has. In brief, each flag has one line with what it does and which words it takes; in full, a paragraph of its own.
The value of the colour variable is cited; its line breaks go on at the margin of the paragraph.
-/
namespace StartupConfig.CommandLine

/-- How much a page tells. -/
inductive Help.Amount
  | brief
  | full
  deriving DecidableEq, Repr

/-- The pages: one for each scope, and one for the word `help` itself. -/
inductive Page
  | scope (scope : Scope)
  | help
  deriving DecidableEq, Repr

namespace Help

/-- A list of texts with a separator between them. -/
def join (separator : List Char) : List (List Char) → List Char
  | [] => []
  | [t] => t
  | t :: ts => t ++ separator ++ join separator ts

/-- Spaces. -/
def gap (n : Nat) : List Char := List.replicate n ' '

/-- A text whose later lines are moved in. -/
def moved (margin : Nat) (text : List Char) : List Char :=
  text.flatMap fun c => if c = '\n' then '\n' :: gap margin else [c]

/-- The variable of a slot with its value. -/
def variableNote (slot : Slot) (color : Argument) : List (List Char) :=
  match slot.variable? with
  | some name => ["[env: ".toList ++ name.toList ++ '=' :: color.lossy ++ [']']]
  | none => []

/-- The word that stands for a slot that is not filled. -/
def standardNote (slot : Slot) : List (List Char) :=
  match slot.standard? with
  | some word => ["[default: ".toList ++ word.toList ++ [']']]
  | none => []

/-- The words of a slot on one line. -/
def wordsNote (slot : Slot) : List (List Char) :=
  ["[possible values: ".toList ++ join [',', ' '] (slot.words.map fun w => w.1.toList) ++ [']']]

/-- An entry of a page: its label, what it does, and its slot if it has one. -/
structure Entry where
  label : List Char
  about : String
  slot? : Option Slot

/-- The entry of a flag. The flag that asks for help says which amount the other way to ask gives. -/
def ofFlag (amount : Amount) (f : Flag) : Entry where
  label := (match f.letter? with
    | some c => ['-', c, ',', ' ']
    | none => gap 4) ++ f.display.toList
  about := if f = .help then
      f.about ++ (match amount with
        | .brief => " (see more with '--help')"
        | .full => " (see a summary with '-h')")
    else f.about
  slot? := f.slot?

/-- The entry of a positional argument. -/
def ofPositional (slot : Slot) : Entry :=
  ⟨slot.display.toList, "Target shell for completion script", some slot⟩

/-- The line of an entry in brief; labels are filled up to a width. -/
def briefLine (width : Nat) (color : Argument) (e : Entry) : List Char :=
  let notes := match e.slot? with
    | some slot => variableNote slot color ++ standardNote slot ++ wordsNote slot
    | none => []
  gap 2 ++ padded width e.label ++ gap 2
    ++ moved (width + 4) (join [' '] (e.about.toList :: notes)) ++ ['\n']

/-- The words of a slot, one a line, with their meanings in a column. -/
def wordLines (slot : Slot) : List Char :=
  let width := (slot.words.map fun w => w.1.toList.length).foldl max 0
  slot.words.flatMap fun w =>
    '\n' :: gap 10 ++ ['-', ' '] ++ padded (width + 2) (w.1.toList ++ [':']) ++ w.2.toList

/-- The paragraph of an entry in full. -/
def paragraph (color : Argument) (e : Entry) : List Char :=
  let notes := match e.slot? with
    | some slot =>
      let tail := variableNote slot color ++ standardNote slot
      ['\n', '\n'] ++ gap 10 ++ "Possible values:".toList ++ wordLines slot
        ++ if tail.isEmpty then []
          else moved 10 ('\n' :: '\n' :: join ['\n'] tail)
    | none => []
  gap 2 ++ e.label ++ '\n' :: gap 10 ++ e.about.toList ++ notes ++ ['\n']

/-- The entries of a section. -/
def entries (amount : Amount) (color : Argument) (es : List Entry) : List Char :=
  match amount with
  | .brief =>
    let width := (es.map fun e => e.label.length).foldl max 0
    es.flatMap (briefLine width color)
  | .full => join ['\n'] (es.map (paragraph color))

/-- The commands with what they are for. -/
def commandLines : List Char :=
  let rows := (Scope.commands.map fun s => (s.word, s.about)) ++ [(helpWord, helpAbout)]
  let width := (rows.map fun r => r.1.toList.length).foldl max 0
  rows.flatMap fun r => gap 2 ++ padded (width + 2) r.1.toList ++ r.2.toList ++ ['\n']

/-- How a scope is used. -/
def usage (s : Scope) : List Char :=
  programName.toList
    ++ (if s = .program then " [OPTIONS] <COMMAND>".toList
      else ' ' :: s.word.toList ++ " [OPTIONS]".toList
        ++ match s.positional? with
          | some slot => ' ' :: slot.display.toList
          | none => [])

/-- The page of a scope. -/
def scopePage (s : Scope) (amount : Amount) (color : Argument) : List Char :=
  s.about.toList ++ "\n\nUsage: ".toList ++ usage s ++ ['\n', '\n']
    ++ (if s = .program then "Commands:\n".toList ++ commandLines ++ ['\n'] else [])
    ++ (match s.positional? with
      | some slot => "Arguments:\n".toList ++ entries amount color [ofPositional slot] ++ ['\n']
      | none => [])
    ++ "Options:\n".toList ++ entries amount color (s.flags.map (ofFlag amount))

/-- The page of the word `help`. -/
def helpPage : List Char :=
  helpAbout.toList ++ "\n\nUsage: ".toList ++ programName.toList ++ " help [COMMAND]...".toList
    ++ "\n\nArguments:\n  [COMMAND]...  Print help for the subcommand(s)\n".toList

end Help

/-- The text of a page. -/
def Page.text (amount : Help.Amount) (color : Argument) : Page → List Char
  | .scope s => Help.scopePage s amount color
  | .help => Help.helpPage

end StartupConfig.CommandLine
