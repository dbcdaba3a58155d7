import StartupConfig.CommandLine.Syntax

/-!
# The commands that completion scripts know

The program, its commands, the word `help` and every command behind it, each with its flags, the words of
its positional argument and the commands that may follow.
-/
namespace StartupConfig.Completion

open CommandLine

/-- A place on the command line where something can be completed. -/
structure Node where
  path : List String
  flags : List Flag
  words : List (String × String)
  below : List (String × String)

/-- The words that may follow the program, and also the word `help`. -/
def commandWords : List (String × String) :=
  Scope.commands.map (fun s => (s.word, s.about)) ++ [(helpWord, helpAbout)]

/-- The node of the program. -/
def program : Node := ⟨[], Scope.program.flags, [], commandWords⟩

/-- The nodes of the commands. -/
def commands : List Node :=
  Scope.commands.map fun s =>
    ⟨[s.word], s.flags, ((s.positional?.map Slot.words).getD []), []⟩

/-- The node of the word `help`. -/
def help : Node := ⟨[helpWord], [], [], commandWords⟩

/-- The nodes behind the word `help`. -/
def helpCommands : List Node := commandWords.map fun w => ⟨[helpWord, w.1], [], [], []⟩

/-- All nodes. -/
def nodes : List Node := program :: commands ++ help :: helpCommands

/-- The flags of a node that take a value, and then the others. -/
def Node.ordered (n : Node) : List Flag :=
  n.flags.filter (·.slot?.isSome) ++ n.flags.filter (·.slot?.isNone)

/-- What a flag is for; the one for help names the longer form. -/
def about (f : Flag) : String :=
  if f = .help then f.about ++ " (see more with '--help')" else f.about

/-- The words a flag takes. -/
def wordsOf (f : Flag) : List (String × String) := (f.slot?.map Slot.words).getD []

/-- The spellings of a flag: its letter and its long name. -/
def spellings (f : Flag) : List String :=
  (f.letter?.map fun c => String.ofList ['-', c]).toList ++ ["--" ++ f.long]

/-- A text between braces. -/
def braces (s : String) : String := "\x7b" ++ s ++ "\x7d"

/-- A text between single quotation marks, in which a quotation mark is written by another text. -/
def quoted (mark s : String) : String :=
  "'" ++ String.join (s.toList.map fun c => if c = '\'' then mark else String.ofList [c]) ++ "'"

/-- Lines, each ended. -/
def lines (ls : List String) : String := String.join (ls.map (· ++ "\n"))

/-- Spaces. -/
def gap (n : Nat) : String := String.ofList (List.replicate n ' ')

end StartupConfig.Completion
