import StartupConfig.About
import StartupConfig.CommandLine.Choice

/-!
# What a command line may hold

The program is followed by one of four commands. Flags stand in the scope of the program or of a command;
four of them may stand in either. A slot is a place for a value: of a flag, or of the one positional
argument.
-/
namespace StartupConfig.CommandLine

/-- Where an argument stands: before the command, or behind one of the commands. -/
inductive Scope
  | program
  | show
  | env
  | completions
  | version
  deriving DecidableEq, Repr

namespace Scope

/-- The commands, in the order in which they are listed. -/
def commands : List Scope := [.show, .env, .completions, .version]

/-- The word for a command. -/
def word : Scope → String
  | .program => ""
  | .show => "show"
  | .env => "env"
  | .completions => "completions"
  | .version => "version"

/-- What the program or a command is for. -/
def about : Scope → String
  | .program => "Environment-driven startup configuration for the training-job operator"
  | .show => "Print the configuration resolved from the current environment"
  | .env => "List the recognized environment variables and their defaults"
  | .completions => "Generate shell completion scripts"
  | .version => "Display version information"

/-- The command with a word. -/
def ofWord? (word : List Char) : Option Scope := commands.find? fun s => s.word.toList == word

end Scope

/-- The word that asks for help on a command. -/
def helpWord : String := "help"

/-- What the word `help` is for. -/
def helpAbout : String := "Print this message or the help of the given subcommand(s)"

/-- Places for values. -/
inductive Slot
  | format
  | color
  | shell
  deriving DecidableEq, Repr

/-- The flags. -/
inductive Flag
  | format
  | sources
  | verbose
  | quiet
  | logJson
  | color
  | help
  | version
  deriving DecidableEq, Repr

namespace Flag

/-- The long name, without its dashes. -/
def long : Flag → String
  | .format => "format"
  | .sources => "sources"
  | .verbose => "verbose"
  | .quiet => "quiet"
  | .logJson => "log-json"
  | .color => "color"
  | .help => "help"
  | .version => "version"

/-- The letter, for a flag that has one. -/
def letter? : Flag → Option Char
  | .format => some 'f'
  | .verbose => some 'v'
  | .quiet => some 'q'
  | .help => some 'h'
  | .version => some 'V'
  | _ => none

/-- The slot that a flag fills. -/
def slot? : Flag → Option Slot
  | .format => some .format
  | .color => some .color
  | _ => none

/-- What a flag does. -/
def about : Flag → String
  | .format => "Output format"
  | .sources => "Annotate each value with where it came from"
  | .verbose => "Increase verbosity (-v info, -vv debug, -vvv trace)"
  | .quiet => "Suppress all log output"
  | .logJson => "Emit logs as JSON lines"
  | .color => "Color output control"
  | .help => "Print help"
  | .version => "Print version"

/-- How a flag is written in messages. -/
def display : Flag → String
  | .format => "--format <FORMAT>"
  | .color => "--color <COLOR>"
  | .verbose => "--verbose..."
  | f => "--" ++ f.long

end Flag

/-- How a slot is written in messages. -/
def Slot.display : Slot → String
  | .format => Flag.format.display
  | .color => Flag.color.display
  | .shell => "<SHELL>"

/-- The words of a slot and their meanings. -/
def Slot.words : Slot → List (String × String)
  | .format => Choice.formats.map fun c => (c.word, c.meaning)
  | .color => Choice.colors.map fun c => (c.word, c.meaning)
  | .shell => Choice.shells.map fun c => (c.word, c.meaning)

/-- The word that stands for a slot that is not filled. -/
def Slot.standard? : Slot → Option String
  | .format => some Format.standard.word
  | .color => some (Choice.wordOf Choice.colors ColorChoice.standard)
  | .shell => none

/-- The variable that fills a slot when no flag does. -/
def Slot.variable? : Slot → Option String
  | .color => some "TRAINING_OPERATOR_COLOR"
  | _ => none

/-- The variable that holds a colour choice. -/
def colorVariable : String := "TRAINING_OPERATOR_COLOR"

/-- The flags that only one scope has. -/
def Scope.ownFlags : Scope → List Flag
  | .show => [.format, .sources]
  | .env => [.format]
  | .version => [.format]
  | _ => []

/-- The flags of a scope, in the order in which help lists them. -/
def Scope.flags (s : Scope) : List Flag :=
  s.ownFlags ++ [.verbose, .quiet, .logJson, .color, .help, .version]

/-- The flag with a long name. -/
def Scope.long? (s : Scope) (name : List Char) : Option Flag :=
  s.flags.find? fun f => f.long.toList == name

/-- The flag with a letter. -/
def Scope.letter? (s : Scope) (c : Char) : Option Flag :=
  s.flags.find? fun f => f.letter? == some c

/-- The slot of the positional argument. -/
def Scope.positional? : Scope → Option Slot
  | .completions => some .shell
  | _ => none

/-- An argument as the program is given it: text in which some bytes may be malformed. -/
abbrev Argument := List Utf8.Piece

/-- The argument with the given bytes. -/
def Argument.ofBytes (bytes : Utf8.Bytes) : Argument := Utf8.pieces bytes

/-- The text of a well-formed argument. -/
def Argument.text? (a : Argument) : Option (List Char) := a.mapM Utf8.Piece.scalar?

/-- The text of an argument with malformed bytes replaced. -/
def Argument.lossy (a : Argument) : List Char := a.map Utf8.Piece.replaced

end StartupConfig.CommandLine
