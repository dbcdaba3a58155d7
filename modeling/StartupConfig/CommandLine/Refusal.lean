import StartupConfig.CommandLine.Help
import StartupConfig.Text.Terminal

/-!
# Why a command line is not carried out

Either help or the version is asked for, which is an answer on standard output, or the command line is
refused, with one line on standard error.
-/
namespace StartupConfig.CommandLine

/-- Why parsing a command line ends without an invocation. -/
inductive Refusal
  | help (page : Page) (detail : Help.Amount) (color : Argument)
  | helpInstead (color : Argument)
  | version (scope : Scope)
  | unknownArgument (text : List Char)
  | unknownCommand (text : List Char)
  | missingCommand
  | missingArgument
  | invalidValue (slot : Slot) (text : List Char)
  | repeated (flag : Flag)
  | unexpectedValue (flag : Flag) (text : List Char)
  deriving DecidableEq

namespace Refusal

/-- Help and version are asked for; everything else is a mistake. -/
def isMistake : Refusal → Bool
  | .help .. => false
  | .version _ => false
  | _ => true

/-- The text of a scope's version. -/
def versionText (s : Scope) : List Char :=
  programName.toList ++ (if s = .program then [] else '-' :: s.word.toList) ++ ' ' :: programVersion.toList
    ++ ['\n']

/-- A text between single quotation marks. -/
def marked (text : List Char) : List Char := '\'' :: text ++ ['\'']

/-- A text of the command line between single quotation marks. -/
def cited (text : List Char) : List Char := marked (Terminal.plain text)

/-- The whole text of an answer, or the line of a mistake up to the first line break in what it cites. -/
def message : Refusal → List Char
  | .help page detail color => page.text detail color
  | .helpInstead color => Page.text .brief color (.scope .program)
  | .version s => versionText s
  | .unknownArgument text => "error: unexpected argument ".toList ++ cited text ++ " found".toList
  | .unknownCommand text => "error: unrecognized subcommand ".toList ++ cited text
  | .missingCommand =>
    "error: ".toList ++ marked programName.toList
      ++ " requires a subcommand but one was not provided".toList
  | .missingArgument => "error: the following required arguments were not provided:".toList
  | .invalidValue slot [] =>
    "error: a value is required for ".toList ++ marked slot.display.toList
      ++ " but none was supplied".toList
  | .invalidValue slot text =>
    "error: invalid value ".toList ++ cited text ++ " for ".toList ++ marked slot.display.toList
  | .repeated f =>
    "error: the argument ".toList ++ marked f.display.toList ++ " cannot be used multiple times".toList
  | .unexpectedValue f text =>
    "error: unexpected value ".toList ++ cited text ++ " for ".toList ++ marked f.display.toList
      ++ " found; no more were expected".toList

/-- The first line of a text, without its end. -/
def lineOf : List Char → List Char
  | [] => []
  | '\n' :: _ => []
  | '\r' :: '\n' :: _ => []
  | c :: cs => c :: lineOf cs

/-- The first line of the message. -/
def firstLine (r : Refusal) : List Char := lineOf r.message

end Refusal

end StartupConfig.CommandLine
