import StartupConfig.Completion.Node

/-!
# Completion in fish

Each flag and each command is one `complete` line with the condition under which it is offered.
-/
namespace StartupConfig.Completion.Fish

open CommandLine

/-- The names of the script's functions. -/
def helper (name : String) : String :=
  "__fish_" ++ String.ofList (programName.toList.map fun c => if c = '-' then '_' else c) ++ "_" ++ name

/-- A line that is offered under a condition. -/
def complete (condition rest : String) : String :=
  "complete -c " ++ programName ++ " -n \"" ++ condition ++ "\"" ++ rest

/-- The line of a flag. -/
def flagLine (condition : String) (f : Flag) : String :=
  let letter := match f.letter? with
    | some c => " -s " ++ String.ofList [c]
    | none => ""
  let words := wordsOf f
  complete condition (letter ++ " -l " ++ f.long ++ " -d " ++ quoted "\\'" (about f)
    ++ if words.isEmpty then ""
      else " -r -f -a \"" ++ String.intercalate "\n" (words.map fun w => w.1 ++ "\\t'" ++ w.2 ++ "'") ++ "\"")

/-- The line of a command. -/
def commandLine (condition : String) (w : String × String) : String :=
  complete condition (" -f -a \"" ++ w.1 ++ "\" -d " ++ quoted "\\'" w.2)

/-- The specification of a flag where commands are looked for. -/
def optspec (f : Flag) : String :=
  (match f.letter? with
    | some c => String.ofList [c, '/']
    | none => "") ++ f.long ++ if f.slot?.isSome then "=" else ""

/-- The script. -/
def script : String :=
  let needs := helper "needs_command"
  let using_ := helper "using_subcommand"
  let inHelp := using_ ++ " help; and not __fish_seen_subcommand_from "
    ++ String.intercalate " " (commandWords.map Prod.fst)
  lines (["# Print an optspec for argparse to handle cmd's options that are independent of any subcommand.",
    "function " ++ helper "global_optspecs",
    "\tstring join \\n " ++ String.intercalate " " (program.flags.map optspec), "end", "",
    "function " ++ needs, "\t# Figure out if the current invocation already has a command.",
    "\tset -l cmd (commandline -opc)", "\tset -e cmd[1]",
    "\targparse -s (" ++ helper "global_optspecs" ++ ") -- $cmd 2>/dev/null", "\tor return",
    "\tif set -q argv[1]", "\t\t# Also print the command, so this can be used to figure out what it is.",
    "\t\techo $argv[1]", "\t\treturn 1", "\tend", "\treturn 0", "end", "",
    "function " ++ using_, "\tset -l cmd (" ++ needs ++ ")", "\ttest -z \"$cmd\"", "\tand return 1",
    "\tcontains -- $cmd[1] $argv", "end", ""]
    ++ program.ordered.map (flagLine needs)
    ++ commandWords.map (commandLine needs)
    ++ commands.flatMap (fun n =>
      n.ordered.map (flagLine (using_ ++ " " ++ String.intercalate " " n.path)))
    ++ commandWords.map (commandLine inHelp))

end StartupConfig.Completion.Fish
