import StartupConfig.Completion.Node

/-!
# Completion in zsh

The arguments of every node are described to the shell, which then completes them; commands lead on to the
descriptions of their own arguments.
-/
namespace StartupConfig.Completion.Zsh

open CommandLine

/-- A description between brackets, within single quotation marks. -/
def bracketed (s : String) : String :=
  "[" ++ String.join (s.toList.map fun c => if c = '\'' then "'\\''" else String.ofList [c]) ++ "]"

/-- The words of a slot with their meanings. -/
def values (words : List (String × String)) : String :=
  ":((" ++ String.intercalate "\n" (words.map fun w =>
    w.1 ++ "\\:\"" ++ String.join (w.2.toList.map fun c =>
      if c = '\x60' then "\\\x60" else String.ofList [c]) ++ "\"") ++ "))"

/-- The name of a slot. -/
def slotName : Slot → String
  | .format => ":FORMAT"
  | .color => ":COLOR"
  | .shell => ":shell"

/-- The descriptions of a flag, one for each spelling. -/
def flagSpecs (f : Flag) : List String :=
  (spellings f).map fun s =>
    match f.slot? with
    | some slot =>
      "'" ++ s ++ (if s.startsWith "--" then "=" else "+") ++ bracketed (about f)
        ++ slotName slot ++ values slot.words ++ "' \\"
    | none => "'" ++ (if f = .verbose then "*" else "") ++ s ++ bracketed (about f) ++ "' \\"

/-- The name of the function that lists the commands of a node. -/
def listName (path : List String) : String :=
  "_" ++ String.intercalate "__subcmd__" (programName :: path) ++ "_commands"

/-- The name of the state behind a node. -/
def stateName (path : List String) : String := path.getLast?.getD programName

/-- The arguments of a node. -/
def arguments (n : Node) : List String :=
  ["_arguments \"$" ++ braces "_arguments_options[@]" ++ "\" : \\"]
    ++ n.ordered.flatMap flagSpecs
    ++ (if n.words.isEmpty then [] else
      ["'" ++ slotName .shell ++ " -- Target shell for completion script" ++ values n.words ++ "' \\"])
    ++ (if n.below.isEmpty then [] else
      ["\":: :" ++ listName n.path ++ "\" \\", "\"*::: :->" ++ stateName n.path ++ "\" \\"])
    ++ ["&& ret=0"]

/-- A text before the first of some lines. -/
def before (text : String) : List String → List String
  | [] => [text]
  | l :: ls => (text ++ l) :: ls

/-- Leads from a node to the cases of the nodes below it. -/
def descend (n : Node) (cases : List String) : List String :=
  [gap 4 ++ "case $state in", gap 4 ++ "(" ++ stateName n.path ++ ")",
    gap 8 ++ "words=($line[1] \"$" ++ braces "words[@]" ++ "\")", gap 8 ++ "(( CURRENT += 1 ))",
    gap 8 ++ "curcontext=\"$" ++ braces "curcontext%:*:*" ++ ":"
      ++ String.intercalate "-" (programName :: n.path) ++ "-command-$line[1]:\"",
    gap 8 ++ "case $line[1] in"]
    ++ before (gap 12) cases ++ [gap 8 ++ "esac", gap 4 ++ ";;", "esac"]

/-- The case of a node. -/
def nodeCase (n : Node) (inner : List String) : List String :=
  ["(" ++ stateName n.path ++ ")"] ++ arguments n ++ inner ++ [";;"]

/-- The function that lists the commands of a node. -/
def listFunction (n : Node) : List String :=
  ["(( $+functions[" ++ listName n.path ++ "] )) ||", listName n.path ++ "() \x7b",
    gap 4 ++ "local commands; commands=("
      ++ String.join (n.below.map fun w => "\n'" ++ w.1 ++ ":" ++ w.2 ++ "' \\")
      ++ (if n.below.isEmpty then ")" else "\n" ++ gap 4 ++ ")"),
    gap 4 ++ "_describe -t commands '" ++ String.intercalate " " (programName :: n.path)
      ++ " commands' commands \"$@\"", "\x7d"]

/-- The script. -/
def script : String :=
  lines (["#compdef " ++ programName, "", "autoload -U is-at-least", "",
    "_" ++ programName ++ "() \x7b", gap 4 ++ "typeset -A opt_args",
    gap 4 ++ "typeset -a _arguments_options", gap 4 ++ "local ret=1", "",
    gap 4 ++ "if is-at-least 5.2; then", gap 8 ++ "_arguments_options=(-s -S -C)", gap 4 ++ "else",
    gap 8 ++ "_arguments_options=(-s -C)", gap 4 ++ "fi", "",
    gap 4 ++ "local context curcontext=\"$curcontext\" state line"]
    ++ before (gap 4) (arguments program)
    ++ descend program
      (commands.flatMap (nodeCase · [])
        ++ nodeCase help ("" :: descend help (helpCommands.flatMap (nodeCase · []))))
    ++ ["\x7d", ""]
    ++ nodes.flatMap listFunction
    ++ ["", "if [ \"$funcstack[1]\" = \"_" ++ programName ++ "\" ]; then",
      gap 4 ++ "_" ++ programName ++ " \"$@\"", "else",
      gap 4 ++ "compdef _" ++ programName ++ " " ++ programName, "fi"])

end StartupConfig.Completion.Zsh
