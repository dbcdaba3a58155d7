import StartupConfig.Completion.Node

/-!
# Completion in bash

One function finds the node that the words so far lead to, and offers its flags and words.
-/
namespace StartupConfig.Completion.Bash

open CommandLine

/-- The label of a path; dashes are no part of labels. -/
def label (path : List String) : String :=
  String.intercalate "__subcmd__" ((programName :: path).map fun w =>
    String.join (w.toList.map fun c => if c = '-' then "__" else String.ofList [c]))

/-- The value of a shell variable. -/
def var (name : String) : String := "$" ++ braces name

/-- Goes from a path to the path of one word more. -/
def stepCase (from_ : List String) (word : String) : List String :=
  [gap 12 ++ label from_ ++ "," ++ word ++ ")",
    gap 16 ++ "cmd=\"" ++ label (from_ ++ [word]) ++ "\"", gap 16 ++ ";;"]

/-- Offers the words of a flag after one of its spellings. -/
def valueCase (f : Flag) : List String :=
  (spellings f).flatMap fun s =>
    [gap 16 ++ s ++ ")",
      gap 20 ++ "COMPREPLY=($(compgen -W \"" ++ String.intercalate " " ((wordsOf f).map Prod.fst)
        ++ "\" -- \"" ++ var "cur" ++ "\"))",
      gap 20 ++ "return 0", gap 20 ++ ";;"]

/-- Offers what a node has. -/
def nodeCase (n : Node) : List String :=
  let letters := n.flags.filterMap fun f => f.letter?.map fun c => String.ofList ['-', c]
  let longs := n.flags.map fun f => "--" ++ f.long
  let offered := letters ++ longs ++ n.words.map Prod.fst ++ n.below.map Prod.fst
  let offer := "COMPREPLY=( $(compgen -W \"" ++ var "opts" ++ "\" -- \"" ++ var "cur" ++ "\") )"
  [gap 8 ++ label n.path ++ ")",
    gap 12 ++ "opts=\"" ++ String.intercalate " " offered ++ "\"",
    gap 12 ++ "if [[ " ++ var "cur" ++ " == -* || " ++ var "COMP_CWORD" ++ " -eq "
      ++ toString (n.path.length + 1) ++ " ]] ; then",
    gap 16 ++ offer, gap 16 ++ "return 0", gap 12 ++ "fi",
    gap 12 ++ "case \"" ++ var "prev" ++ "\" in"]
    ++ (n.flags.filter (·.slot?.isSome)).flatMap valueCase
    ++ [gap 16 ++ "*)", gap 20 ++ "COMPREPLY=()", gap 20 ++ ";;", gap 12 ++ "esac",
      gap 12 ++ offer, gap 12 ++ "return 0", gap 12 ++ ";;"]

/-- The script. -/
def script : String :=
  lines (["_" ++ programName ++ "() \x7b", gap 4 ++ "local i cur prev opts cmd",
    gap 4 ++ "COMPREPLY=()",
    gap 4 ++ "if [[ \"" ++ var "BASH_VERSINFO[0]" ++ "\" -ge 4 ]]; then",
    gap 8 ++ "cur=\"$2\"", gap 4 ++ "else",
    gap 8 ++ "cur=\"" ++ var "COMP_WORDS[COMP_CWORD]" ++ "\"", gap 4 ++ "fi",
    gap 4 ++ "prev=\"$3\"", gap 4 ++ "cmd=\"\"", gap 4 ++ "opts=\"\"", "",
    gap 4 ++ "for i in \"" ++ var "COMP_WORDS[@]:0:COMP_CWORD" ++ "\"", gap 4 ++ "do",
    gap 8 ++ "case \"" ++ var "cmd" ++ "," ++ var "i" ++ "\" in",
    gap 12 ++ "\",$1\")", gap 16 ++ "cmd=\"" ++ label [] ++ "\"", gap 16 ++ ";;"]
    ++ nodes.flatMap (fun n => n.below.flatMap fun w => stepCase n.path w.1)
    ++ [gap 12 ++ "*)", gap 16 ++ ";;", gap 8 ++ "esac", gap 4 ++ "done", "",
      gap 4 ++ "case \"" ++ var "cmd" ++ "\" in"]
    ++ nodes.flatMap nodeCase
    ++ [gap 4 ++ "esac", "\x7d", "",
      "if [[ \"" ++ var "BASH_VERSINFO[0]" ++ "\" -eq 4 && \"" ++ var "BASH_VERSINFO[1]"
        ++ "\" -ge 4 || \"" ++ var "BASH_VERSINFO[0]" ++ "\" -gt 4 ]]; then",
      gap 4 ++ "complete -F _" ++ programName ++ " -o nosort -o bashdefault -o default "
        ++ programName,
      "else",
      gap 4 ++ "complete -F _" ++ programName ++ " -o bashdefault -o default " ++ programName,
      "fi"])

end StartupConfig.Completion.Bash
