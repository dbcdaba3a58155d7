import StartupConfig.Completion.Node

/-!
# Completion in Elvish

A completer looks up the words so far in a map from commands to functions that offer candidates.
-/
namespace StartupConfig.Completion.Elvish

open CommandLine

/-- A candidate with what it is for. -/
def candidate (word about : String) : String := gap 12 ++ "cand " ++ word ++ " " ++ quoted "''" about

/-- The entry of a node. -/
def nodeEntry (n : Node) : List String :=
  [gap 8 ++ "&'" ++ String.intercalate ";" (programName :: n.path) ++ "'= \x7b"]
    ++ n.ordered.flatMap (fun f => (spellings f).map fun s => candidate s (about f))
    ++ n.below.map (fun w => candidate w.1 w.2)
    ++ [gap 8 ++ "\x7d"]

/-- The script. -/
def script : String :=
  lines (["", "use builtin;", "use str;", "",
    "set edit:completion:arg-completer[" ++ programName ++ "] = \x7b|@words|",
    gap 4 ++ "fn spaces \x7b|n|", gap 8 ++ "builtin:repeat $n ' ' | str:join ''", gap 4 ++ "\x7d",
    gap 4 ++ "fn cand \x7b|text desc|",
    gap 8 ++ "edit:complex-candidate $text &display=$text' '(spaces (- 14 (wcswidth $text)))$desc",
    gap 4 ++ "\x7d", gap 4 ++ "var command = '" ++ programName ++ "'",
    gap 4 ++ "for word $words[1..-1] \x7b", gap 8 ++ "if (str:has-prefix $word '-') \x7b",
    gap 12 ++ "break", gap 8 ++ "\x7d", gap 8 ++ "set command = $command';'$word", gap 4 ++ "\x7d",
    gap 4 ++ "var completions = ["]
    ++ nodes.flatMap nodeEntry
    ++ [gap 4 ++ "]", gap 4 ++ "$completions[$command]", "\x7d"])

end StartupConfig.Completion.Elvish
