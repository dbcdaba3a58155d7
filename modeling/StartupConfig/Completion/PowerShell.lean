import StartupConfig.Completion.Node

/-!
# Completion in PowerShell

A block is registered that looks up the words so far and offers the flags and commands that may follow.
-/
namespace StartupConfig.Completion.PowerShell

open CommandLine

/-- An offer: what is inserted, how it is listed, its kind and what it is for. -/
def offer (word listed kind about : String) : String :=
  gap 12 ++ "[CompletionResult]::new('" ++ word ++ "', '" ++ listed ++ "', [CompletionResultType]::"
    ++ kind ++ ", " ++ quoted "''" about ++ ")"

/-- The offers of a flag. A capital letter is listed with a space, since names differ by more than case. -/
def flagOffers (f : Flag) : List String :=
  (spellings f).map fun s =>
    let listed := if s.toList.any Char.isUpper then s ++ " " else s
    offer s listed "ParameterName" (about f)

/-- The case of a node. -/
def nodeCase (n : Node) : List String :=
  [gap 8 ++ "'" ++ String.intercalate ";" (programName :: n.path) ++ "' \x7b"]
    ++ n.ordered.flatMap flagOffers
    ++ n.below.map (fun w => offer w.1 w.1 "ParameterValue" w.2)
    ++ [gap 12 ++ "break", gap 8 ++ "\x7d"]

/-- The script. -/
def script : String :=
  lines (["", "using namespace System.Management.Automation",
    "using namespace System.Management.Automation.Language", "",
    "Register-ArgumentCompleter -Native -CommandName '" ++ programName ++ "' -ScriptBlock \x7b",
    gap 4 ++ "param($wordToComplete, $commandAst, $cursorPosition)", "",
    gap 4 ++ "$commandElements = $commandAst.CommandElements", gap 4 ++ "$command = @(",
    gap 8 ++ "'" ++ programName ++ "'",
    gap 8 ++ "for ($i = 1; $i -lt $commandElements.Count; $i++) \x7b",
    gap 12 ++ "$element = $commandElements[$i]",
    gap 12 ++ "if ($element -isnot [StringConstantExpressionAst] -or",
    gap 16 ++ "$element.StringConstantType -ne [StringConstantType]::BareWord -or",
    gap 16 ++ "$element.Value.StartsWith('-') -or",
    gap 16 ++ "$element.Value -eq $wordToComplete) \x7b", gap 16 ++ "break", gap 8 ++ "\x7d",
    gap 8 ++ "$element.Value", gap 4 ++ "\x7d) -join ';'", "",
    gap 4 ++ "$completions = @(switch ($command) \x7b"]
    ++ nodes.flatMap nodeCase
    ++ [gap 4 ++ "\x7d)", "",
      gap 4 ++ "$completions.Where" ++ braces " $_.CompletionText -like \"$wordToComplete*\" " ++ " |",
      gap 8 ++ "Sort-Object -Property ListItemText", "\x7d"])

end StartupConfig.Completion.PowerShell
