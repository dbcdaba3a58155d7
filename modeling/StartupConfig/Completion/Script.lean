import StartupConfig.Completion.Bash
import StartupConfig.Completion.Zsh
import StartupConfig.Completion.Fish
import StartupConfig.Completion.PowerShell
import StartupConfig.Completion.Elvish

/-!
# Completion scripts

The script of each shell.
-/
namespace StartupConfig.Completion

/-- The script of a shell. -/
def script : Shell → String
  | .bash => Bash.script
  | .zsh => Zsh.script
  | .fish => Fish.script
  | .powershell => PowerShell.script
  | .elvish => Elvish.script

/-- The script of a shell as output. -/
def output (s : Shell) : Output := .plain (script s).toList

end StartupConfig.Completion
