import StartupConfig.Format

/-!
# Words to choose from

Some options take one of a few words. Each choice has the word, what it means and the value it stands for;
words are compared exactly.
-/
namespace StartupConfig

/-- One of the words an option takes. -/
structure Choice (α : Type) where
  word : String
  meaning : String
  value : α

/-- The shells that completion scripts are made for. -/
inductive Shell
  | bash
  | zsh
  | fish
  | powershell
  | elvish
  deriving DecidableEq, Repr

/-- When diagnostics are coloured. -/
inductive ColorChoice
  | auto
  | always
  | never
  deriving DecidableEq, Repr

namespace Choice

/-- The formats of answers. -/
def formats : List (Choice Format) :=
  [⟨"human", "Human-readable output", .human⟩, ⟨"json", "JSON output", .json⟩,
    ⟨"yaml", "YAML output", .yaml⟩]

/-- The shells. -/
def shells : List (Choice Shell) :=
  [⟨"bash", "Bash shell", .bash⟩, ⟨"zsh", "Zsh shell", .zsh⟩, ⟨"fish", "Fish shell", .fish⟩,
    ⟨"powershell", "`PowerShell`", .powershell⟩, ⟨"elvish", "Elvish shell", .elvish⟩]

/-- The colour choices. -/
def colors : List (Choice ColorChoice) :=
  [⟨"auto", "Auto-detect terminal support", .auto⟩, ⟨"always", "Always use color", .always⟩,
    ⟨"never", "Never use color", .never⟩]

/-- The choice with a word. -/
def find? {α : Type} (cs : List (Choice α)) (word : List Char) : Option (Choice α) :=
  cs.find? fun c => c.word.toList == word

/-- The word of a value. -/
def wordOf {α : Type} [DecidableEq α] (cs : List (Choice α)) (value : α) : String :=
  ((cs.find? fun c => c.value = value).map Choice.word).getD ""

end Choice

namespace Format

/-- The format used when none is given. -/
def standard : Format := .human

/-- The word for a format. -/
def word (f : Format) : String := Choice.wordOf Choice.formats f

end Format

/-- The colour choice used when none is given. -/
def ColorChoice.standard : ColorChoice := .auto

end StartupConfig
