import StartupConfig.Delivery
import StartupConfig.Json.Printer
import StartupConfig.Yaml.Printer

/-!
# Output formats

A value for people is shown by each command in its own way; JSON and YAML write a tree.
-/
namespace StartupConfig

/-- How a command writes its answer. -/
inductive Format
  | human
  | json
  | yaml
  deriving DecidableEq, Repr

/-- Plain output of one chunk. -/
def Output.plain (text : List Char) : Output := [⟨.plain, text⟩]

/-- A tree as JSON: the body, then the end of its last line. -/
def Output.ofJson (t : Tree) : Output := [⟨.jsonBody, Json.render t⟩, ⟨.plain, ['\n']⟩]

/-- A tree as YAML, which is rendered before any of it is written. -/
def Output.ofYaml (t : Tree) : Output := .plain (Yaml.render t)

/-- A value in a format, given its form for people and its tree. -/
def Format.output (f : Format) (human : Output) (tree : Tree) : Output :=
  match f with
  | .human => human
  | .json => .ofJson tree
  | .yaml => .ofYaml tree

/-- A text filled up with spaces to a width. -/
def padded (width : Nat) (text : List Char) : List Char :=
  text ++ List.replicate (width - text.length) ' '

end StartupConfig
