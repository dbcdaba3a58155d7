import StartupConfig.Text.Utf8
import StartupConfig.Yaml.Cursor

/-!
# Tokens of documents

A document is first cut into tokens. Besides the signs and scalars that stand in the text there are tokens
for what only the layout tells: where a block list or record begins and ends, and that a node is a key.
-/
namespace StartupConfig.Yaml

/-- How the text of a scalar stands in a document. -/
inductive Form
  | plain
  | quoted
  | literal
  | folded
  deriving DecidableEq, Repr

/-- The names of anchors and of tag handles. -/
abbrev Name := List Char

/-- What a token is. -/
inductive Sign
  | streamEnd
  | version (major minor : Nat)
  | tagPrefix (handle : Name) (value : Utf8.Bytes)
  | documentStart
  | documentEnd
  | blockList
  | blockRecord
  | blockEnd
  | flowList
  | flowListEnd
  | flowRecord
  | flowRecordEnd
  | item
  | comma
  | key
  | value
  | alias (name : Name)
  | anchor (name : Name)
  | tag (handle : Name) (suffix : Utf8.Bytes)
  | scalar (form : Form) (text : List Char)
  deriving DecidableEq, Repr

/-- A token and the place where it begins. -/
structure Token where
  sign : Sign
  start : Mark
  deriving DecidableEq, Repr

/-- The place behind a token of one character. -/
def Token.finish (t : Token) : Mark := t.start.next

end StartupConfig.Yaml
