import StartupConfig.Yaml.Character

/-!
# Gaps inside scalars

Between the words of a scalar there are blanks, or ends of lines with blanks around them. Blanks on one line
are kept. Of ends of lines the first is folded away: it becomes a space if it stands alone.
-/
namespace StartupConfig.Yaml

/-- The first end of a line and the further ones, folded. Only a newline is folded. -/
def foldBreaks (first more : List Char) : List Char :=
  if first = ['\n'] then (if more = [] then [' '] else more) else first ++ more

/-- What stands between two words of a scalar. After an escaped end of a line there is no first one. -/
inductive Gap
  | none
  | blanks (text : List Char)
  | lines (first more : List Char)
  deriving DecidableEq, Repr

namespace Gap

/-- Is there anything? -/
def isSome : Gap → Bool
  | .none => false
  | _ => true

/-- Does the gap go over the end of a line? -/
def isLines : Gap → Bool
  | .lines .. => true
  | _ => false

/-- A gap with one more blank; blanks next to the end of a line are not kept. -/
def addBlank (c : Char) : Gap → Gap
  | .none => .blanks [c]
  | .blanks text => .blanks (text ++ [c])
  | .lines first more => .lines first more

/-- A gap with one more end of a line. -/
def addBreak (c : Char) : Gap → Gap
  | .lines first more => .lines first (more ++ [c])
  | _ => .lines [c] []

/-- What a gap adds to the text. -/
def text : Gap → List Char
  | .none => []
  | .blanks text => text
  | .lines first more => foldBreaks first more

end Gap

end StartupConfig.Yaml
