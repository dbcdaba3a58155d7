import StartupConfig.Yaml.Fault
import StartupConfig.Yaml.Gap

/-!
# Plain scalars

A plain scalar ends before a colon or a comment that stands on its own, before a sign of a flow collection
inside one, before a line that is not moved in, and before a sign that begins or ends a document.
-/
namespace StartupConfig.Yaml.PlainScalar

/-- Signs of flow collections. -/
def isFlowSign (c : Char) : Bool := c == ',' || c == '[' || c == ']' || c == '{' || c == '}'

/-- Characters that must not follow a colon inside a flow collection. -/
def isFlowHazard (c : Char) : Bool := c == '?' || isFlowSign c

/-- Does a plain scalar end before a character that is followed by the given rest? -/
def endsBefore (inFlow : Bool) (c : Char) (rest : List Char) : Bool :=
  (c == ':' && isBlankOrEnd rest.head?) || (inFlow && isFlowSign c)

/-- What was read of a plain scalar. -/
structure Reading where
  text : List Char
  overLine : Bool
  cursor : Cursor
  deriving DecidableEq, Repr

/-- Text in front of what was read. -/
def put (text : List Char) : Except Stop Reading → Except Stop Reading
  | .ok r => .ok { r with text := text ++ r.text }
  | .error e => .error e

/-- Reads on at a mark behind a gap; lines have to be moved in to the column `least`. -/
def read (inFlow : Bool) (least : Nat) (start : Mark) (m : Mark) (g : Gap) :
    List Char → Except Stop Reading
  | [] => .ok ⟨[], g.isLines, ⟨m, []⟩⟩
  | c :: cs =>
    if isBlank c then
      if c = '\t' ∧ g.isLines ∧ m.column < least then .error (.within .plain start .plainTab m)
      else read inFlow least start m.next (g.addBlank c) cs
    else if isBreak c then read inFlow least start m.newLine (g.addBreak c) cs
    else if g.isSome && ((!inFlow && m.column < least) || Cursor.isDocumentSign ⟨m, c :: cs⟩ || c == '#') then
      .ok ⟨[], g.isLines, ⟨m, c :: cs⟩⟩
    else if inFlow && c == ':' && cs.head?.any isFlowHazard then
      .error (.within .plain start .plainColon m)
    else if endsBefore inFlow c cs then .ok ⟨[], g.isLines, ⟨m, c :: cs⟩⟩
    else put (g.text ++ [c]) (read inFlow least start (m.after c) .none cs)

end StartupConfig.Yaml.PlainScalar
