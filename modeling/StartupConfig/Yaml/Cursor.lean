import StartupConfig.Yaml.Character

/-!
# Places in a document

A mark counts lines, the characters before it on its line, which are its column, and the bytes of those
characters, all from zero. A cursor is a mark with the text that follows it.
-/
namespace StartupConfig.Yaml

/-- A place in a document. -/
structure Mark where
  line : Nat
  column : Nat
  offset : Nat
  deriving DecidableEq, Repr

namespace Mark

/-- The beginning of a document. -/
def origin : Mark := ⟨0, 0, 0⟩

/-- The place behind a character of one byte that does not end a line. -/
def next (m : Mark) : Mark := ⟨m.line, m.column + 1, m.offset + 1⟩

/-- The place behind a character that ends a line. -/
def newLine (m : Mark) : Mark := ⟨m.line + 1, 0, 0⟩

/-- The place behind a character. -/
def after (m : Mark) (c : Char) : Mark :=
  if isBreak c then m.newLine else ⟨m.line, m.column + 1, m.offset + c.utf8Size⟩

/-- The place behind a text. -/
def passing (m : Mark) (cs : List Char) : Mark := cs.foldl after m

/-- Is this the first column of the first line? -/
def isFirst (m : Mark) : Bool := m.line == 0 && m.column == 0

/-- Do two marks stand at the same line and column? -/
def meets (m n : Mark) : Bool := m.line == n.line && m.column == n.column

end Mark

/-- A place and the text behind it. -/
structure Cursor where
  mark : Mark
  rest : List Char
  deriving DecidableEq, Repr

namespace Cursor

/-- The first character. -/
def head? (c : Cursor) : Option Char := c.rest.head?

/-- The second character. -/
def second? (c : Cursor) : Option Char := c.rest[1]?

/-- Goes over one character. -/
def next (c : Cursor) : Cursor :=
  match c.rest with
  | [] => c
  | x :: xs => ⟨c.mark.after x, xs⟩

/-- The characters of a class at the front. -/
def front (p : Char → Bool) (c : Cursor) : List Char := c.rest.takeWhile p

/-- Goes over the characters of a class. -/
def pass (p : Char → Bool) (c : Cursor) : Cursor := ⟨c.mark.passing (c.front p), c.rest.dropWhile p⟩

/-- Goes over blanks. -/
def passBlanks (c : Cursor) : Cursor := c.pass isBlank

/-- Goes over blanks and a comment, up to the end of the line if nothing else is there. -/
def passComment (c : Cursor) : Cursor :=
  let c := c.passBlanks
  if c.head? = some '#' then c.pass fun x => !isBreak x else c

/-- Is this the end of a line or of the text? -/
def atLineEnd (c : Cursor) : Bool := c.head?.all isBreak

/-- Does a line begin here with the given sign of a document, three characters on their own? -/
def isSign (sign : Char) (c : Cursor) : Bool :=
  c.mark.column == 0 && c.rest.take 3 == [sign, sign, sign] && isBlankOrEnd c.rest[3]?

/-- Does a line begin here with a sign that begins or ends a document? -/
def isDocumentSign (c : Cursor) : Bool := c.isSign '-' || c.isSign '.'

end Cursor

end StartupConfig.Yaml
