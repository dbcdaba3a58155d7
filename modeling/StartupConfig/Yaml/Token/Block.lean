import StartupConfig.Yaml.Fault
import StartupConfig.Yaml.Gap

/-!
# Block scalars

The lines of a block scalar stand behind a margin, which its first line tells or sets. Ends of lines are kept
in a literal block. In a folded one a single end of a line between two lines that begin without a blank
becomes a space. What becomes of the ends of lines behind the text is told at the beginning.
-/
namespace StartupConfig.Yaml.BlockScalar

/-- What becomes of the ends of lines behind the text: none is kept, or one, or all. -/
inductive Tail
  | none
  | one
  | all
  deriving DecidableEq, Repr

/-- What the first line of a block scalar tells. The width is that of the margin; zero says nothing. -/
structure Header where
  tail : Tail
  width : Nat
  deriving DecidableEq, Repr

/-- The sign for the ends of lines behind the text. -/
def tail? : Option Char → Option Tail
  | some '+' => some .all
  | some '-' => some .none
  | _ => .none

/-- Reads the width of the margin, if there is one. -/
def readWidth (start : Mark) (c : Cursor) : Except Stop (Option Nat × Cursor) :=
  match c.head? with
  | some d =>
    if d = '0' then .error (.within .block start .zeroMargin c.mark)
    else if d.isDigit then .ok (some (d.toNat - '0'.toNat), c.next)
    else .ok (.none, c)
  | .none => .ok (.none, c)

/-- Reads the signs of a header, in either order. -/
def readSigns (start : Mark) (c : Cursor) : Except Stop (Header × Cursor) :=
  match tail? c.head? with
  | some tail => do
    let (width, c) ← readWidth start c.next
    return (⟨tail, width.getD 0⟩, c)
  | .none => do
    let (width, c) ← readWidth start c
    match width, tail? c.head? with
    | some width, some tail => return (⟨tail, width⟩, c.next)
    | width, _ => return (⟨.one, width.getD 0⟩, c)

/-- Reads a header behind the sign of the scalar, to the end of its line. -/
def readHeader (start : Mark) (c : Cursor) : Except Stop (Header × Cursor) := do
  let (header, c) ← readSigns start c
  let c := c.passComment
  if c.atLineEnd then return (header, c.next)
  else throw (.within .block start .noLineEnd c.mark)

/-- The empty lines before the text, and the widest margin among them and the first line of text. -/
structure Lead where
  widest : Nat
  breaks : List Char
  cursor : Cursor
  deriving DecidableEq, Repr

/-- Goes over empty lines and the margin of the first line of text; a width of zero says nothing. -/
def readLead (width : Nat) (start m : Mark) (widest : Nat) (breaks : List Char) :
    List Char → Except Stop Lead
  | [] => .ok ⟨max widest m.column, breaks, ⟨m, []⟩⟩
  | c :: cs =>
    if c = ' ' ∧ (width = 0 ∨ m.column < width) then readLead width start m.next widest breaks cs
    else if c = '\t' ∧ (width = 0 ∨ m.column < width) then .error (.within .block start .marginTab m)
    else if isBreak c then readLead width start m.newLine (max widest m.column) (breaks ++ [c]) cs
    else .ok ⟨max widest m.column, breaks, ⟨m, c :: cs⟩⟩

/-- Where a reader of the text stands: in a line, or in the margin behind ends of lines. `wasBlank` tells
whether the line before begins with a blank. -/
inductive Place
  | line (isBlank : Bool)
  | margin (first more : List Char) (wasBlank : Bool)
  deriving DecidableEq, Repr

/-- Text in front of what was read. -/
def put (text : List Char) : Except Stop (List Char × Cursor) → Except Stop (List Char × Cursor)
  | .ok (s, rest) => .ok (text ++ s, rest)
  | .error e => .error e

/-- What the ends of lines behind the text add to it. -/
def Tail.keep (first more : List Char) : Tail → List Char
  | .none => []
  | .one => first
  | .all => first ++ more

/-- Reads the text behind a margin of known width. -/
def readText (isFolded : Bool) (tail : Tail) (width : Nat) (start m : Mark) :
    Place → List Char → Except Stop (List Char × Cursor)
  | .line _, [] => .ok ([], ⟨m, []⟩)
  | .margin first more _, [] => .ok (tail.keep first more, ⟨m, []⟩)
  | .line b, c :: cs =>
    if isBreak c then readText isFolded tail width start m.newLine (.margin [c] [] b) cs
    else put [c] (readText isFolded tail width start (m.after c) (.line b) cs)
  | .margin first more b, c :: cs =>
    if c = ' ' ∧ m.column < width then
      readText isFolded tail width start m.next (.margin first more b) cs
    else if c = '\t' ∧ m.column < width then .error (.within .block start .marginTab m)
    else if isBreak c then
      readText isFolded tail width start m.newLine (.margin first (more ++ [c]) b) cs
    else if m.column = width then
      let gap := if isFolded && !b && !isBlank c then foldBreaks first more else first ++ more
      put (gap ++ [c]) (readText isFolded tail width start (m.after c) (.line (isBlank c)) cs)
    else .ok (tail.keep first more, ⟨m, c :: cs⟩)

/-- Reads a block scalar behind its sign; `outer` is the column of what the scalar stands in. -/
def read (isFolded : Bool) (outer : Nat) (start : Mark) (c : Cursor) :
    Except Stop (List Char × Cursor) := do
  let (header, c) ← readHeader start c
  let told := if header.width = 0 then 0 else outer + header.width
  let lead ← readLead told start c.mark 0 [] c.rest
  let width := if told = 0 then max lead.widest (outer + 1) else told
  readText isFolded header.tail width start lead.cursor.mark (.margin [] lead.breaks false)
    lead.cursor.rest

end StartupConfig.Yaml.BlockScalar
