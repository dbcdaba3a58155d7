import StartupConfig.Yaml.Token.Property

/-!
# Directives

A directive before a document tells its version or what a tag handle stands for.
-/
namespace StartupConfig.Yaml.Directive

/-- The number that decimal digits denote. -/
def numberOf (digits : List Char) : Nat := digits.foldl (fun n c => 10 * n + (c.toNat - '0'.toNat)) 0

/-- The most digits that a part of a version may have. -/
def longestNumber : Nat := 9

/-- Reads a part of a version. -/
def readNumber (start : Mark) (c : Cursor) : Except Stop (Nat × Cursor) :=
  let digits := c.front Char.isDigit
  if digits.isEmpty then .error (.within .versionDirective start .noVersion c.mark)
  else if longestNumber < digits.length then
    .error (.within .versionDirective start .longVersion
      (c.mark.passing (digits.take longestNumber)))
  else .ok (numberOf digits, c.pass Char.isDigit)

/-- Reads a version. -/
def readVersion (start : Mark) (c : Cursor) : Except Stop (Sign × Cursor) := do
  let (major, c) ← readNumber start c.passBlanks
  if c.head? = some '.' then
    let (minor, c) ← readNumber start c.next
    return (.version major minor, c)
  else throw (.within .versionDirective start .noVersionPoint c.mark)

/-- Reads a tag handle and what it stands for. -/
def readPrefix (start : Mark) (c : Cursor) : Except Stop (Sign × Cursor) := do
  let (handle, c) ← readHandle .tagDirectiveSign start c.passBlanks
  if handle ≠ ['!'] ∧ !isWholeHandle handle then
    throw (.within .tagDirectiveHandle start .noTagSign c.mark)
  else if !c.head?.any isBlank then throw (.within .tagDirective start .noBlank c.mark)
  else
    let (value, c) ← Uri.readSome true .tagDirectiveUri start c.passBlanks
    if isBlankOrEnd c.head? then return (.tagPrefix handle value, c)
    else throw (.within .tagDirective start .noBlankOrEnd c.mark)

/-- Reads the name of a directive. -/
def readDirectiveName (start : Mark) (c : Cursor) : Except Stop (Name × Cursor) :=
  let name := c.front isWord
  let rest := c.pass isWord
  if name.isEmpty then .error (.within .directive start .noDirective rest.mark)
  else if isBlankOrEnd rest.head? then .ok (name, rest)
  else .error (.within .directive start .directiveName rest.mark)

/-- Reads a directive with its line. -/
def read (c : Cursor) : Except Stop (Sign × Cursor) := do
  let start := c.mark
  let (name, c) ← readDirectiveName start c.next
  let (sign, c) ←
    if name = "YAML".toList then readVersion start c
    else if name = "TAG".toList then readPrefix start c
    else throw (.within .directive start .unknownDirective c.mark)
  let c := c.passComment
  if c.atLineEnd then return (sign, c.next) else throw (.within .directive start .noLineEnd c.mark)

end StartupConfig.Yaml.Directive
