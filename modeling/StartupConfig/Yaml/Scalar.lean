import StartupConfig.Yaml.Character
import StartupConfig.Yaml.Untagged

/-!
# Writing a text as a scalar

A text is written without quotes where that reads back as the same text, else between single quotation marks,
else between double ones; a text with line breaks is written as a literal block where a block can hold it.
`Shape` lists what the choice depends on.
-/
namespace StartupConfig.Yaml

/-- Characters that may be written as they are. -/
def isPrintable (c : Char) : Bool :=
  let n := c.toNat
  n == 0x0A || (0x20 ≤ n && n ≤ 0x7E) || (0xA0 ≤ n && n ≤ 0xD7FF)
    || (0xE000 ≤ n && n ≤ 0xFFFD && n != 0xFEFF) || 0x10000 ≤ n

namespace Scalar

/-- The ways to write a text. -/
inductive Style
  | plain
  | singleQuoted
  | doubleQuoted
  | literal
  deriving DecidableEq, Repr

/-- Characters that mean something else than text at the beginning of a scalar. -/
def opening : List Char :=
  ['#', ',', '[', ']', '{', '}', '&', '*', '!', '|', '>', '\'', '"', '%', '@', '\x60']

/-- Does the beginning of a text mean something else than text? -/
def hasOpening : List Char → Bool
  | '-' :: '-' :: '-' :: _ => true
  | '.' :: '.' :: '.' :: _ => true
  | [] => false
  | c :: cs =>
    opening.contains c || ((c == '?' || c == ':' || c == '-') && isBlankOrEnd cs.head?)

/-- Does a text hold, after its first character `before`, a mapping colon or a comment? -/
def hasInner : Char → List Char → Bool
  | _, [] => false
  | before, c :: cs =>
    (c == ':' && isBlankOrEnd cs.head?) || (c == '#' && isBlankOrEnd (some before)) || hasInner c cs

/-- Does a character of the first class stand directly before one of the second? -/
def hasPair (first second : Char → Bool) : List Char → Bool
  | a :: b :: cs => (first a && second b) || hasPair first second (b :: cs)
  | _ => false

/-- A blank as it can stand at the ends of lines. -/
def isSpace (c : Char) : Bool := c == ' '

/-- What the choice of a style depends on. -/
structure Shape where
  indicator : Bool
  edge : Bool
  trailingSpace : Bool
  breakSpace : Bool
  unsafeMix : Bool
  lineBreak : Bool

/-- The shape of a text. -/
def shape (s : List Char) : Shape where
  indicator := hasOpening s || (match s with | [] => false | c :: cs => hasInner c cs)
  edge := (s.head?.any fun c => isSpace c || isBreak c)
    || (s.getLast?.any fun c => isSpace c || isBreak c)
  trailingSpace := s.getLast?.any isSpace
  breakSpace := hasPair isBreak isSpace s
  unsafeMix := hasPair isSpace isBreak s || s.any fun c => !isPrintable c
  lineBreak := s.any isBreak

/-- The style that a text asks for. -/
def wanted (s : List Char) : Style :=
  if s.contains '\n' then .literal
  else if Untagged.isAmbiguous s then .singleQuoted
  else .plain

/-- The style that a text gets: the one it asks for, or the first after it that can hold the text. -/
def style (s : List Char) : Style :=
  let h := shape s
  let single := if h.breakSpace || h.unsafeMix then Style.doubleQuoted else .singleQuoted
  match wanted s with
  | .plain =>
    if h.indicator || h.edge || h.breakSpace || h.unsafeMix || h.lineBreak then single else .plain
  | .literal => if h.trailingSpace || h.unsafeMix then .doubleQuoted else .literal
  | _ => single

/-- Spaces at the beginning of a line. -/
def margin (indent : Nat) : List Char := List.replicate indent ' '

/-- The inside of single quotation marks: a quotation mark is doubled, and a line after a break is moved in
by the margin. -/
def singleBody (indent : Nat) (atLineStart : Bool) : List Char → List Char
  | [] => if atLineStart then margin indent else []
  | c :: cs =>
    if isBreak c then c :: singleBody indent true cs
    else
      (if atLineStart then margin indent else []) ++ (if c = '\'' then ['\'', '\''] else [c])
        ++ singleBody indent false cs

/-- A number in a given count of upper-case hexadecimal digits. -/
def hex (count n : Nat) : List Char :=
  let ds := (Nat.toDigits 16 n).map Char.toUpper
  List.replicate (count - ds.length) '0' ++ ds

/-- The letters that stand for characters between double quotation marks. -/
def shortEscapes : List (Char × Char) :=
  [('\x00', '0'), ('\x07', 'a'), ('\x08', 'b'), ('\t', 't'), ('\n', 'n'), ('\x0b', 'v'), ('\x0c', 'f'),
    ('\r', 'r'), ('\x1b', 'e'), ('"', '"'), ('\\', '\\'), ('\x85', 'N'), ('\xa0', '_'),
    ('\u2028', 'L'), ('\u2029', 'P')]

/-- A character between double quotation marks. -/
def escape (c : Char) : List Char :=
  if isPrintable c && !isBreak c && c != '"' && c != '\\' then [c]
  else
    match shortEscapes.lookup c with
    | some letter => ['\\', letter]
    | none =>
      if c.toNat ≤ 0xFF then ['\\', 'x'] ++ hex 2 c.toNat
      else if c.toNat ≤ 0xFFFF then ['\\', 'u'] ++ hex 4 c.toNat
      else ['\\', 'U'] ++ hex 8 c.toNat

/-- The marks of a literal block: the width of the margin when the text begins with a space or a break, and
what becomes of the break at the end. -/
def literalMarks (s : List Char) : List Char :=
  (if s.head?.any fun c => isSpace c || isBreak c then ['2'] else [])
    ++ match s.reverse with
      | [] => ['-']
      | [c] => if isBreak c then ['+'] else ['-']
      | c :: d :: _ => if !isBreak c then ['-'] else if isBreak d then ['+'] else []

/-- The lines of a literal block, each that is not empty behind the margin. -/
def literalBody (indent : Nat) (atLineStart : Bool) : List Char → List Char
  | [] => []
  | c :: cs =>
    if isBreak c then c :: literalBody indent true cs
    else (if atLineStart then margin indent else []) ++ c :: literalBody indent false cs

/-- A text in a style; lines after the first are moved in by the margin. -/
def writeAs (indent : Nat) (s : List Char) : Style → List Char
  | .plain => s
  | .singleQuoted => '\'' :: singleBody indent false s ++ ['\'']
  | .doubleQuoted => '"' :: s.flatMap escape ++ ['"']
  | .literal => '|' :: literalMarks s ++ '\n' :: literalBody indent true s

/-- A text with the end of its line; a literal block whose text ends with a break has ended its line. -/
def writeLine (indent : Nat) (s : List Char) : List Char :=
  let st := style s
  writeAs indent s st
    ++ if st = .literal ∧ s.getLast?.any isBreak then [] else ['\n']

end Scalar

end StartupConfig.Yaml
