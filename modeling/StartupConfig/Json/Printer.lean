import StartupConfig.Tree
import StartupConfig.Integer

/-!
# Writing JSON

A tree is written with every list item and record member on a line of its own, or all on one line; the two
ways differ only in their `Layout`. Quotation marks, backslashes and control characters are escaped in texts.
-/
namespace StartupConfig.Json

/-- Two lower-case hexadecimal digits. -/
def hexByte (n : Nat) : List Char := [Nat.digitChar (n / 16), Nat.digitChar (n % 16)]

/-- A character of a text. -/
def escape (c : Char) : List Char :=
  if c = '"' then ['\\', '"']
  else if c = '\\' then ['\\', '\\']
  else if c = '\x08' then ['\\', 'b']
  else if c = '\x0c' then ['\\', 'f']
  else if c = '\n' then ['\\', 'n']
  else if c = '\r' then ['\\', 'r']
  else if c = '\t' then ['\\', 't']
  else if c.toNat < 0x20 then ['\\', 'u', '0', '0'] ++ hexByte c.toNat
  else [c]

/-- A text between quotation marks. -/
def quote (text : List Char) : List Char := '"' :: text.flatMap escape ++ ['"']

/-- What is written before each item at a depth, and between a member's name and its value. -/
structure Layout where
  lineBreak : Nat → List Char
  colon : List Char

/-- One item a line, two spaces for each level of depth. -/
def Layout.indented : Layout := ⟨fun depth => '\n' :: List.replicate (2 * depth) ' ', [':', ' ']⟩

/-- Everything on one line, without spaces. -/
def Layout.compact : Layout := ⟨fun _ => [], [':']⟩

mutual

/-- A tree at a depth. -/
def write (l : Layout) (depth : Nat) : Tree → List Char
  | .text value => quote value.toList
  | .integer value => Decimal.render value
  | .flag value => if value then ['t', 'r', 'u', 'e'] else ['f', 'a', 'l', 's', 'e']
  | .list [] => ['[', ']']
  | .list (t :: ts) =>
    '[' :: l.lineBreak (depth + 1) ++ write l (depth + 1) t ++ writeItems l (depth + 1) ts
      ++ l.lineBreak depth ++ [']']
  | .record [] => ['{', '}']
  | .record ((name, t) :: ms) =>
    '{' :: l.lineBreak (depth + 1) ++ quote name.toList ++ l.colon ++ write l (depth + 1) t
      ++ writeMembers l (depth + 1) ms ++ l.lineBreak depth ++ ['}']

/-- The items after the first. -/
def writeItems (l : Layout) (depth : Nat) : List Tree → List Char
  | [] => []
  | t :: ts => ',' :: l.lineBreak depth ++ write l depth t ++ writeItems l depth ts

/-- The members after the first. -/
def writeMembers (l : Layout) (depth : Nat) : List (String × Tree) → List Char
  | [] => []
  | (name, t) :: ms =>
    ',' :: l.lineBreak depth ++ quote name.toList ++ l.colon ++ write l depth t
      ++ writeMembers l depth ms

end

/-- A tree over several lines, without a line break at the end. -/
def render (t : Tree) : List Char := write .indented 0 t

/-- A tree on one line. -/
def renderLine (t : Tree) : List Char := write .compact 0 t

end StartupConfig.Json
