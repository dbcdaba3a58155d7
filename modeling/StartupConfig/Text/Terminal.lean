/-!
# Control sequences of terminals

What is left of a text where no terminal reads it: control sequences are left out, and so are control
characters that move to no other column or line.
-/
namespace StartupConfig.Terminal

/-- Where a reader stands: in the text, behind an escape character, behind further signs of an escape, in a
control sequence, or in a string, which a bell may end. -/
inductive Place
  | text
  | escape
  | escapeMore
  | control
  | string (bellEnds : Bool)
  deriving DecidableEq, Repr

/-- Control characters that are left in a text. -/
def isSpacing (c : Char) : Bool := c == '\t' || c == '\n' || c == '\x0c' || c == '\r'

/-- Signs that do not end an escape. -/
def isSign (c : Char) : Bool := ' ' ≤ c && c ≤ '/'

/-- Signs and digits, which do not end a control sequence. -/
def isParameter (c : Char) : Bool := ' ' ≤ c && c ≤ '?'

/-- The place behind a printing character of a sequence. -/
def follow (p : Place) (c : Char) : Place :=
  match p with
  | .escape =>
    if isSign c then .escapeMore
    else if c = '[' then .control
    else if c = ']' then .string true
    else if c = 'P' ∨ c = 'X' ∨ c = '^' ∨ c = '_' then .string false
    else .text
  | .escapeMore => if isSign c then .escapeMore else .text
  | .control => if isParameter c then .control else .text
  | p => p

/-- Reads a character: the place behind it, and what is left of it. Within a sequence a character of several
bytes is cut behind its first byte, and each of the others is left as a replacement character. -/
def step (p : Place) (c : Char) : Place × List Char :=
  if c = '\x1b' then (.escape, [])
  else if c = '\x18' ∨ c = '\x1a' then (.text, [])
  else if p = .text then (p, if (' ' ≤ c ∧ c ≠ '\x7f') ∨ isSpacing c then [c] else [])
  else if '\x7f' < c then (.text, List.replicate (c.utf8Size - 1) '\uFFFD')
  else
    match p with
    | .string bellEnds => (if bellEnds ∧ c = '\x07' then .text else p, [])
    | p =>
      if isSpacing c then (.text, [c])
      else if c < ' ' ∨ c = '\x7f' then (p, [])
      else (follow p c, [])

/-- What is left of a text behind a place. -/
def strip (p : Place) : List Char → List Char
  | [] => []
  | c :: cs => (step p c).2 ++ strip (step p c).1 cs

/-- A text without control sequences. -/
def plain (text : List Char) : List Char := strip .text text

end StartupConfig.Terminal
