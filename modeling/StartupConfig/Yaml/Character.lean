/-!
# Characters of documents

Which characters a document may hold, which of them end a line, and which separate words.
-/
namespace StartupConfig.Yaml

/-- Characters that end a line. -/
def isBreak (c : Char) : Bool :=
  c == '\n' || c == '\r' || c == '\x85' || c == '\u2028' || c == '\u2029'

/-- Characters that separate words on a line. -/
def isBlank (c : Char) : Bool := c == ' ' || c == '\t'

/-- A blank, a line break or the end of the text. -/
def isBlankOrEnd : Option Char → Bool
  | none => true
  | some c => isBlank c || isBreak c

/-- Characters of names. -/
def isWord (c : Char) : Bool := c.isAlphanum || c == '_' || c == '-'

/-- Characters that a document may hold. -/
def isAllowed (c : Char) : Bool :=
  let n := c.toNat
  n == 0x09 || n == 0x0A || n == 0x0D || (0x20 ≤ n && n ≤ 0x7E) || n == 0x85
    || (0xA0 ≤ n && n ≤ 0xD7FF) || (0xE000 ≤ n && n ≤ 0xFFFD) || 0x10000 ≤ n

/-- The bytes of a piece of a document. A document is looked at piece by piece, each as a whole. -/
def pieceSize : Nat := 16384

/-- The text from the first piece on that holds a character no document may hold, if there is one. `piece` is
the text from the beginning of a piece on, and `room` the number of bytes that still fit into it; a character
that does not fit begins the next piece. -/
def unreadable (piece : List Char) (room : Nat) : List Char → Option (List Char)
  | [] => none
  | c :: cs =>
    let piece := if room < c.utf8Size then c :: cs else piece
    let room := if room < c.utf8Size then pieceSize else room
    if isAllowed c then unreadable piece (room - c.utf8Size) cs else some piece

/-- A text in which every end of line that is read as a newline is written as one. -/
def unifyBreaks : List Char → List Char
  | [] => []
  | '\r' :: '\n' :: cs => '\n' :: unifyBreaks cs
  | c :: cs => (if c = '\r' ∨ c = '\x85' then '\n' else c) :: unifyBreaks cs

/-- The mark in front of a text or of one of its lines that tells how it is encoded. -/
def byteOrderMark : Char := '\uFEFF'

end StartupConfig.Yaml
