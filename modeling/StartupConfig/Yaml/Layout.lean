import StartupConfig.Yaml.Token.Block
import StartupConfig.Yaml.Token.Directive
import StartupConfig.Yaml.Token.Plain
import StartupConfig.Yaml.Token.Quoted

/-!
# From layout to tokens

A reader goes over a document and remembers the columns of open block collections and the nodes that may
turn out to be keys. A node is known to be a key when a colon follows it on its line; its token of a key goes
in front of it then. So tokens are handed on only when no key can get in front of them any more.
-/
namespace StartupConfig.Yaml

/-- A node that may turn out to be a key, with the number of its first token. If it stands where only a key can
stand, it is required to be one. -/
structure Candidate where
  number : Nat
  isRequired : Bool
  mark : Mark
  deriving DecidableEq, Repr

namespace Candidate

/-- The most bytes from the beginning of a key to its colon, which stands on the same line. -/
def reach : Nat := 1024

/-- Is a mark too far from a node for it to be a key? -/
def isStale (m : Mark) (k : Candidate) : Bool :=
  k.mark.line < m.line || k.mark.offset + reach < m.offset

end Candidate

/-- The reader of a document. Tokens that are not handed on yet are kept with the latest first; columns and
enclosing flow collections with the innermost first. -/
structure Layout where
  cursor : Cursor
  columns : List Nat
  candidate : Option Candidate
  enclosing : List (Option Candidate)
  keyAllowed : Bool
  waiting : List Token
  handedOn : Nat
  deriving DecidableEq, Repr

namespace Layout

/-- The reader at the beginning of a text. -/
def start (text : List Char) : Layout where
  cursor := ⟨.origin, text⟩
  columns := []
  candidate := none
  enclosing := []
  keyAllowed := true
  waiting := []
  handedOn := 0

/-- Is the reader inside a flow collection? -/
def inFlow (s : Layout) : Bool := !s.enclosing.isEmpty

/-- The place of the reader. -/
def mark (s : Layout) : Mark := s.cursor.mark

/-- The number of the next token. -/
def number (s : Layout) : Nat := s.handedOn + s.waiting.length

/-- The nodes that may turn out to be keys, the outermost first. -/
def candidates (s : Layout) : List Candidate := (s.candidate :: s.enclosing).reverse.filterMap id

/-- Adds a token. -/
def add (sign : Sign) (start : Mark) (s : Layout) : Layout :=
  { s with waiting := ⟨sign, start⟩ :: s.waiting }

/-- Adds tokens in front of the token of a number. -/
def addBefore (number : Nat) (tokens : List Token) (s : Layout) : Layout :=
  let behind := s.number - number
  { s with waiting := s.waiting.take behind ++ tokens.reverse ++ s.waiting.drop behind }

/-- A required key without a colon. -/
def keyFault (s : Layout) (k : Candidate) : Stop := .within .simpleKey k.mark .keyWithoutColon s.mark

/-- Gives up the nodes that are too far away to be keys. -/
def giveUp (s : Layout) : Except Stop Layout :=
  let isStale := Candidate.isStale s.mark
  match s.candidates.find? fun k => isStale k && k.isRequired with
  | some k => .error (s.keyFault k)
  | none =>
    .ok { s with
      candidate := s.candidate.filter fun k => !isStale k
      enclosing := s.enclosing.map fun k => k.filter fun k => !isStale k }

/-- Gives up the latest node that may be a key. -/
def giveUpLatest (s : Layout) : Except Stop Layout :=
  match s.candidate with
  | some k => if k.isRequired then .error (s.keyFault k) else .ok { s with candidate := none }
  | none => .ok s

/-- Remembers that a node that may be a key begins here. -/
def saveCandidate (s : Layout) : Except Stop Layout :=
  if s.keyAllowed then do
    let isRequired := !s.inFlow && s.columns.head? == some s.mark.column
    let k : Candidate := ⟨s.number, isRequired, s.mark⟩
    let s ← s.giveUpLatest
    return { s with candidate := some k }
  else .ok s

/-- Ends the innermost block collections whose columns are of a class. -/
def close (p : Nat → Bool) (s : Layout) : Layout :=
  if s.inFlow then s
  else
    { s with
      waiting := (s.columns.takeWhile p).map (fun _ => ⟨.blockEnd, s.mark⟩) ++ s.waiting
      columns := s.columns.dropWhile p }

/-- Does a block collection begin at a column? -/
def isOpening (column : Nat) (s : Layout) : Bool := !s.inFlow && s.columns.head?.all (· < column)

/-- Begins a block collection at the place of the reader, unless one is open there. -/
def openHere (sign : Sign) (s : Layout) : Layout :=
  if s.isOpening s.mark.column then
    { s.add sign s.mark with columns := s.mark.column :: s.columns }
  else s

/-- The node that may be a key turns out to be one; it begins a block record unless one is open there. -/
def confirm (k : Candidate) (s : Layout) : Layout :=
  let key : Token := ⟨.key, k.mark⟩
  if s.isOpening k.mark.column then
    { s.addBefore k.number [⟨.blockRecord, k.mark⟩, key] with
      columns := k.mark.column :: s.columns, candidate := none }
  else { s.addBefore k.number [key] with candidate := none }

/-- Goes over the character of a sign. -/
def pass (sign : Sign) (s : Layout) : Layout :=
  { s.add sign s.mark with cursor := s.cursor.next }

/-- Says whether the next node may be a key. -/
def allowKey (allowed : Bool) (s : Layout) : Layout := { s with keyAllowed := allowed }

/-- Goes over blanks, comments and ends of lines. A new line allows keys, outside flow collections; tabs count
as blanks where a key is not allowed. One byte order mark may begin a line. -/
def passSpace (inFlow : Bool) (inComment keyAllowed : Bool) (m : Mark) : List Char → Bool × Cursor
  | [] => (keyAllowed, ⟨m, []⟩)
  | c :: cs =>
    if isBreak c then passSpace inFlow false (keyAllowed || !inFlow) m.newLine cs
    else if inComment || c == ' ' || (c == '\t' && (inFlow || !keyAllowed))
        || (c == byteOrderMark && m.column == 0) then
      passSpace inFlow inComment keyAllowed (m.after c) cs
    else if c = '#' then passSpace inFlow true keyAllowed m.next cs
    else (keyAllowed, ⟨m, c :: cs⟩)

/-- Goes to the next token: block collections end that stand further to the right. -/
def goToToken (s : Layout) : Except Stop Layout := do
  let (keyAllowed, cursor) := passSpace s.inFlow false s.keyAllowed s.mark s.cursor.rest
  let s ← { s with keyAllowed, cursor }.giveUp
  return s.close (s.mark.column < ·)

/-- The end of the text, which ends its last line. -/
def endStream (s : Layout) : Except Stop Layout := do
  let s := if s.mark.column = 0 then s else { s with cursor.mark := s.mark.newLine }
  let s ← (s.close fun _ => true).giveUpLatest
  return (s.allowKey false).add .streamEnd s.mark

/-- A directive. -/
def readDirective (s : Layout) : Except Stop Layout := do
  let s ← (s.close fun _ => true).giveUpLatest
  let (sign, cursor) ← Directive.read s.cursor
  return { (s.allowKey false).add sign s.mark with cursor }

/-- A sign that begins or ends a document. -/
def readDocumentSign (sign : Sign) (s : Layout) : Except Stop Layout := do
  let s ← (s.close fun _ => true).giveUpLatest
  return { (s.allowKey false).add sign s.mark with cursor := s.cursor.next.next.next }

/-- The beginning of a flow collection. -/
def openFlow (sign : Sign) (s : Layout) : Except Stop Layout := do
  let s ← s.saveCandidate
  return ({ s with candidate := none, enclosing := s.candidate :: s.enclosing }.allowKey true).pass sign

/-- The end of a flow collection. -/
def closeFlow (sign : Sign) (s : Layout) : Except Stop Layout := do
  let s ← s.giveUpLatest
  let s := match s.enclosing with
    | [] => s
    | k :: ks => { s with candidate := k, enclosing := ks }
  return (s.allowKey false).pass sign

/-- A comma in a flow collection. -/
def readComma (s : Layout) : Except Stop Layout := do
  let s ← s.giveUpLatest
  return (s.allowKey true).pass .comma

/-- A dash in front of an item. -/
def readItem (s : Layout) : Except Stop Layout := do
  if !s.inFlow && !s.keyAllowed then throw (.plain .misplacedItem s.mark)
  let s ← (s.openHere .blockList).giveUpLatest
  return (s.allowKey true).pass .item

/-- A question mark in front of a key. -/
def readKey (s : Layout) : Except Stop Layout := do
  if !s.inFlow && !s.keyAllowed then throw (.plain .misplacedKey s.mark)
  let s ← (s.openHere .blockRecord).giveUpLatest
  return (s.allowKey !s.inFlow).pass .key

/-- A colon in front of a value. -/
def readValue (s : Layout) : Except Stop Layout :=
  match s.candidate with
  | some k => .ok (((s.confirm k).allowKey false).pass .value)
  | none =>
    if !s.inFlow && !s.keyAllowed then .error (.plain .misplacedValue s.mark)
    else .ok (((s.openHere .blockRecord).allowKey !s.inFlow).pass .value)

/-- A token that may begin a key; behind it no key is allowed. -/
def readLeading (read : Layout → Except Stop (Sign × Cursor)) (s : Layout) : Except Stop Layout := do
  let s ← s.saveCandidate
  let (sign, cursor) ← read s
  return { (s.allowKey false).add sign s.mark with cursor }

/-- An anchor or an alias. -/
def readNamed (context : Context) (sign : Name → Sign) (s : Layout) : Except Stop (Sign × Cursor) := do
  let (name, cursor) ← readName context s.cursor
  return (sign name, cursor)

/-- A tag. -/
def readTagged (s : Layout) : Except Stop (Sign × Cursor) := do
  let ((handle, suffix), cursor) ← readTag s.inFlow s.cursor
  return (.tag handle suffix, cursor)

/-- A quoted scalar. -/
def readQuoted (isDouble : Bool) (s : Layout) : Except Stop (Sign × Cursor) := do
  let c := s.cursor.next
  let (text, cursor) ← QuotedScalar.read isDouble s.mark c.mark (.gap .none) c.rest
  return (.scalar .quoted text, cursor)

/-- A block scalar. No key can begin with it, but one may follow. -/
def readBlock (isFolded : Bool) (s : Layout) : Except Stop Layout := do
  let s ← s.giveUpLatest
  let (text, cursor) ← BlockScalar.read isFolded (s.columns.head?.getD 0) s.mark s.cursor.next
  let form := if isFolded then Form.folded else .literal
  return { (s.allowKey true).add (.scalar form text) s.mark with cursor }

/-- A plain scalar. Behind the end of a line a key is allowed. -/
def readPlain (s : Layout) : Except Stop Layout := do
  let s ← s.saveCandidate
  let least := match s.columns.head? with
    | some column => column + 1
    | none => 0
  let r ← PlainScalar.read s.inFlow least s.mark s.mark .none s.cursor.rest
  return { (s.allowKey r.overLine).add (.scalar .plain r.text) s.mark with cursor := r.cursor }

/-- Signs that no plain scalar begins with. -/
def reserved : List Char :=
  ['-', '?', ':', ',', '[', ']', '{', '}', '#', '&', '*', '!', '|', '>', '\'', '"', '%', '@', '\x60']

/-- Does a plain scalar begin with a character that is followed by the given one? -/
def beginsPlain (inFlow : Bool) (c : Char) (following : Option Char) : Bool :=
  !(isBlank c || isBreak c || reserved.contains c) || (c == '-' && !following.any isBlank)
    || (!inFlow && (c == '?' || c == ':') && !isBlankOrEnd following)

/-- Reads the token that begins at a character. -/
def readAt (c : Char) (s : Layout) : Except Stop Layout :=
  let following := s.cursor.second?
  let isAlone := isBlankOrEnd following
  if c == '%' && s.mark.column == 0 then s.readDirective
  else if s.cursor.isSign '-' then s.readDocumentSign .documentStart
  else if s.cursor.isSign '.' then s.readDocumentSign .documentEnd
  else if c = '[' then s.openFlow .flowList
  else if c = '{' then s.openFlow .flowRecord
  else if c = ']' then s.closeFlow .flowListEnd
  else if c = '}' then s.closeFlow .flowRecordEnd
  else if c = ',' then s.readComma
  else if c == '-' && isAlone then s.readItem
  else if c == '?' && (s.inFlow || isAlone) then s.readKey
  else if c == ':' && (s.inFlow || isAlone) then s.readValue
  else if c = '*' then s.readLeading (readNamed .alias .alias)
  else if c = '&' then s.readLeading (readNamed .anchor .anchor)
  else if c = '!' then s.readLeading readTagged
  else if c == '|' && !s.inFlow then s.readBlock false
  else if c == '>' && !s.inFlow then s.readBlock true
  else if c = '\'' then s.readLeading (readQuoted false)
  else if c = '"' then s.readLeading (readQuoted true)
  else if beginsPlain s.inFlow c following then s.readPlain
  else .error (.within .token s.mark .noToken s.mark)

/-- Reads the next token. -/
def step (s : Layout) : Except Stop Layout := do
  let s ← s.goToToken
  match s.cursor.rest with
  | [] => s.endStream
  | c :: _ => s.readAt c

/-- Hands on the tokens that no key can get in front of. -/
def release (s : Layout) : List Token × Layout :=
  let kept := match s.candidates with
    | [] => 0
    | k :: _ => s.number - k.number
  let ready := s.waiting.drop kept
  (ready.reverse, { s with waiting := s.waiting.take kept, handedOn := s.handedOn + ready.length })

end Layout

/-- The tokens of a text, as far as it is well formed, and where it is not. -/
structure Tokens where
  list : List Token
  stop : Option Stop
  deriving DecidableEq, Repr

namespace Tokens

/-- Tokens in front of others. -/
def after (front : List Token) (ts : Tokens) : Tokens := { ts with list := front ++ ts.list }

/-- An end of the text that cannot be read, by its length, and why. -/
structure Barrier where
  length : Nat
  stop : Stop
  deriving DecidableEq, Repr

/-- How many characters are looked at in order to tell where a token ends. -/
def lookahead : Nat := 4

/-- Is a token too near to the end that cannot be read? -/
def Barrier.covers (b : Barrier) (s : Layout) : Bool := s.cursor.rest.length < b.length + lookahead

/-- The tokens from a reader on. Each step goes over some text, except the last one, at its end. -/
def ofLayout (barrier : Option Barrier) (s : Layout) : Tokens :=
  match s.step.bind Layout.giveUp with
  | .error e => ⟨[], some e⟩
  | .ok next =>
    match barrier.filter (·.covers next) with
    | some b => ⟨[], some b.stop⟩
    | none =>
      let (ready, next) := next.release
      if _h : next.cursor.rest.length < s.cursor.rest.length then after ready (ofLayout barrier next)
      else ⟨ready, none⟩
termination_by s.cursor.rest.length

/-- The tokens of a text. A character that no document may hold is found when its piece is reached. -/
def of (text : List Char) : Tokens :=
  match unreadable text pieceSize text with
  | none => ofLayout none (.start (unifyBreaks text))
  | some piece =>
    let stop := .forbiddenCharacter (Utf8.size (text.takeWhile isAllowed))
    let barrier := ⟨(unifyBreaks piece).length, stop⟩
    if barrier.covers (.start (unifyBreaks text)) then ⟨[], some stop⟩
    else ofLayout (some barrier) (.start (unifyBreaks text))

end Tokens

end StartupConfig.Yaml
