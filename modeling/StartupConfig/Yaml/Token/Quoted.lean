import StartupConfig.Integer
import StartupConfig.Yaml.Fault
import StartupConfig.Yaml.Gap

/-!
# Quoted scalars

Between single quotation marks only the mark itself is written twice; between double ones a backslash begins
an escape, and at the end of a line it joins the lines.
-/
namespace StartupConfig.Yaml.QuotedScalar

/-- The character that a letter stands for behind a backslash. -/
def unescape? (c : Char) : Option Char :=
  [('0', '\x00'), ('a', '\x07'), ('b', '\x08'), ('t', '\t'), ('\t', '\t'), ('n', '\n'), ('v', '\x0b'),
    ('f', '\x0c'), ('r', '\r'), ('e', '\x1b'), (' ', ' '), ('"', '"'), ('/', '/'), ('\\', '\\'),
    ('N', '\x85'), ('_', '\xa0'), ('L', '\u2028'), ('P', '\u2029')].lookup c

/-- How many hexadecimal digits follow a letter behind a backslash. -/
def codeLength? (c : Char) : Option Nat := [('x', 2), ('u', 4), ('U', 8)].lookup c

/-- The character that a number denotes. -/
def character? (n : Nat) : Option Char := if h : n.isValidChar then some (Char.ofNatAux n h) else none

/-- Where a reader of a quoted scalar stands: behind a gap, behind a backslash, inside an escape with digits
still to come, or behind a single quotation mark. -/
inductive Place
  | gap (g : Gap)
  | escape (start : Mark)
  | code (left value : Nat) (start : Mark)
  | quote
  deriving DecidableEq, Repr

/-- Text in front of what was read. -/
def put (text : List Char) : Except Stop (List Char × Cursor) → Except Stop (List Char × Cursor)
  | .ok (s, rest) => .ok (text ++ s, rest)
  | .error e => .error e

/-- Reads on at a mark, up to the closing quotation mark. -/
def read (isDouble : Bool) (start : Mark) (m : Mark) : Place → List Char → Except Stop (List Char × Cursor)
  | .gap _, [] => .error (.within .quoted start .endOfText m)
  | .escape at₀, [] => .error (.within .quotedEscape start .unknownEscape at₀)
  | .code _ _ at₀, [] => .error (.within .quotedEscape start .noHexDigit at₀)
  | .quote, [] => .ok ([], ⟨m, []⟩)
  | .gap g, c :: cs =>
    if isBlank c then read isDouble start m.next (.gap (g.addBlank c)) cs
    else if isBreak c then read isDouble start m.newLine (.gap (g.addBreak c)) cs
    else if Cursor.isDocumentSign ⟨m, c :: cs⟩ then .error (.within .quoted start .documentSign m)
    else if isDouble && c == '"' then .ok (g.text, ⟨m.next, cs⟩)
    else if isDouble && c == '\\' then put g.text (read isDouble start m.next (.escape m) cs)
    else if !isDouble && c == '\'' then put g.text (read isDouble start m.next .quote cs)
    else put (g.text ++ [c]) (read isDouble start (m.after c) (.gap .none) cs)
  | .escape at₀, c :: cs =>
    if isBreak c then read isDouble start m.newLine (.gap (.lines [] [])) cs
    else
      match codeLength? c with
      | some n => read isDouble start m.next (.code n 0 m.next) cs
      | none =>
        match unescape? c with
        | some x => put [x] (read isDouble start m.next (.gap .none) cs)
        | none => .error (.within .quotedEscape start .unknownEscape at₀)
  | .code left value at₀, c :: cs =>
    match Digits.value? 16 c with
    | none => .error (.within .quotedEscape start .noHexDigit at₀)
    | some d =>
      let value := value * 16 + d
      if left ≤ 1 then
        match character? value with
        | none => .error (.within .quotedEscape start .noCharacter at₀)
        | some x => put [x] (read isDouble start m.next (.gap .none) cs)
      else read isDouble start m.next (.code (left - 1) value at₀) cs
  | .quote, c :: cs =>
    if c = '\'' then put [c] (read isDouble start m.next (.gap .none) cs) else .ok ([], ⟨m, c :: cs⟩)

end StartupConfig.Yaml.QuotedScalar
