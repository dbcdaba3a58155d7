import StartupConfig.Integer
import StartupConfig.Text.Utf8
import StartupConfig.Yaml.Fault
import StartupConfig.Yaml.Token

/-!
# Anchors, aliases and tags

An anchor or an alias is a name behind a sign. A tag is a handle and a suffix; the suffix is a URI in which
octets may be written as two hexadecimal digits behind a percent sign.
-/
namespace StartupConfig.Yaml

/-- Signs that may follow the name of an anchor or an alias. -/
def afterName : List Char := ['?', ':', ',', ']', '}', '%', '@', '\x60']

/-- Reads a name behind its sign. -/
def readName (context : Context) (c : Cursor) : Except Stop (Name × Cursor) :=
  let name := c.next.front isWord
  let rest := c.next.pass isWord
  if !name.isEmpty && (isBlankOrEnd rest.head? || rest.head?.any afterName.contains) then .ok (name, rest)
  else .error (.within context c.mark .noName rest.mark)

namespace Uri

/-- Characters of a URI; a URI between angle brackets may hold signs of flow collections as well. -/
def isPart (isBracketed : Bool) (c : Char) : Bool :=
  isWord c || [';', '/', '?', ':', '@', '&', '=', '+', '$', '.', '%', '!', '~', '*', '\'', '(', ')'].contains c
    || (isBracketed && (c == ',' || c == '[' || c == ']'))

/-- How many octets follow a leading octet of a character. -/
def followers? (octet : Nat) : Option Nat :=
  if octet < 0x80 then some 0
  else if 0xC0 ≤ octet ∧ octet < 0xE0 then some 1
  else if 0xE0 ≤ octet ∧ octet < 0xF0 then some 2
  else if 0xF0 ≤ octet ∧ octet < 0xF8 then some 3
  else none

/-- Octets in front of what was read. -/
def put (octets : Utf8.Bytes) : Except Stop (Utf8.Bytes × Cursor) → Except Stop (Utf8.Bytes × Cursor)
  | .ok (s, rest) => .ok (octets ++ s, rest)
  | .error e => .error e

/-- Reads the octets of a URI; `left` octets of a character that has begun are still to come. -/
def read (isBracketed : Bool) (context : Context) (start m : Mark) (left : Nat) :
    List Char → Except Stop (Utf8.Bytes × Cursor)
  | '%' :: a :: b :: cs =>
    match Digits.value? 16 a, Digits.value? 16 b with
    | some x, some y =>
      let octet := x * 16 + y
      let rest := fun left =>
        put [octet.toUInt8] (read isBracketed context start m.next.next.next left cs)
      if left = 0 then
        match followers? octet with
        | some n => rest n
        | none => .error (.within context start .leadingOctet m)
      else if 0x80 ≤ octet ∧ octet < 0xC0 then rest (left - 1)
      else .error (.within context start .trailingOctet m)
    | _, _ => .error (.within context start .noEscapedOctet m)
  | [] => if left = 0 then .ok ([], ⟨m, []⟩) else .error (.within context start .noEscapedOctet m)
  | c :: cs =>
    if left ≠ 0 ∨ c = '%' then .error (.within context start .noEscapedOctet m)
    else if isPart isBracketed c then
      put [c.toNat.toUInt8] (read isBracketed context start m.next 0 cs)
    else .ok ([], ⟨m, c :: cs⟩)

/-- The octets up to the first that is zero. -/
def untilZero (octets : Utf8.Bytes) : Utf8.Bytes := octets.takeWhile (· ≠ 0)

/-- Reads a URI that is not empty. -/
def readSome (isBracketed : Bool) (context : Context) (start : Mark) (c : Cursor) :
    Except Stop (Utf8.Bytes × Cursor) :=
  match read isBracketed context start c.mark 0 c.rest with
  | .error e => .error e
  | .ok ([], rest) => .error (.within context start .noTagUri rest.mark)
  | .ok (octets, rest) => .ok (untilZero octets, rest)

end Uri

/-- Reads a tag handle: a name between two signs, or as much of that as there is. -/
def readHandle (context : Context) (start : Mark) (c : Cursor) : Except Stop (Name × Cursor) :=
  if c.head? = some '!' then
    let name := '!' :: c.next.front isWord
    let rest := c.next.pass isWord
    if rest.head? = some '!' then .ok (name ++ ['!'], rest.next) else .ok (name, rest)
  else .error (.within context start .noTagSign c.mark)

/-- Is this a handle with both its signs? -/
def isWholeHandle (handle : Name) : Bool := 2 ≤ handle.length && handle.getLast? == some '!'

/-- Reads the handle and the suffix of a tag. -/
def readTagParts (c : Cursor) : Except Stop ((Name × Utf8.Bytes) × Cursor) := do
  if c.second? = some '<' then
    let (suffix, rest) ← Uri.readSome true .tagUri c.mark c.next.next
    if rest.head? = some '>' then return (([], suffix), rest.next)
    else throw (.within .tag c.mark .noTagEnd rest.mark)
  else
    let (handle, rest) ← readHandle .tag c.mark c
    if isWholeHandle handle then
      let (suffix, rest) ← Uri.readSome false .tagUri c.mark rest
      return ((handle, suffix), rest)
    else
      let (more, rest) ← Uri.read false .tagUri c.mark rest.mark 0 rest.rest
      let suffix := Uri.untilZero (Utf8.encode (handle.drop 1) ++ more)
      if suffix.isEmpty then return (([], Utf8.encode ['!']), rest)
      else return ((['!'], suffix), rest)

/-- Reads a tag, which ends before a blank; inside a flow collection also before a comma. -/
def readTag (inFlow : Bool) (c : Cursor) : Except Stop ((Name × Utf8.Bytes) × Cursor) := do
  let (parts, rest) ← readTagParts c
  if (inFlow && rest.head? == some ',') || isBlankOrEnd rest.head? then return (parts, rest)
  else throw (.within .tag c.mark .noBlankOrEnd rest.mark)

end StartupConfig.Yaml
