import StartupConfig.Integer
import StartupConfig.Text.Alphanumeric
import StartupConfig.Text.Cut
import StartupConfig.Text.Utf8
import StartupConfig.Logging.Pattern
import StartupConfig.Logging.Verbosity

/-!
# Filters

A filter is a list of directives, each with a least grave level and conditions on the target and on the names
of details. Of the directives that concern a diagnostic the most specific one decides: the one with the longest
target, then the one with the most names. A directive on spans concerns no diagnostic.

A text that is no filter is refused. But the places in a directive are found without the blanks at its ends, and the
parts are cut out with them: behind blanks a place may be inside a character, and then reading breaks off.
-/
namespace StartupConfig

/-- The gravest level that is not shown any more is behind `shown`; nothing is shown at all without one. -/
structure Directive where
  shown : Option Level
  target : Option String
  names : List String
  deriving DecidableEq, Repr

/-- A directive as it is written: it may also ask for a span, or for values of details. -/
structure WrittenDirective where
  shown : Option Level
  target : Option String
  span : Option String
  fields : List (String × Bool)
  deriving DecidableEq, Repr

/-- Why a text is not read as a filter: it is refused, or reading it breaks off. -/
inductive FilterFault
  | refused
  | split (s : SplitCharacter)
  deriving DecidableEq, Repr

namespace Directive

/-- A directive on every diagnostic. -/
def ofLevel (l : Level) : Directive := ⟨some l, none, []⟩

/-- Does a text begin with another? -/
def beginsWith : List Char → List Char → Bool
  | [], _ => true
  | p :: ps, c :: cs => p == c && beginsWith ps cs
  | _ :: _, [] => false

/-- Does a directive concern a diagnostic? -/
def concerns (d : Directive) (x : Diagnostic) : Bool :=
  (match d.target with
    | none => true
    | some t => beginsWith t.toList x.target.toList)
    && d.names.all fun n => n == "message" || x.details.any fun y => y.1 == n

/-- Does a directive show a level? -/
def shows (d : Directive) (l : Level) : Bool :=
  match d.shown with
  | none => false
  | some s => l.rank ≤ s.rank

/-- Does a text come before another in the order of characters, at the first difference? -/
def textBefore (a b : String) : Bool := decide (a < b)

/-- Does a list of texts come before another at the first difference, a beginning before its continuation? -/
def listBefore : List String → List String → Bool
  | [], [] => false
  | [], _ :: _ => true
  | _ :: _, [] => false
  | a :: as, b :: bs => if a = b then listBefore as bs else textBefore a b

/-- The length of a target, one more than its bytes; nothing at all counts as zero. -/
def targetLength (d : Directive) : Nat :=
  match d.target with
  | none => 0
  | some t => Utf8.size t.toList + 1

/-- Is a directive tried before another? Longer targets and more names come first; among equals, texts that
come later in the order of characters. -/
def isTriedBefore (a b : Directive) : Bool :=
  if a.targetLength ≠ b.targetLength then b.targetLength < a.targetLength
  else if a.names.length ≠ b.names.length then b.names.length < a.names.length
  else if a.target ≠ b.target then textBefore (b.target.getD "") (a.target.getD "")
  else listBefore b.names a.names

/-- Puts a directive in its place, over one with the same conditions. -/
def insert (d : Directive) : List Directive → List Directive
  | [] => [d]
  | e :: es =>
    if d.target = e.target ∧ d.names = e.names then d :: es
    else if isTriedBefore d e then d :: e :: es
    else e :: insert d es

end Directive

/-- Directives in the order in which they are tried. -/
structure Filter where
  directives : List Directive
  deriving DecidableEq, Repr

namespace Filter

/-- The filter that shows a level and all that are graver. -/
def ofLevel (l : Level) : Filter := ⟨[.ofLevel l]⟩

/-- Does a filter let a diagnostic through? -/
def admits (f : Filter) (x : Diagnostic) : Bool :=
  match f.directives.find? (·.concerns x) with
  | some d => d.shows x.level
  | none => false

end Filter

namespace WrittenDirective

/-- A directive about to be written. Without a level, everything is shown. -/
def blank : WrittenDirective := ⟨some .trace, none, none, []⟩

/-- The levels by word and by number. -/
def levels : List (Option Level × String) :=
  [(none, "off"), (some .error, "error"), (some .warn, "warn"), (some .info, "info"),
    (some .debug, "debug"), (some .trace, "trace")]

/-- Reads a level: a number from zero to five, or a word in any case. Nothing at all stands for errors. -/
def level? (text : List Char) : Option (Option Level) :=
  match ((IntegerType.unsigned 64).read 10 text).toOption.bind fun n => levels[n.val.toNat]? with
  | some l => some l.1
  | none =>
    if text.isEmpty then some (some .error)
    else (levels.find? fun l => l.2.toList == text.map Char.toLower).map Prod.fst

/-- Reads a level behind an equals sign, where nothing at all stands for everything. -/
def levelOrAll? (text : List Char) : Option (Option Level) :=
  if text.isEmpty then some (some .trace) else level? text

/-- Blanks at the ends of a directive. -/
def isBlank (c : Char) : Bool :=
  let n := c.toNat
  (9 ≤ n && n ≤ 13) || n == 0x20 || n == 0x85 || n == 0xA0 || n == 0x1680 || (0x2000 ≤ n && n ≤ 0x200A)
    || n == 0x2028 || n == 0x2029 || n == 0x202F || n == 0x205F || n == 0x3000

/-- A text without blanks at its ends. -/
def trim (text : List Char) : List Char :=
  ((text.dropWhile isBlank).reverse.dropWhile isBlank).reverse

/-- The part of a directive that is being read, with the place of its first byte. -/
inductive Part
  | start
  | word (first : Nat)
  | span (first : Nat)
  | field (first : Nat)
  | fields
  | target
  | level (first : Nat)
  deriving DecidableEq, Repr

/-- The part of a directive between two places. -/
def partOf (directive : List Char) (first last : Nat) : Except FilterFault (List Char) :=
  match Cut.part directive first last with
  | .ok t => .ok t
  | .error s => .error (.split s)

/-- A name, and whether a value is asked for. The value stands up to a second equals sign. -/
def fieldOf? (text : List Char) : Option (String × Bool) :=
  let name := String.ofList (text.takeWhile (· ≠ '='))
  match text.dropWhile (· ≠ '=') with
  | [] => if text.isEmpty then none else some (name, false)
  | _ :: value => if Pattern.isValue (value.takeWhile (· ≠ '=')) then some (name, true) else none

/-- Reads one character at a place. -/
def step (directive : List Char) (place : Nat) (c : Char) (d : WrittenDirective) :
    Part → Except FilterFault (WrittenDirective × Part)
  | .start =>
    if c = '[' then .ok (d, .span (place + 1))
    else if c = '-' ∨ c = ':' ∨ c = '_' ∨ Alphanumeric.contains c then .ok (d, .word place)
    else .error .refused
  | .word first =>
    if c = '=' then do
      let t ← partOf directive first place
      return ({ d with target := some (String.ofList t) }, .level (place + 1))
    else if c = '[' then do
      let t ← partOf directive first place
      return ({ d with target := some (String.ofList t) }, .span (place + 1))
    else .ok (d, .word first)
  | .target => if c = '=' then .ok (d, .level (place + 1)) else .error .refused
  | .span first =>
    if c = ']' then do
      let t ← partOf directive first place
      return ({ d with span := some (String.ofList t) }, .target)
    else if c = '{' then do
      let t ← partOf directive first place
      return ({ d with span := if t.isEmpty then none else some (String.ofList t) }, .field (place + 1))
    else .ok (d, .span first)
  | .field first =>
    if c = '}' then do
      let t ← partOf directive first place
      match fieldOf? t with
      | some f => return ({ d with fields := d.fields ++ [f] }, .fields)
      | none => throw .refused
    else .ok (d, .field first)
  | .fields => if c = ']' then .ok (d, .target) else .error .refused
  | .level first => .ok (d, .level first)

/-- Reads the characters from a place on. -/
def scan (directive : List Char) : Nat → WrittenDirective → Part → List Char →
    Except FilterFault (WrittenDirective × Part)
  | _, d, p, [] => .ok (d, p)
  | place, d, p, c :: cs =>
    match step directive place c d p with
    | .error e => .error e
    | .ok (d, p) => scan directive (place + c.utf8Size) d p cs

/-- What a directive says behind its last mark. A word alone is a level if it can be read as one, and a target
otherwise. -/
def finish (directive : List Char) (d : WrittenDirective) : Part → Except FilterFault WrittenDirective
  | .word first => do
    let t ← partOf directive first (Utf8.size directive)
    match if t.isEmpty then some (some .trace) else level? t with
    | some l => return { d with shown := l, target := none }
    | none => return { d with shown := some .trace, target := some (String.ofList t) }
  | .level first => do
    let t ← partOf directive first (Utf8.size directive)
    match levelOrAll? t with
    | some l => return { d with shown := l }
    | none => throw .refused
  | .target => .ok d
  | _ => .error .refused

/-- Reads a directive. Places are found without the blanks at its ends, and its parts are then taken with them. -/
def read (directive : List Char) : Except FilterFault WrittenDirective := do
  let (d, p) ← scan directive 0 blank .start (trim directive)
  finish directive d p

/-- What a directive says of diagnostics: nothing when it asks for a span or for values. -/
def plain? (d : WrittenDirective) : Option Directive :=
  if d.span.isSome || d.fields.any Prod.snd then none
  else some ⟨d.shown, d.target, d.fields.map Prod.fst⟩

/-- Does a directive ask for details? -/
def asksForDetails (d : WrittenDirective) : Bool := d.span.isSome || !d.fields.isEmpty

end WrittenDirective

namespace Filter

/-- The texts between commas. -/
def splitAtCommas : List Char → List (List Char)
  | [] => [[]]
  | c :: cs =>
    match splitAtCommas cs with
    | [] => [[c]]
    | t :: ts => if c = ',' then [] :: t :: ts else (c :: t) :: ts

/-- Reads a filter: directives between commas, up to the first one with a fault. Directives that ask for details
come after the others; of two with the same conditions the later one holds. No directives at all show errors
alone. -/
def read (text : String) : Except FilterFault Filter := do
  let parts := (splitAtCommas text.toList).filter fun t => !t.isEmpty
  let ds ← parts.mapM WrittenDirective.read
  let ordered := ds.filter (fun d => !d.asksForDetails) ++ ds.filter (·.asksForDetails)
  if ds.isEmpty then return .ofLevel .error
  else return ⟨(ordered.filterMap WrittenDirective.plain?).foldl (fun f d => d.insert f) []⟩

/-- The filter that a text is accepted as. -/
def read? (text : String) : Option Filter :=
  match read text with
  | .ok f => some f
  | .error _ => none

/-- The place at which reading a text breaks off. -/
def split? (text : String) : Option SplitCharacter :=
  match read text with
  | .error (.split s) => some s
  | _ => none

/-- The filter of a run: the one that is written, if there is one and it is accepted, and else the one of the
verbosity. -/
def chosen (written : Option String) (verbosity : Nat) : Except SplitCharacter Filter :=
  match written.map read with
  | some (.ok f) => .ok f
  | some (.error (.split s)) => .error s
  | _ => .ok (.ofLevel (verbosityLevel verbosity))

end Filter

end StartupConfig
