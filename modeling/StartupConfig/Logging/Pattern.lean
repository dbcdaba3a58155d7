import StartupConfig.Integer
import StartupConfig.Text.Alphanumeric

/-!
# Patterns of values

Whether a text is a pattern of values in the usual notation: groups, alternatives, classes of characters,
repetitions and escapes. A repetition with a count is none, for no directive has a place for its closing brace,
and neither is a condition on the beginning or the end of a word.
-/
namespace StartupConfig.Pattern

/-- What an escape or a character stands for: a character by its number, a set of characters, or a condition on
the place. -/
inductive Item
  | character (number : Nat)
  | set
  | condition
  deriving DecidableEq, Repr

/-- Reads a character that is written as a number of hexadecimal digits. -/
def readCode (count : Nat) (cs : List Char) : Option (Item × List Char) := do
  let digits ← (cs.take count).mapM (Digits.value? 16)
  let n := digits.foldl (fun n d => n * 16 + d) 0
  if digits.length = count ∧ n.isValidChar then some (.character n, cs.drop count) else none

/-- The letters of control characters. -/
def controls : List (Char × Nat) := [('a', 7), ('t', 9), ('n', 10), ('v', 11), ('f', 12), ('r', 13)]

/-- Reads an escape behind its backslash. -/
def readEscape : List Char → Option (Item × List Char)
  | [] => none
  | c :: cs =>
    match [('x', 2), ('u', 4), ('U', 8)].lookup c, controls.lookup c with
    | some count, _ => readCode count cs
    | _, some n => some (.character n, cs)
    | none, none =>
      if ['d', 's', 'w', 'D', 'S', 'W'].contains c then some (.set, cs)
      else if c = 'p' ∨ c = 'P' then
        if cs.head?.any ['C', 'L', 'M', 'N', 'P', 'S', 'Z'].contains then some (.set, cs.drop 1) else none
      else if c = 'A' ∨ c = 'z' then some (.condition, cs)
      else if c.isAlphanum ∨ '\x7f' < c ∨ c = '<' ∨ c = '>' then none
      else some (.character c.toNat, cs)

/-! ## Classes -/

/-- The names of classes between colons. -/
def classNames : List String :=
  ["alnum", "alpha", "ascii", "blank", "cntrl", "digit", "graph", "lower", "print", "punct", "space",
    "upper", "word", "xdigit"]

/-- Reads a class by its name behind a bracket. -/
def readNamed? (cs : List Char) : Option (List Char) :=
  match cs with
  | ':' :: cs =>
    let cs := if cs.head? = some '^' then cs.drop 1 else cs
    let name := cs.takeWhile (· ≠ ':')
    match cs.dropWhile (· ≠ ':') with
    | ':' :: ']' :: rest => if classNames.any (·.toList == name) then some rest else none
    | _ => none
  | _ => none

/-- Goes over signs that stand for themselves at the beginning of a class. -/
def dropOpening (cs : List Char) : List Char :=
  let cs := if cs.head? = some '^' then cs.drop 1 else cs
  if cs.head? = some '-' then cs.dropWhile (· == '-')
  else if cs.head? = some ']' then cs.drop 1
  else cs

/-- Reads a member of a class. -/
def readMember : List Char → Option (Item × List Char)
  | [] => none
  | '\\' :: cs => (readEscape cs).filter fun r => r.1 ≠ .condition
  | c :: cs => some (.character c.toNat, cs)

/-- Reads a member of a class or a range of characters. -/
def readRange (cs : List Char) : Option (List Char) := do
  let (first, rest) ← readMember cs
  match rest with
  | '-' :: c :: _ =>
    if c = ']' ∨ c = '-' then some rest
    else
      let (last, rest) ← readMember (rest.drop 1)
      match first, last with
      | .character a, .character b => if a ≤ b then some rest else none
      | _, _ => none
  | _ => some rest

/-- Reads a class up to its end; `depth` classes are open around it. -/
def readClass : Nat → Nat → List Char → Option (List Char)
  | 0, _, _ => none
  | _, _, [] => none
  | fuel + 1, depth, '[' :: cs =>
    match readNamed? cs with
    | some rest => readClass fuel depth rest
    | none => readClass fuel (depth + 1) (dropOpening cs)
  | _, 0, ']' :: cs => some cs
  | fuel + 1, depth + 1, ']' :: cs => readClass fuel depth cs
  | fuel + 1, depth, c :: cs =>
    if (c = '&' ∨ c = '-' ∨ c = '~') ∧ cs.head? = some c then readClass fuel depth (cs.drop 1)
    else
      match readRange (c :: cs) with
      | some rest => readClass fuel depth rest
      | none => none

/-! ## Groups -/

/-- Is this a name of a group? -/
def isName : List Char → Bool
  | [] => false
  | c :: cs =>
    (c == '_' || (Alphanumeric.contains c && !c.isDigit))
      && cs.all fun c => c == '_' || c == '.' || c == '[' || c == ']' || Alphanumeric.contains c

/-- Are these flags, each at most once, some of them perhaps behind one minus sign? -/
def areFlags (cs : List Char) : Bool :=
  cs.Nodup && cs.getLast? != some '-' && cs.all ['i', 'm', 's', 'U', 'u', 'R', 'x', '-'].contains

/-- What begins behind an opening parenthesis: a group, perhaps with a name, or flags for what follows. -/
inductive Opening
  | group (name : Option (List Char))
  | flags
  deriving DecidableEq, Repr

/-- Reads the beginning of a group with a name. -/
def readName (cs : List Char) : Option (Opening × List Char) :=
  let name := cs.takeWhile (· ≠ '>')
  match cs.dropWhile (· ≠ '>') with
  | '>' :: rest => if isName name then some (.group (some name), rest) else none
  | _ => none

/-- Reads the beginning of a group behind its parenthesis. -/
def readOpening : List Char → Option (Opening × List Char)
  | '?' :: 'P' :: '<' :: cs => readName cs
  | '?' :: '<' :: cs => readName cs
  | '?' :: cs =>
    let isEnd c := c == ':' || c == ')'
    let flags := cs.takeWhile fun c => !isEnd c
    match cs.dropWhile fun c => !isEnd c with
    | ':' :: rest => if areFlags flags then some (.group none, rest) else none
    | ')' :: rest => if areFlags flags ∧ flags ≠ [] then some (.flags, rest) else none
    | _ => none
  | cs => some (.group none, cs)

/-- Is the rest of a text the rest of a pattern? Some groups are open, names were given to groups, and what
stands before may be repeated or not. -/
def isRest : Nat → Nat → List (List Char) → Bool → List Char → Bool
  | _, groups, _, _, [] => groups == 0
  | 0, _, _, _, _ => false
  | fuel + 1, groups, names, repeatable, c :: cs =>
    let behind (r : Option (List Char)) : Bool := r.any (isRest fuel groups names true)
    if c = '(' then
      match readOpening cs with
      | none => false
      | some (.flags, rest) => isRest fuel groups names false rest
      | some (.group none, rest) => isRest fuel (groups + 1) names false rest
      | some (.group (some name), rest) =>
        !names.contains name && isRest fuel (groups + 1) (name :: names) false rest
    else if c = ')' then groups != 0 && isRest fuel (groups - 1) names true cs
    else if c = '|' then isRest fuel groups names false cs
    else if c = '[' then behind (readClass cs.length 0 (dropOpening cs))
    else if c = '?' ∨ c = '*' ∨ c = '+' then
      repeatable && isRest fuel groups names true (if cs.head? = some '?' then cs.drop 1 else cs)
    else if c = '{' then false
    else if c = '\\' then behind ((readEscape cs).map Prod.snd)
    else isRest fuel groups names true cs

/-- Is a text a pattern? -/
def isPattern (text : List Char) : Bool := isRest text.length 0 [] false text

/-! ## Numbers -/

/-- Is this a decimal without a sign? -/
def isDecimal (cs : List Char) : Bool :=
  let whole := cs.takeWhile Char.isDigit
  let rest := cs.dropWhile Char.isDigit
  let fraction := if rest.head? = some '.' then (rest.drop 1).takeWhile Char.isDigit else []
  let rest := if rest.head? = some '.' then (rest.drop 1).dropWhile Char.isDigit else rest
  let power := match rest.drop 1 with
    | '+' :: ds => ds
    | '-' :: ds => ds
    | ds => ds
  !(whole ++ fraction).isEmpty
    && (rest.isEmpty || ((rest.head? == some 'e' || rest.head? == some 'E') && !power.isEmpty
      && power.all Char.isDigit))

/-- Is this a number behind a plus sign, or one of the words for what is none? -/
def isPlusNumber : List Char → Bool
  | '+' :: cs => isDecimal cs || ["inf", "infinity", "nan"].any (·.toList == cs.map Char.toLower)
  | _ => false

/-- May a value be asked for in this way? -/
def isValue (text : List Char) : Bool := isPlusNumber text || isPattern text

end StartupConfig.Pattern
