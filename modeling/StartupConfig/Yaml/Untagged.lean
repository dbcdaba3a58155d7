import StartupConfig.Integer
import StartupConfig.Number.Binary64

/-!
# What an unquoted scalar stands for

A scalar without quotes and without a tag is null, a truth value, an integer, a floating-point number or,
if nothing else fits, a text. Integers come in four ranges that are tried in turn. Digits behind a
superfluous zero are a text.
-/
namespace StartupConfig.Yaml

/-- The meaning of an unquoted scalar. -/
inductive Untagged
  | null
  | boolean (value : Bool)
  | integer (value : Int)
  | float (value : Binary64)
  | infinite (negative : Bool)
  | notANumber
  | text
  deriving DecidableEq, Repr

namespace Untagged

/-- The words for null. -/
def isNullWord (s : List Char) : Bool := ["null", "Null", "NULL", "~"].any (·.toList == s)

/-- The spellings of null. -/
def isNull (s : List Char) : Bool := s.isEmpty || isNullWord s

/-- The spellings of the truth values. -/
def boolean? (s : List Char) : Option Bool :=
  if ["true", "True", "TRUE"].any (·.toList == s) then some true
  else if ["false", "False", "FALSE"].any (·.toList == s) then some false
  else none

/-- The text after a given beginning. -/
def after? : List Char → List Char → Option (List Char)
  | [], s => some s
  | p :: ps, c :: cs => if p = c then after? ps cs else none
  | _ :: _, [] => none

/-- Does the text begin with a sign? -/
def isSigned : List Char → Bool
  | '+' :: _ => true
  | '-' :: _ => true
  | _ => false

/-- The text without one sign. -/
def dropSign : List Char → List Char
  | '+' :: cs => cs
  | '-' :: cs => cs
  | cs => cs

/-- The text without one plus sign. -/
def dropPlus : List Char → List Char
  | '+' :: cs => cs
  | cs => cs

/-- Several digits of which the first is zero, perhaps after a sign. -/
def isPadded (s : List Char) : Bool :=
  match dropSign s with
  | '0' :: c :: cs => (c :: cs).all Char.isDigit
  | _ => false

/-- The spellings of a radix other than ten. -/
def radixMarks : List (List Char × Nat) := [(['0', 'x'], 16), (['0', 'o'], 8), (['0', 'b'], 2)]

/-- An integer with a radix mark, without a sign of its own. -/
def marked? (t : IntegerType) (s : List Char) : Option Int :=
  radixMarks.findSome? fun (mark, radix) => do
    let rest ← after? mark s
    if isSigned rest then none else ((t.read radix rest).toOption.map Subtype.val)

/-- A negative integer with a radix mark between its sign and its digits. -/
def markedNegative? (t : IntegerType) (s : List Char) : Option Int :=
  radixMarks.findSome? fun (mark, radix) => do
    let rest ← after? ('-' :: mark) s
    (t.read radix ('-' :: rest)).toOption.map Subtype.val

/-- An integer in decimal digits. -/
def decimal? (t : IntegerType) (s : List Char) : Option Int :=
  (t.read 10 s).toOption.map Subtype.val

/-- An integer without a minus sign, in any radix. -/
def natural? (t : IntegerType) (s : List Char) : Option Int :=
  let rest := dropPlus s
  (marked? t rest).or (if isSigned rest || isPadded s then none else decimal? t rest)

/-- An integer with an optional minus sign, in any radix. -/
def negative? (t : IntegerType) (s : List Char) : Option Int :=
  (markedNegative? t s).or (if isPadded s then none else decimal? t s)

/-- An integer of the ranges that are told apart: 64 bits first, then 128, without a minus sign first. -/
def integer? (s : List Char) : Option Int :=
  (natural? (.unsigned 64) s).or <| (negative? (.signed 64) s).or <|
    (natural? (.unsigned 128) s).or (negative? (.signed 128) s)

/-- An integer where one is wanted: any sign and any radix. -/
def signed? (t : IntegerType) (s : List Char) : Option Int :=
  match s with
  | '+' :: cs =>
    if isSigned cs then none
    else (marked? t cs).or (if isPadded s then none else decimal? t cs)
  | _ => (marked? t s).or <| (markedNegative? t s).or (if isPadded s then none else decimal? t s)

/-- The digits at the beginning of a text, and the rest. -/
def digits (s : List Char) : List Char × List Char := s.span Char.isDigit

/-- The number that a list of digits denotes. -/
def valueOf (ds : List Char) : Nat := ds.foldl (fun n c => 10 * n + (c.toNat - '0'.toNat)) 0

/-- The exponent at the end of a decimal: nothing, or a letter, an optional sign and digits. -/
def exponent? : List Char → Option Int
  | [] => some 0
  | c :: cs =>
    if c = 'e' ∨ c = 'E' then
      let ds := dropSign cs
      if ds.isEmpty || !ds.all Char.isDigit then none
      else some (if cs.head? = some '-' then -(valueOf ds : Int) else valueOf ds)
    else none

/-- A decimal with an optional fraction and exponent; a digit stands before or after the point. -/
def unsignedFloat? (negative : Bool) (s : List Char) : Option Binary64 := do
  let (whole, rest) := digits s
  let (fraction, rest) := match rest with
    | '.' :: cs => digits cs
    | cs => ([], cs)
  if whole.isEmpty && fraction.isEmpty then none
  else
    let e ← exponent? rest
    Binary64.ofDecimal? negative (valueOf (whole ++ fraction)) (e - fraction.length)

/-- A decimal with an optional sign. -/
def decimalFloat? : List Char → Option Binary64
  | '-' :: cs => unsignedFloat? true cs
  | '+' :: cs => unsignedFloat? false cs
  | cs => unsignedFloat? false cs

/-- A floating-point number, or one of the words for what is none. -/
def float? (s : List Char) : Option Untagged :=
  let rest := dropPlus s
  if s ≠ rest ∧ isSigned rest then none
  else if [".inf", ".Inf", ".INF"].any (·.toList == rest) then some (.infinite false)
  else if ["-.inf", "-.Inf", "-.INF"].any (·.toList == s) then some (.infinite true)
  else if [".nan", ".NaN", ".NAN"].any (·.toList == s) then some .notANumber
  else (decimalFloat? rest).map .float

/-- What an unquoted scalar stands for. -/
def resolve (s : List Char) : Untagged :=
  if isNull s then .null
  else
    match boolean? s with
    | some b => .boolean b
    | none =>
      match integer? s with
      | some z => .integer z
      | none => if isPadded s then .text else (float? s).getD .text

/-- Would a scalar be taken for something else than a text if it were written without quotes? -/
def isAmbiguous (s : List Char) : Bool := isPadded s || resolve s != .text

end Untagged

end StartupConfig.Yaml
