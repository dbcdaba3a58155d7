import StartupConfig.Number.Binary64

/-!
# The shortest decimal of a floating-point number

Of all decimals that round to a number, one with the fewest digits that is nearest to it. For one, two, …
seventeen digits the two neighbours of the number on that grid are tried; the first grid with a hit wins.
Where both neighbours are hits and equally near, the tie goes as the printer decides.
-/
namespace StartupConfig.Binary64

/-- Which of two equally near neighbours is taken. -/
inductive Tie
  | even
  | away
  deriving DecidableEq, Repr

/-- Does a tie go to the upper neighbour of `below`? -/
def Tie.goesUp (below : Nat) : Tie → Bool
  | .even => below % 2 = 1
  | .away => true

/-- Digits and the power of ten they count. -/
structure Shortest where
  digits : Nat
  exponent : Int
  deriving DecidableEq, Repr

/-- `quarters · 2^exponent / 4` in units of `10^power`, as numerator and denominator. -/
def onGrid (quarters : Nat) (exponent power : Int) : Nat × Nat :=
  (quarters * Nat.pow 2 (exponent - 2).toNat * Nat.pow 10 (-power).toNat,
    Nat.pow 2 (-(exponent - 2)).toNat * Nat.pow 10 power.toNat)

/-- The quarter below the number where the numbers that round to it begin; the gap is half as wide below
a power of two. -/
def lowQuarters (x : Binary64) : Nat :=
  if x.mantissa = Nat.pow 2 52 ∧ leastExponent < x.exponent then 4 * x.mantissa - 1 else 4 * x.mantissa - 2

/-- The quarter above the number where the numbers that round to it end. -/
def highQuarters (x : Binary64) : Nat := 4 * x.mantissa + 2

/-- Does `digits · 10^power` round to the number? The ends count when the mantissa is even. -/
def isHit (x : Binary64) (power : Int) (digits : Nat) : Bool :=
  let (low, den) := onGrid x.lowQuarters x.exponent power
  let (high, _) := onGrid x.highQuarters x.exponent power
  if x.mantissa % 2 = 0 then decide (low ≤ digits * den ∧ digits * den ≤ high)
  else decide (low < digits * den ∧ digits * den < high)

/-- The nearer of the number's two neighbours on a grid, if one rounds to the number. -/
def hit? (tie : Tie) (x : Binary64) (power : Int) : Option Nat :=
  let (mid, den) := onGrid (4 * x.mantissa) x.exponent power
  let below := mid / den
  let rest := 2 * (mid % den)
  match isHit x power below, isHit x power (below + 1) with
  | true, true => if den < rest ∨ (rest = den ∧ tie.goesUp below) then some (below + 1) else some below
  | true, false => some below
  | false, true => some (below + 1)
  | false, false => none

/-- The power of ten of the number's first digit, for a number other than zero. -/
def firstPower (x : Binary64) : Int :=
  let guess := ((x.mantissa.log2 : Int) + x.exponent) * 30103 / 100000
  let (mid, den) := onGrid (4 * x.mantissa) x.exponent (guess + 1)
  if den ≤ mid then guess + 1 else guess

/-- Drops zeros at the end of the digits. -/
def Shortest.trim (s : Shortest) : Nat → Shortest
  | 0 => s
  | fuel + 1 =>
    if s.digits ≠ 0 ∧ s.digits % 10 = 0 then trim ⟨s.digits / 10, s.exponent + 1⟩ fuel else s

/-- The first hit on the grids of `count` digits and more. -/
def search (tie : Tie) (x : Binary64) (first : Int) : Nat → Nat → Shortest
  | _, 0 => ⟨x.mantissa, x.exponent⟩
  | count, fuel + 1 =>
    let power := first - count + 1
    match hit? tie x power with
    | some digits => (Shortest.mk digits power).trim 17
    | none => search tie x first (count + 1) fuel

/-- The shortest decimal of a number. -/
def shortest (tie : Tie) (x : Binary64) : Shortest :=
  if x.mantissa = 0 then ⟨0, 0⟩ else search tie x x.firstPower 1 17

/-- How a number is printed: where a tie goes, and the powers of the first digit for which it is written
positionally. -/
structure Style where
  tie : Tie
  leastPositional : Int
  greatestPositional : Int

/-- Digits with the point after `whole` of them, and at least one digit on either side. -/
def positional (digits : List Char) (whole : Int) : List Char :=
  if whole ≤ 0 then '0' :: '.' :: List.replicate (-whole).toNat '0' ++ digits
  else
    let n := whole.toNat
    let after := digits.drop n
    digits.take n ++ List.replicate (n - digits.length) '0' ++ '.' :: (if after.isEmpty then ['0'] else after)

/-- One digit, the others after a point, and a signed power of ten. -/
def scientific (digits : List Char) (power : Int) : List Char :=
  digits.take 1 ++ (if digits.length = 1 then [] else '.' :: digits.drop 1)
    ++ 'e' :: (if power < 0 then '-' else '+') :: Nat.toDigits 10 power.natAbs

/-- The shortest decimal of a number in a style. -/
def render (n : Style) (x : Binary64) : List Char :=
  let s := x.shortest n.tie
  let digits := Nat.toDigits 10 s.digits
  let power : Int := s.exponent + digits.length - 1
  let body :=
    if n.leastPositional ≤ power ∧ power ≤ n.greatestPositional then positional digits (power + 1)
    else scientific digits power
  if x.negative then '-' :: body else body

end StartupConfig.Binary64
