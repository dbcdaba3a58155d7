/-!
# Binary floating-point numbers of 64 bits

A finite number is a sign, a mantissa below 2^53 and an exponent of two; rounding goes to the nearest such
number and a tie to the even mantissa. Everything is computed on natural numbers.
-/
namespace StartupConfig

/-- The number `±mantissa · 2^exponent`. -/
structure Binary64 where
  negative : Bool
  mantissa : Nat
  exponent : Int
  deriving DecidableEq, Repr

namespace Binary64

/-- The least exponent. -/
def leastExponent : Int := -1074

/-- The greatest exponent of a finite number. -/
def greatestExponent : Int := 971

/-- Zero, with a sign. -/
def zero (negative : Bool) : Binary64 := ⟨negative, 0, leastExponent⟩

/-- The quotient `num / den` in units of `2^exponent`, as numerator and denominator. -/
def inUnits (num den : Nat) (exponent : Int) : Nat × Nat :=
  (num * Nat.pow 2 (-exponent).toNat, den * Nat.pow 2 exponent.toNat)

/-- The exponent at which `num / den` has a mantissa of 53 bits, or the least one. -/
def exponentFor (num den : Nat) : Int :=
  let e : Int := (num.log2 : Int) - den.log2 - 53
  let (n, d) := inUnits num den e
  max (if n / d < Nat.pow 2 53 then e else e + 1) leastExponent

/-- The quotient rounded to the nearest natural number, ties to even. -/
def roundQuotient (n d : Nat) : Nat :=
  let q := n / d
  let r := n % d
  if d < 2 * r ∨ (d = 2 * r ∧ q % 2 = 1) then q + 1 else q

/-- The number nearest to `num / den`; nothing when it lies past the greatest finite number. -/
def nearest? (negative : Bool) (num den : Nat) : Option Binary64 :=
  if num = 0 then some (zero negative)
  else
    let e := exponentFor num den
    let (n, d) := inUnits num den e
    let m := roundQuotient n d
    let (m, e) := if m = Nat.pow 2 53 then (Nat.pow 2 52, e + 1) else (m, e)
    if greatestExponent < e then none else some ⟨negative, m, e⟩

/-- The number nearest to `digits · 10^exponent`. Exponents far outside the range are settled without
computing the power. -/
def ofDecimal? (negative : Bool) (digits : Nat) (exponent : Int) : Option Binary64 :=
  let top : Int := exponent + digits.log2 / 3
  if digits = 0 ∨ top < -400 then some (zero negative)
  else if 400 < exponent then none
  else nearest? negative (digits * Nat.pow 10 exponent.toNat) (Nat.pow 10 (-exponent).toNat)

/-- The product with a natural number, rounded. -/
def scaleUp? (x : Binary64) (num : Binary64) : Option Binary64 :=
  nearest? x.negative (x.mantissa * num.mantissa * Nat.pow 2 (x.exponent + num.exponent).toNat)
    (Nat.pow 2 (-(x.exponent + num.exponent)).toNat)

/-- The quotient by a number other than zero, rounded. -/
def scaleDown? (x : Binary64) (den : Binary64) : Option Binary64 :=
  nearest? x.negative (x.mantissa * Nat.pow 2 (x.exponent - den.exponent).toNat)
    (den.mantissa * Nat.pow 2 (-(x.exponent - den.exponent)).toNat)

end Binary64

end StartupConfig
