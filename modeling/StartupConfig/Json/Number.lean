import StartupConfig.Json.Token

/-!
# Reading JSON numbers

A number without fraction and exponent is an integer as long as it fits 64 bits. Any other is a
floating-point number: the digits that fit 64 bits are kept, the others only count, and the result is scaled
by a power of ten, each step rounded.
-/
namespace StartupConfig.Json

/-- A number as it is read. -/
inductive Number
  | integer (value : Int)
  | float (value : Binary64)
  deriving DecidableEq, Repr

/-- The greatest number that digits are collected into. -/
def greatestSignificand : Nat := Nat.pow 2 64 - 1

/-- The greatest exponent that digits are collected into. -/
def greatestExponent : Nat := Nat.pow 2 31 - 1

/-- Collects digits as long as the number stays within a limit: the number, how many digits it took, and
what is left. -/
def collect (limit : Nat) : Nat → Nat → List Char → Nat × Nat × List Char
  | n, count, [] => (n, count, [])
  | n, count, c :: cs =>
    if c.isDigit then
      let next := n * 10 + (c.toNat - '0'.toNat)
      if limit < next then (n, count, c :: cs) else collect limit next (count + 1) cs
    else (n, count, c :: cs)

/-- Does a text begin with a digit? -/
def startsWithDigit (cs : List Char) : Bool := cs.head?.any Char.isDigit

/-- A power of ten as the nearest floating-point number. -/
def powerOfTen (n : Nat) : Binary64 := (Binary64.nearest? false (Nat.pow 10 n) 1).getD (.zero false)

/-- The greatest power of ten that is a floating-point number. -/
def greatestPower : Nat := 308

/-- Divides by a power of ten of any size, the greatest power at a time. After a few steps nothing but zero
is left. -/
def divideByPower : Nat → Binary64 → Nat → Option Binary64
  | 0, x, _ => some (.zero x.negative)
  | fuel + 1, x, n =>
    if n ≤ greatestPower then x.scaleDown? (powerOfTen n)
    else do divideByPower fuel (← x.scaleDown? (powerOfTen greatestPower)) (n - greatestPower)

/-- The floating-point number of digits and a power of ten; nothing when it is too large. -/
def scaled? (negative : Bool) (significand : Nat) (exponent : Int) : Option Binary64 := do
  let x ← Binary64.nearest? negative significand 1
  if significand = 0 then some x
  else if exponent < 0 then divideByPower 5 x (-exponent).toNat
  else if exponent ≤ greatestPower then x.scaleUp? (powerOfTen exponent.toNat)
  else none

/-- The number of digits and a power of ten, with what is left of the text. -/
def finishFloat (negative : Bool) (significand : Nat) (exponent : Int) (rest : List Char) :
    Except Stop (Number × List Char) :=
  match scaled? negative significand exponent with
  | some x => .ok (.float x, rest)
  | none => .error (.here .numberOutOfRange rest)

/-- Reads the digits of an exponent. One that is too large gives zero, or is out of range where the number
would grow. -/
def readPower (negative : Bool) (significand : Nat) (exponent : Int) (down : Bool) (cs : List Char) :
    Except Stop (Number × List Char) :=
  match collect greatestExponent 0 0 cs with
  | (_, 0, []) => .error ⟨.endInValue, 0⟩
  | (_, 0, c :: rest) => .error (.next .invalidNumber (c :: rest))
  | (e, _ + 1, rest) =>
    if startsWithDigit rest then
      if significand ≠ 0 ∧ ¬down then .error (.here .numberOutOfRange (rest.drop 1))
      else .ok (.float (.zero negative), rest.dropWhile Char.isDigit)
    else finishFloat negative significand (if down then exponent - e else exponent + e) rest

/-- Reads an exponent behind its letter. -/
def readExponent (negative : Bool) (significand : Nat) (exponent : Int) (cs : List Char) :
    Except Stop (Number × List Char) :=
  match cs with
  | '+' :: ds => readPower negative significand exponent false ds
  | '-' :: ds => readPower negative significand exponent true ds
  | ds => readPower negative significand exponent false ds

/-- Reads an exponent if there is one. -/
def readTail (negative : Bool) (significand : Nat) (exponent : Int) (cs : List Char) :
    Except Stop (Number × List Char) :=
  match cs with
  | 'e' :: rest => readExponent negative significand exponent rest
  | 'E' :: rest => readExponent negative significand exponent rest
  | rest => finishFloat negative significand exponent rest

/-- Reads a fraction behind its point; digits that do not fit are dropped. -/
def readFraction (negative : Bool) (significand : Nat) (exponent : Int) (cs : List Char) :
    Except Stop (Number × List Char) :=
  match collect greatestSignificand significand 0 cs with
  | (n, count, rest) =>
    if startsWithDigit rest then
      readTail negative n (exponent - count) (rest.dropWhile Char.isDigit)
    else if count = 0 then
      .error (if rest.isEmpty then ⟨.endInValue, 0⟩ else .next .invalidNumber rest)
    else readTail negative n (exponent - count) rest

/-- An integer, or a floating-point number where an integer has no room. -/
def ofSignificand (negative : Bool) (n : Nat) : Number :=
  if negative then
    if n = 0 ∨ Nat.pow 2 63 < n then .float ((Binary64.nearest? true n 1).getD (.zero true)) else .integer (-n)
  else .integer n

/-- Reads what follows the digits before the point. -/
def readAfterWhole (negative : Bool) (n : Nat) (cs : List Char) : Except Stop (Number × List Char) :=
  match cs with
  | '.' :: rest => readFraction negative n 0 rest
  | 'e' :: rest => readExponent negative n 0 rest
  | 'E' :: rest => readExponent negative n 0 rest
  | rest => .ok (ofSignificand negative n, rest)

/-- Reads what follows digits that do not all fit; the others count as powers of ten. -/
def readAfterLong (negative : Bool) (n : Nat) (cs : List Char) : Except Stop (Number × List Char) :=
  let exponent := (cs.takeWhile Char.isDigit).length
  match cs.dropWhile Char.isDigit with
  | '.' :: rest => readFraction negative n exponent rest
  | rest => readTail negative n exponent rest

/-- Reads a number behind its minus sign, if it has one. -/
def readNumber (negative : Bool) : List Char → Except Stop (Number × List Char)
  | [] => .error ⟨.endInValue, 0⟩
  | '0' :: cs =>
    if startsWithDigit cs then .error (.next .invalidNumber cs) else readAfterWhole negative 0 cs
  | c :: cs =>
    if c.isDigit then
      match collect greatestSignificand 0 0 (c :: cs) with
      | (n, _, rest) =>
        if startsWithDigit rest then readAfterLong negative n rest else readAfterWhole negative n rest
    else .error (.next .invalidNumber (c :: cs))

/-! ## What is left is shorter -/

theorem length_collect (limit n count : Nat) (cs : List Char) :
    (collect limit n count cs).2.2.length ≤ cs.length := by
  fun_induction collect limit n count cs <;> grind

theorem length_finishFloat {negative : Bool} {n : Nat} {e : Int} {cs rest : List Char} {x : Number}
    (h : finishFloat negative n e cs = .ok (x, rest)) : rest = cs := by
  unfold finishFloat at h
  grind

theorem length_readPower {negative down : Bool} {n : Nat} {e : Int} {cs rest : List Char} {x : Number}
    (h : readPower negative n e down cs = .ok (x, rest)) : rest.length ≤ cs.length := by
  have h₁ := length_collect greatestExponent 0 0 cs
  have h₂ := @length_finishFloat
  have h₃ := length_dropWhile_le Char.isDigit
  unfold readPower at h
  grind

theorem length_readExponent {negative : Bool} {n : Nat} {e : Int} {cs rest : List Char} {x : Number}
    (h : readExponent negative n e cs = .ok (x, rest)) : rest.length ≤ cs.length := by
  have h₁ := @length_readPower
  unfold readExponent at h
  grind

theorem length_readTail {negative : Bool} {n : Nat} {e : Int} {cs rest : List Char} {x : Number}
    (h : readTail negative n e cs = .ok (x, rest)) : rest.length ≤ cs.length := by
  have h₁ := @length_readExponent
  have h₂ := @length_finishFloat
  unfold readTail at h
  grind

theorem length_readFraction {negative : Bool} {n : Nat} {e : Int} {cs rest : List Char} {x : Number}
    (h : readFraction negative n e cs = .ok (x, rest)) : rest.length ≤ cs.length := by
  have h₁ := length_collect greatestSignificand n 0 cs
  have h₂ := @length_readTail
  have h₃ := length_dropWhile_le Char.isDigit
  unfold readFraction at h
  grind

theorem length_readAfterWhole {negative : Bool} {n : Nat} {cs rest : List Char} {x : Number}
    (h : readAfterWhole negative n cs = .ok (x, rest)) : rest.length ≤ cs.length := by
  have h₁ := @length_readFraction
  have h₂ := @length_readExponent
  unfold readAfterWhole at h
  grind

theorem length_readAfterLong {negative : Bool} {n : Nat} {cs rest : List Char} {x : Number}
    (h : readAfterLong negative n cs = .ok (x, rest)) : rest.length ≤ cs.length := by
  have h₁ := @length_readFraction
  have h₂ := @length_readTail
  have h₃ := length_dropWhile_le Char.isDigit cs
  unfold readAfterLong at h
  grind

theorem length_collect_digit {c : Char} {cs : List Char} (h : c.isDigit) :
    (collect greatestSignificand 0 0 (c :: cs)).2.2.length ≤ cs.length := by
  have hc : c.toNat ≤ 57 := by
    simp only [Char.isDigit, Bool.and_eq_true, decide_eq_true_eq] at h
    exact UInt32.le_iff_toNat_le.1 h.2
  have hn : ¬greatestSignificand < 0 * 10 + (c.toNat - '0'.toNat) := by
    have : greatestSignificand = 18446744073709551615 := rfl
    omega
  rw [collect, if_pos h]
  simp only [if_neg hn]
  exact length_collect _ _ _ _

theorem length_readNumber {negative : Bool} {cs rest : List Char} {x : Number}
    (h : readNumber negative cs = .ok (x, rest)) : rest.length < cs.length := by
  have h₁ := @length_readAfterWhole
  have h₂ := @length_readAfterLong
  have h₃ := @length_collect_digit
  unfold readNumber at h
  grind

end StartupConfig.Json
