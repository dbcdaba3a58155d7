/-!
# Fixed-width integers and their decimal text

An integer type is a range of integers, with or without zero. A text of the type is an optional sign
and decimal digits; digits are read from the left, so the first position that is wrong decides which
fault is reported. Rendering writes the least number of digits.
-/
namespace StartupConfig

/-- A range of integers; `admitsZero` is false for a type that leaves zero out of its range. -/
structure IntegerType where
  least : Int
  greatest : Int
  admitsZero : Bool
  deriving DecidableEq, Repr

namespace IntegerType

/-- Two's complement integers of a given width. -/
def signed (bits : Nat) : IntegerType := ⟨-(Nat.pow 2 (bits - 1) : Nat), (Nat.pow 2 (bits - 1) : Nat) - 1, true⟩

/-- Natural numbers of a given width. -/
def unsigned (bits : Nat) : IntegerType := ⟨0, (Nat.pow 2 bits : Nat) - 1, true⟩

/-- The same range without zero. -/
def withoutZero (t : IntegerType) : IntegerType := { t with admitsZero := false }

/-- A type takes a minus sign when its range reaches below zero. -/
def isSigned (t : IntegerType) : Bool := decide (t.least < 0)

/-- Membership in the type. -/
def Contains (t : IntegerType) (z : Int) : Prop :=
  t.least ≤ z ∧ z ≤ t.greatest ∧ (z = 0 → t.admitsZero = true)

instance (t : IntegerType) (z : Int) : Decidable (t.Contains z) := by
  unfold Contains; infer_instance

/-- The integers of a type. -/
abbrev Value (t : IntegerType) := { z : Int // t.Contains z }

end IntegerType

/-- The integers of the record: 64 bits, signed. -/
abbrev Long := IntegerType.Value (.signed 64)

/-- Why a text is no integer of a type. -/
inductive IntegerFault
  | empty
  | invalidDigit
  | tooLarge
  | tooSmall
  | zero
  deriving DecidableEq, Repr

/-- The wording of each fault. -/
def IntegerFault.message : IntegerFault → String
  | .empty => "cannot parse integer from empty string"
  | .invalidDigit => "invalid digit found in string"
  | .tooLarge => "number too large to fit in target type"
  | .tooSmall => "number too small to fit in target type"
  | .zero => "number would be zero for non-zero type"

namespace Digits

/-- The value of a digit or letter as a digit of the given radix. -/
def value? (radix : Nat) (c : Char) : Option Nat :=
  let v :=
    if c.isDigit then some (c.toNat - '0'.toNat)
    else if c.isLower then some (c.toNat - 'a'.toNat + 10)
    else if c.isUpper then some (c.toNat - 'A'.toNat + 10)
    else none
  v.filter (· < radix)

end Digits

namespace Decimal

/-- A natural number in decimal digits, without leading zeros. -/
def renderNat (n : Nat) : List Char := Nat.toDigits 10 n

/-- An integer in decimal digits, with a minus sign below zero. -/
def render (z : Int) : List Char :=
  if z < 0 then '-' :: renderNat z.natAbs else renderNat z.natAbs

end Decimal

namespace IntegerType

/-- Reads digits onto `acc`, downward when `negative`; a digit that leaves the range ends the reading. -/
def accumulate (t : IntegerType) (radix : Nat) (negative : Bool) :
    Int → List Char → Except IntegerFault Int
  | acc, [] => .ok acc
  | acc, c :: cs =>
    match Digits.value? radix c with
    | none => .error .invalidDigit
    | some d =>
      let next := if negative then acc * radix - d else acc * radix + d
      if next < t.least then .error .tooSmall
      else if t.greatest < next then .error .tooLarge
      else accumulate t radix negative next cs

/-- Reads the digits after a sign; what is left to refuse is a zero in a type without zero. -/
def readDigits (t : IntegerType) (radix : Nat) (negative : Bool) (cs : List Char) :
    Except IntegerFault t.Value :=
  match t.accumulate radix negative 0 cs with
  | .error fault => .error fault
  | .ok z => if h : t.Contains z then .ok ⟨z, h⟩ else .error .zero

/-- Reads an integer of the type: an optional sign, minus only for a signed type, and digits. -/
def read (t : IntegerType) (radix : Nat) : List Char → Except IntegerFault t.Value
  | [] => .error .empty
  | ['+'] => .error .invalidDigit
  | ['-'] => .error .invalidDigit
  | '+' :: cs => t.readDigits radix false cs
  | '-' :: cs => if t.isSigned then t.readDigits radix true cs else .error .invalidDigit
  | cs => t.readDigits radix false cs

end IntegerType

/-- Why a text is no value of the type a variable is read as; a type that is no integer type has its own wording. -/
inductive ReadFault
  | integer (fault : IntegerFault)
  | worded (message : String)
  deriving DecidableEq, Repr

/-- The wording of each fault. -/
def ReadFault.message : ReadFault → String
  | .integer fault => fault.message
  | .worded message => message

/-- Reads an integer of type `t`. -/
def readInteger (t : IntegerType) (text : String) : Except ReadFault t.Value :=
  (t.read 10 text.toList).mapError .integer

end StartupConfig
