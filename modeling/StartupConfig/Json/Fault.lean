import StartupConfig.Text.Quoted
import StartupConfig.Text.Utf8
import StartupConfig.Integer
import StartupConfig.Number.Shortest

/-!
# Faults in JSON texts

A fault has a cause and a place. While a text is read, the place is the number of bytes that are left; the
whole text turns it into a line and a column, which count from one and from zero.
-/
namespace StartupConfig.Json

/-- What was found where something else was wanted. -/
inductive Found
  | null
  | boolean (value : Bool)
  | integer (value : Int)
  | float (value : Binary64)
  | text (value : List Char)
  | list
  | record
  deriving DecidableEq, Repr

/-- Floating-point numbers are written positionally from five places behind the point to sixteen before it;
a tie goes to the even digit. -/
def floatStyle : Binary64.Style := ⟨.even, -5, 15⟩

/-- The wording of what was found. -/
def Found.message : Found → List Char
  | .null => "null".toList
  | .boolean value => "boolean `".toList ++ (if value then "true`" else "false`").toList
  | .integer value => "integer `".toList ++ Decimal.render value ++ ['\x60']
  | .float value => "floating point `".toList ++ value.render floatStyle ++ ['\x60']
  | .text value => "string ".toList ++ Quoted.quote value
  | .list => "sequence".toList
  | .record => "map".toList

/-- Why a text is refused. -/
inductive Cause
  | endInValue
  | endInList
  | endInRecord
  | endInString
  | expectedColon
  | expectedListEnd
  | expectedRecordEnd
  | expectedWord
  | expectedValue
  | invalidEscape
  | invalidNumber
  | numberOutOfRange
  | controlCharacter
  | nameNotString
  | loneSurrogate
  | brokenSurrogatePair
  | trailingComma
  | trailingCharacters
  | wrongType (found : Found) (wanted : String)
  | wrongValue (found : Found) (wanted : String)
  | wrongLength (length : Nat) (wanted : String)
  | missingField (name : String)
  | repeatedField (name : String)
  | unknownKind (name : List Char)
  deriving DecidableEq, Repr

/-- The wording of a cause. -/
def Cause.message : Cause → List Char
  | .endInValue => "EOF while parsing a value".toList
  | .endInList => "EOF while parsing a list".toList
  | .endInRecord => "EOF while parsing an object".toList
  | .endInString => "EOF while parsing a string".toList
  | .expectedColon => "expected `:`".toList
  | .expectedListEnd => "expected `,` or `]`".toList
  | .expectedRecordEnd => "expected `,` or `\x7d`".toList
  | .expectedWord => "expected ident".toList
  | .expectedValue => "expected value".toList
  | .invalidEscape => "invalid escape".toList
  | .invalidNumber => "invalid number".toList
  | .numberOutOfRange => "number out of range".toList
  | .controlCharacter => "control character (\\u0000-\\u001F) found while parsing a string".toList
  | .nameNotString => "key must be a string".toList
  | .loneSurrogate => "lone leading surrogate in hex escape".toList
  | .brokenSurrogatePair => "unexpected end of hex escape".toList
  | .trailingComma => "trailing comma".toList
  | .trailingCharacters => "trailing characters".toList
  | .wrongType found wanted =>
    "invalid type: ".toList ++ found.message ++ ", expected ".toList ++ wanted.toList
  | .wrongValue found wanted =>
    "invalid value: ".toList ++ found.message ++ ", expected ".toList ++ wanted.toList
  | .wrongLength length wanted =>
    "invalid length ".toList ++ Decimal.renderNat length ++ ", expected ".toList ++ wanted.toList
  | .missingField name => "missing field `".toList ++ name.toList ++ ['\x60']
  | .repeatedField name => "duplicate field `".toList ++ name.toList ++ ['\x60']
  | .unknownKind name =>
    "unknown variant `".toList ++ name ++ "`, expected `string` or `integer`".toList

/-- A cause and the number of bytes that are left where it was found. -/
structure Stop where
  cause : Cause
  left : Nat
  deriving DecidableEq, Repr

namespace Stop

/-- A fault before what is left. -/
def here (cause : Cause) (rest : List Char) : Stop := ⟨cause, Utf8.size rest⟩

/-- A fault one byte into what is left. -/
def next (cause : Cause) (rest : List Char) : Stop := ⟨cause, Utf8.size rest - 1⟩

/-- The line and the column that a number of bytes leads to. -/
def place (bytes : Nat) (text : List Char) : Nat × Nat :=
  let before := (Utf8.encode text).take bytes
  (before.count 10 + 1, (before.reverse.takeWhile (· ≠ 10)).length)

/-- The wording of a fault in a text. -/
def message (s : Stop) (text : List Char) : List Char :=
  let (line, column) := place (Utf8.size text - s.left) text
  s.cause.message ++ " at line ".toList ++ Decimal.renderNat line ++ " column ".toList
    ++ Decimal.renderNat column

end Stop

end StartupConfig.Json
