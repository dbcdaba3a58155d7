/-!
# Bytes as text

`pieces` cuts a byte string into characters and malformed runs: a run is the longest proper start of
some well-formed character, or else one byte. Lossy reading puts one replacement character for each run.
-/
namespace StartupConfig.Utf8

/-- The bytes of names, values, arguments and outputs. -/
abbrev Bytes := List UInt8

/-- A part of a byte string. -/
inductive Piece
  | scalar (c : Char)
  | malformed (run : Bytes)
  deriving DecidableEq, Repr

/-- What a first byte above 127 announces: the length of the character and the range of its second byte. -/
structure Lead where
  length : Nat
  low : UInt8
  high : UInt8
  deriving DecidableEq, Repr

/-- The first bytes of characters of two to four bytes. The narrow ranges of the second byte leave out
spellings that are too long, surrogates and values past the last character. -/
def lead? (b : UInt8) : Option Lead :=
  if 0xC2 ≤ b ∧ b ≤ 0xDF then some ⟨2, 0x80, 0xBF⟩
  else if b = 0xE0 then some ⟨3, 0xA0, 0xBF⟩
  else if b = 0xED then some ⟨3, 0x80, 0x9F⟩
  else if 0xE1 ≤ b ∧ b ≤ 0xEF then some ⟨3, 0x80, 0xBF⟩
  else if b = 0xF0 then some ⟨4, 0x90, 0xBF⟩
  else if 0xF1 ≤ b ∧ b ≤ 0xF3 then some ⟨4, 0x80, 0xBF⟩
  else if b = 0xF4 then some ⟨4, 0x80, 0x8F⟩
  else none

/-- Bytes that continue a character. -/
def isContinuation (b : UInt8) : Bool := 0x80 ≤ b && b ≤ 0xBF

/-- The low six bits of a continuation byte. -/
def payload (b : UInt8) : Nat := b.toNat % 64

/-- Cuts a byte string into characters and malformed runs. -/
def pieces : Bytes → List Piece
  | [] => []
  | a :: rest =>
    if a < 0x80 then .scalar (Char.ofNat a.toNat) :: pieces rest
    else
      match lead? a with
      | none => .malformed [a] :: pieces rest
      | some l =>
        match rest with
        | [] => [.malformed [a]]
        | b :: rest₁ =>
          if l.low ≤ b ∧ b ≤ l.high then
            if l.length = 2 then
              .scalar (Char.ofNat (a.toNat % 32 * 64 + payload b)) :: pieces rest₁
            else
              match rest₁ with
              | [] => [.malformed [a, b]]
              | c :: rest₂ =>
                if isContinuation c then
                  if l.length = 3 then
                    .scalar (Char.ofNat ((a.toNat % 16 * 64 + payload b) * 64 + payload c))
                      :: pieces rest₂
                  else
                    match rest₂ with
                    | [] => [.malformed [a, b, c]]
                    | d :: rest₃ =>
                      if isContinuation d then
                        .scalar (Char.ofNat
                          (((a.toNat % 8 * 64 + payload b) * 64 + payload c) * 64 + payload d))
                          :: pieces rest₃
                      else .malformed [a, b, c] :: pieces (d :: rest₃)
                else .malformed [a, b] :: pieces (c :: rest₂)
          else .malformed [a] :: pieces (b :: rest₁)

/-- The character that stands for a piece when no malformed run may stay. -/
def Piece.replaced : Piece → Char
  | .scalar c => c
  | .malformed _ => '\uFFFD'

/-- The character of a piece that is one. -/
def Piece.scalar? : Piece → Option Char
  | .scalar c => some c
  | .malformed _ => none

/-- The text of a byte string, with a replacement character for each malformed run. -/
def lossy (bytes : Bytes) : String := String.ofList ((pieces bytes).map Piece.replaced)

/-- The text of a byte string that has no malformed run. -/
def strict? (bytes : Bytes) : Option String :=
  ((pieces bytes).mapM Piece.scalar?).map String.ofList

/-- The bytes of a text. -/
def encode (text : List Char) : Bytes := text.flatMap String.utf8EncodeChar

/-- The number of bytes of a text. -/
def size : List Char → Nat
  | [] => 0
  | c :: cs => c.utf8Size + size cs

end StartupConfig.Utf8
