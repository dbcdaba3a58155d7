import StartupConfig.Text.Quoted
import StartupConfig.Text.Utf8

/-!
# Cutting texts at byte places

A part of a text is given by the places of its first byte and of the byte behind its last one. A place inside a
character gives no part, and whoever asks for it cannot go on.
-/
namespace StartupConfig

/-- A place inside a character: where the part would begin, or with `isEnd` where it would end. The character's own
first byte is at `first`. -/
structure SplitCharacter where
  isEnd : Bool
  place : Nat
  character : Char
  first : Nat
  deriving DecidableEq, Repr

/-- The wording of a place inside a character. -/
def SplitCharacter.message (s : SplitCharacter) : List Char :=
  (if s.isEnd then "end" else "start").toList ++ " byte index ".toList ++ Nat.toDigits 10 s.place
    ++ " is not a char boundary; it is inside '".toList ++ Quoted.escape s.character
    ++ "' (bytes ".toList ++ Nat.toDigits 10 s.first ++ "..".toList
    ++ Nat.toDigits 10 (s.first + s.character.utf8Size) ++ " of string)".toList

namespace Cut

/-- The character that a place is inside, with the place of its first byte; the text begins at `first`. -/
def around? (place : Nat) : Nat → List Char → Option (Char × Nat)
  | _, [] => none
  | first, c :: cs =>
    if first < place ∧ place < first + c.utf8Size then some (c, first)
    else around? place (first + c.utf8Size) cs

/-- The characters whose first bytes are at or behind one place and in front of another. -/
def characters (first last : Nat) : Nat → List Char → List Char
  | _, [] => []
  | place, c :: cs =>
    let rest := characters first last (place + c.utf8Size) cs
    if first ≤ place ∧ place < last then c :: rest else rest

/-- The part of a text between two places. -/
def part (text : List Char) (first last : Nat) : Except SplitCharacter (List Char) :=
  match around? first 0 text, around? last 0 text with
  | some (c, place), _ => .error ⟨false, first, c, place⟩
  | none, some (c, place) => .error ⟨true, last, c, place⟩
  | none, none => .ok (characters first last 0 text)

end Cut

end StartupConfig
