import StartupConfig.Proofs.Json.Scalar

/-!
# The grammar of JSON

A phrase keeps every choice that the grammar leaves: the blanks between the parts of a text, the escapes in its strings,
the digits of its numbers, the order of members. The texts of the grammar are the spellings of phrases with blanks
around them. What kind of phrase stands in a text shows in its first character.
-/
namespace StartupConfig.Json

/-! ## Phrases -/

/-- Blanks, perhaps none. -/
abbrev Gap := {cs : List Char // cs.all isBlank}

/-- Something between blanks. -/
structure Placed (α : Type) where
  before : Gap
  value : α
  after : Gap

/-- A hexadecimal digit, whose letter may be capital. -/
structure HexDigit where
  value : Fin 16
  isCapital : Bool

def HexDigit.char (h : HexDigit) : Char :=
  if h.isCapital then (Nat.digitChar h.value).toUpper else Nat.digitChar h.value

/-- The characters that have an escape of one letter. -/
inductive Short
  | quotationMark
  | backslash
  | slash
  | backspace
  | formFeed
  | lineFeed
  | carriageReturn
  | tab
  deriving DecidableEq

namespace Short

/-- The letter behind the backslash. -/
def letter : Short → Char
  | .quotationMark => '"'
  | .backslash => '\\'
  | .slash => '/'
  | .backspace => 'b'
  | .formFeed => 'f'
  | .lineFeed => 'n'
  | .carriageReturn => 'r'
  | .tab => 't'

/-- The character that is escaped. -/
def char : Short → Char
  | .quotationMark => '"'
  | .backslash => '\\'
  | .slash => '/'
  | .backspace => '\x08'
  | .formFeed => '\x0c'
  | .lineFeed => '\n'
  | .carriageReturn => '\r'
  | .tab => '\t'

end Short

/-- A character that stands for itself between quotation marks. -/
def IsPlain (c : Char) : Prop := c ≠ '"' ∧ c ≠ '\\' ∧ ¬c.toNat < 0x20

instance (c : Char) : Decidable (IsPlain c) := inferInstanceAs (Decidable (_ ∧ _))

/-- A part of a string: a character, its short escape, or the escape of a unit of sixteen bits. -/
inductive Glyph
  | plain (c : Char) (h : IsPlain c)
  | short (s : Short)
  | unit (w x y z : HexDigit)

namespace Glyph

def spelling : Glyph → List Char
  | .plain c _ => [c]
  | .short s => ['\\', s.letter]
  | .unit w x y z => ['\\', 'u', w.char, x.char, y.char, z.char]

/-- The spelling of a string. -/
def quoted (gs : List Glyph) : List Char := '"' :: (gs.flatMap spelling ++ ['"'])

end Glyph

/-- One decimal digit or more. -/
abbrev DigitRun := {ds : List Char // ds ≠ [] ∧ ds.all Char.isDigit}

/-- The exponent of a number. -/
structure Exponent where
  isCapital : Bool
  sign : Option Bool
  digits : DigitRun

def Exponent.spelling (e : Exponent) : List Char :=
  (if e.isCapital then 'E' else 'e')
    :: ((match e.sign with | none => [] | some false => ['+'] | some true => ['-']) ++ e.digits.val)

/-- A number. The digits before its point are those of a natural number, so they begin with zero for zero only. -/
structure Numeral where
  negative : Bool
  whole : Nat
  fraction : Option DigitRun
  exponent : Option Exponent

namespace Numeral

/-- The exponent with its letter, if there is one. -/
def power (n : Numeral) : List Char := match n.exponent with | none => [] | some e => e.spelling

/-- The fraction with its point, if there is one, and the exponent. -/
def tail (n : Numeral) : List Char := (match n.fraction with | none => [] | some ds => '.' :: ds.val) ++ n.power

def spelling (n : Numeral) : List Char :=
  (if n.negative then ['-'] else []) ++ (Decimal.renderNat n.whole ++ n.tail)

end Numeral

/-- A value as it is spelled. The gap of a list or record stands behind its opening character. -/
inductive Phrase
  | null
  | flag (value : Bool)
  | number (numeral : Numeral)
  | text (glyphs : List Glyph)
  | list (gap : Gap) (items : List (Placed Phrase))
  | record (gap : Gap) (members : List (Placed (List Glyph) × Placed Phrase))

namespace Phrase

mutual

def spelling : Phrase → List Char
  | .null => ['n', 'u', 'l', 'l']
  | .flag value => if value then ['t', 'r', 'u', 'e'] else ['f', 'a', 'l', 's', 'e']
  | .number numeral => numeral.spelling
  | .text glyphs => Glyph.quoted glyphs
  | .list gap items => '[' :: (gap.val ++ ([','].intercalate (itemSpellings items) ++ [']']))
  | .record gap members => '{' :: (gap.val ++ ([','].intercalate (memberSpellings members) ++ ['}']))

/-- Items with the blanks around them. -/
def itemSpellings : List (Placed Phrase) → List (List Char)
  | [] => []
  | ⟨before, p, after⟩ :: items => (before.val ++ (p.spelling ++ after.val)) :: itemSpellings items

/-- Members with the blanks around their names and values. -/
def memberSpellings : List (Placed (List Glyph) × Placed Phrase) → List (List Char)
  | [] => []
  | (⟨before, name, behind⟩, ⟨before', p, after⟩) :: members =>
    (before.val ++ (Glyph.quoted name ++ (behind.val ++ ':' :: (before'.val ++ (p.spelling ++ after.val)))))
      :: memberSpellings members

end

end Phrase

/-- The text of a phrase with the blanks around it. -/
def Placed.text (t : Placed Phrase) : String := String.ofList (t.before.val ++ (t.value.spelling ++ t.after.val))

/-! ## Digits -/

theorem Gap.isBlank (gap : Gap) : ∀ c ∈ gap.val, isBlank c := List.all_eq_true.1 gap.property

/-- Blanks are dropped up to a character that is none. -/
theorem Gap.dropBlank_cons (gap : Gap) {c : Char} (h : Json.isBlank c = false) (cs : List Char) :
    dropBlank (gap.val ++ c :: cs) = c :: cs := by
  rw [dropBlank_append gap.isBlank, Json.dropBlank_cons h]

theorem HexDigit.value?_char (h : HexDigit) : Digits.value? 16 h.char = some h.value.val := by
  obtain ⟨value, isCapital⟩ := h
  have hall : ∀ (value : Fin 16) (isCapital : Bool),
      Digits.value? 16 (HexDigit.mk value isCapital).char = some value.val := by decide
  exact hall value isCapital

/-- The number that four hexadecimal digits denote. -/
def unitOf (w x y z : HexDigit) : Nat :=
  ((w.value.val * 16 + x.value.val) * 16 + y.value.val) * 16 + z.value.val

theorem hex4?_char (w x y z : HexDigit) : hex4? w.char x.char y.char z.char = some (unitOf w x y z) := by
  simp [hex4?, HexDigit.value?_char, unitOf]

theorem Short.unescape?_letter (s : Short) : unescape? s.letter = some s.char := by cases s <;> rfl

theorem Short.letter_ne_u (s : Short) : s.letter ≠ 'u' := by cases s <;> decide

/-- A run of digits is a digit with digits behind it. -/
theorem DigitRun.exists_cons (ds : DigitRun) :
    ∃ d ds', ds.val = d :: ds' ∧ d.isDigit ∧ ∀ c ∈ ds', c.isDigit := by
  obtain ⟨cs, hne, hall⟩ := ds
  obtain ⟨d, ds', rfl⟩ := List.exists_cons_of_ne_nil hne
  have hdigits := List.all_eq_true.1 hall
  exact ⟨d, ds', rfl, hdigits d (by simp), fun c hc => hdigits c (by simp [hc])⟩

theorem dropWhile_digits {ds rest : List Char} (hds : ∀ c ∈ ds, c.isDigit) (h : startsWithDigit rest = false) :
    (ds ++ rest).dropWhile Char.isDigit = rest := by
  refine (run_append hds ?_).2
  intro c hc
  simpa [startsWithDigit, Option.mem_def.1 hc] using h

/-- A number goes on behind its digits only with a point or the letter of an exponent. -/
theorem Numeral.tail_cases (n : Numeral) : (n.fraction = none ∧ n.exponent = none ∧ n.tail = []) ∨
    ((n.fraction.isSome ∨ n.exponent.isSome) ∧ ∃ c cs, n.tail = c :: cs ∧ (c = '.' ∨ c = 'e' ∨ c = 'E')) := by
  obtain ⟨negative, whole, fraction, exponent⟩ := n
  cases fraction with
  | some ds => exact .inr ⟨.inl rfl, '.', _, rfl, .inl rfl⟩
  | none =>
    cases exponent with
    | none => exact .inl ⟨rfl, rfl, rfl⟩
    | some e => cases hc : e.isCapital <;> simp [tail, power, Exponent.spelling, hc]

theorem Numeral.startsWithDigit_tail (n : Numeral) {rest : List Char} (h : EndsInteger rest) :
    startsWithDigit (n.tail ++ rest) = false := by
  rcases n.tail_cases with ⟨-, -, htail⟩ | ⟨-, c, cs, htail, rfl | rfl | rfl⟩
  · rw [htail]
    exact h.startsWithDigit
  all_goals rw [htail]; rfl

/-! ## First characters -/

/-- The characters that a phrase can begin with. -/
def Phrase.Begins : Phrase → Char → Prop
  | .null, c => c = 'n'
  | .flag value, c => c = if value then 't' else 'f'
  | .number _, c => c = '-' ∨ c.isDigit
  | .text _, c => c = '"'
  | .list _ _, c => c = '['
  | .record _ _, c => c = '{'

theorem Numeral.exists_spelling (n : Numeral) : ∃ c cs, n.spelling = c :: cs ∧ (c = '-' ∨ c.isDigit) := by
  unfold spelling
  cases n.negative with
  | true => exact ⟨'-', _, rfl, .inl rfl⟩
  | false =>
    obtain ⟨d, ds, hd, hdigit, -⟩ := Decimal.exists_renderNat n.whole
    exact ⟨d, ds ++ n.tail, by rw [hd]; rfl, .inr hdigit⟩

theorem Phrase.exists_spelling (p : Phrase) : ∃ c cs, p.spelling = c :: cs ∧ p.Begins c := by
  cases p with
  | null => exact ⟨_, _, rfl, rfl⟩
  | flag value => cases value <;> exact ⟨_, _, rfl, rfl⟩
  | number numeral => exact numeral.exists_spelling
  | text glyphs => exact ⟨_, _, rfl, rfl⟩
  | list gap items => exact ⟨_, _, rfl, rfl⟩
  | record gap members => exact ⟨_, _, rfl, rfl⟩

theorem Phrase.Begins.not_blank {p : Phrase} {c : Char} (h : p.Begins c) : isBlank c = false ∧ c ≠ ']' := by
  cases p with
  | number numeral =>
    rcases h with rfl | hdigit
    · decide
    · exact ⟨isBlank_digit hdigit, Decimal.ne_of_isDigit hdigit rfl⟩
  | flag value =>
    obtain rfl := h
    cases value <;> decide
  | _ =>
    obtain rfl := h
    decide

/-! ## Parts of lists and records -/

/-- The first part of a list or record stands behind its opening character, any other behind a comma. -/
def comma (isFirst : Bool) : List Char := if isFirst then [] else [',']

/-- Parts that are left: all of them, or those behind another one. -/
def row (isFirst : Bool) (parts : List (List Char)) : List Char :=
  if isFirst then [','].intercalate parts else parts.flatMap (',' :: ·)

theorem intercalate_comma (part : List Char) (parts : List (List Char)) :
    [','].intercalate (part :: parts) = part ++ parts.flatMap (',' :: ·) := by
  induction parts generalizing part with
  | nil => simp [List.intercalate]
  | cons part' parts ih =>
    rw [List.flatMap_cons, List.cons_append, ← ih part']
    simp [List.intercalate]

theorem row_nil (isFirst : Bool) : row isFirst [] = [] := by cases isFirst <;> rfl

theorem row_cons (isFirst : Bool) (part : List Char) (parts : List (List Char)) :
    row isFirst (part :: parts) = comma isFirst ++ (part ++ row false parts) := by
  cases isFirst with
  | true => exact intercalate_comma part parts
  | false => rfl

/-- What stands behind a part goes on with no number in it. -/
theorem endsInteger_row {close : Char} (h : close = ']' ∨ close = '}') (gap : Gap) (parts : List (List Char))
    (rest : List Char) : EndsInteger (gap.val ++ (row false parts ++ close :: rest)) := by
  apply EndsInteger.append gap.isBlank
  cases parts with
  | nil =>
    rw [row_nil, List.nil_append]
    rcases h with rfl | rfl <;> exact EndsInteger.cons (by decide) rest
  | cons part parts => exact EndsInteger.cons (c := ',') (by decide) _

end StartupConfig.Json
