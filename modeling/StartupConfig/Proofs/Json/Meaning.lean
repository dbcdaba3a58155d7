import StartupConfig.Proofs.Json.Grammar
import StartupConfig.Proofs.Utf8

/-!
# What the scalars of JSON mean

A string denotes a row of units of sixteen bits, and the text whose units they are; a half of a pair that stands alone
is part of no text. A number without fraction and exponent denotes an integer, unless it is a zero below zero. A string
is read exactly as the text it denotes (`readString_glyphs`), a number as the integer it denotes if that has room
(`readNumber_spelling`).
-/
namespace StartupConfig.Json

/-! ## Units -/

/-- The units of a character: one, or a pair above the first plane. -/
def utf16 (c : Char) : List Nat :=
  if c.toNat < 0x10000 then [c.toNat]
  else [0xD800 + (c.toNat - 0x10000) / 0x400, 0xDC00 + (c.toNat - 0x10000) % 0x400]

/-- The units that a part of a string denotes. -/
def Glyph.units : Glyph → List Nat
  | .plain c _ => utf16 c
  | .short s => utf16 s.char
  | .unit w x y z => [unitOf w x y z]

namespace Glyph

/-- A string denotes the text whose units it spells. -/
def Denotes (gs : List Glyph) (text : List Char) : Prop := gs.flatMap units = text.flatMap utf16

instance (gs : List Glyph) (text : List Char) : Decidable (Denotes gs text) := inferInstanceAs (Decidable (_ = _))

end Glyph

theorem utf16_of_lt {c : Char} (h : c.toNat < 0x10000) : utf16 c = [c.toNat] := if_pos h

/-- A character has one unit that is no half of a pair, or a pair. -/
theorem utf16_cases (c : Char) :
    (utf16 c = [c.toNat] ∧ isHighSurrogate c.toNat = false ∧ isLowSurrogate c.toNat = false) ∨
    ∃ high low, utf16 c = [high, low] ∧ isHighSurrogate high ∧ isLowSurrogate low ∧ ofSurrogates high low = c := by
  have hvalid : c.toNat < 0xD800 ∨ 0xDFFF < c.toNat ∧ c.toNat < 0x110000 := c.valid
  by_cases h : c.toNat < 0x10000
  · refine .inl ⟨utf16_of_lt h, ?_⟩
    simp only [isHighSurrogate, isLowSurrogate, Bool.and_eq_false_iff, decide_eq_false_iff_not]
    omega
  · refine .inr ⟨_, _, if_neg h, ?_, ?_, ?_⟩
    · simp only [isHighSurrogate, Bool.and_eq_true, decide_eq_true_eq]
      omega
    · simp only [isLowSurrogate, Bool.and_eq_true, decide_eq_true_eq]
      omega
    · have hn : (0xD800 + (c.toNat - 0x10000) / 0x400 - 0xD800) * 0x400
          + (0xDC00 + (c.toNat - 0x10000) % 0x400 - 0xDC00) + 0x10000 = c.toNat := by omega
      rw [ofSurrogates, hn, Char.ofNat_toNat]

theorem utf16_ofSurrogates {high low : Nat} (hhigh : isHighSurrogate high) (hlow : isLowSurrogate low) :
    utf16 (ofSurrogates high low) = [high, low] := by
  simp only [isHighSurrogate, isLowSurrogate, Bool.and_eq_true, decide_eq_true_eq] at hhigh hlow
  have hn : (ofSurrogates high low).toNat = (high - 0xD800) * 0x400 + (low - 0xDC00) + 0x10000 :=
    Utf8.toNat_val_ofNat (.inr (by omega))
  have hhalf : 0xD800 + ((ofSurrogates high low).toNat - 0x10000) / 0x400 = high := by omega
  have hhalf' : 0xDC00 + ((ofSurrogates high low).toNat - 0x10000) % 0x400 = low := by omega
  rw [utf16, if_neg (by omega), hhalf, hhalf']

theorem unitOf_lt (w x y z : HexDigit) : unitOf w x y z < 0x10000 := by
  have hw := w.value.isLt
  have hx := x.value.isLt
  have hy := y.value.isLt
  have hz := z.value.isLt
  rw [unitOf]
  omega

/-- A unit that is no half of a pair is a character. -/
theorem utf16_ofNat {n : Nat} (h : n < 0x10000) (hhigh : isHighSurrogate n = false) (hlow : isLowSurrogate n = false) :
    utf16 (Char.ofNat n) = [n] := by
  simp only [isHighSurrogate, isLowSurrogate, Bool.and_eq_false_iff, decide_eq_false_iff_not] at hhigh hlow
  have hn : (Char.ofNat n).toNat = n := Utf8.toNat_val_ofNat (by simp only [Nat.isValidChar]; omega)
  rw [utf16, hn, if_pos h]

theorem low_of_high {n : Nat} (h : isHighSurrogate n) : isLowSurrogate n = false := by
  simp only [isHighSurrogate, isLowSurrogate, Bool.and_eq_true, Bool.and_eq_false_iff, decide_eq_true_eq,
    decide_eq_false_iff_not] at h ⊢
  omega

/-- Characters whose units begin a row alike are the same. -/
theorem utf16_append_inj {c c' : Char} {us us' : List Nat} (h : utf16 c ++ us = utf16 c' ++ us') :
    c = c' ∧ us = us' := by
  rcases utf16_cases c with ⟨hc, hhigh, -⟩ | ⟨high, low, hc, hhigh, -, hof⟩ <;>
    rcases utf16_cases c' with ⟨hc', hhigh', -⟩ | ⟨high', low', hc', hhigh', -, hof'⟩
  · rw [hc, hc'] at h
    simpa [Char.toNat_inj] using h
  · rw [hc, hc'] at h
    obtain ⟨rfl, -⟩ := List.cons.inj h
    simp [hhigh] at hhigh'
  · rw [hc, hc'] at h
    obtain ⟨rfl, -⟩ := List.cons.inj h
    simp [hhigh'] at hhigh
  · rw [hc, hc'] at h
    simp only [List.cons_append, List.nil_append, List.cons.injEq] at h
    obtain ⟨rfl, rfl, rfl⟩ := h
    exact ⟨hof.symm.trans hof', rfl⟩

theorem utf16_ne_nil (c : Char) : utf16 c ≠ [] := by
  rcases utf16_cases c with ⟨hc, -⟩ | ⟨high, low, hc, -⟩ <;> simp [hc]

/-- Units are those of one text at most. -/
theorem flatMap_utf16_inj {s t : List Char} (h : s.flatMap utf16 = t.flatMap utf16) : s = t := by
  induction s generalizing t with
  | nil =>
    cases t with
    | nil => rfl
    | cons c t => simp [utf16_ne_nil] at h
  | cons c s ih =>
    cases t with
    | nil => simp [utf16_ne_nil] at h
    | cons c' t =>
      obtain ⟨rfl, hst⟩ := utf16_append_inj h
      rw [ih hst]

/-- A text whose units begin with those of a character begins with it. -/
theorem exists_of_flatMap_utf16 {c : Char} {us : List Nat} {text : List Char}
    (h : utf16 c ++ us = text.flatMap utf16) : ∃ text', text = c :: text' ∧ us = text'.flatMap utf16 := by
  cases text with
  | nil => simp [utf16_ne_nil] at h
  | cons c' text =>
    obtain ⟨rfl, hus⟩ := utf16_append_inj h
    exact ⟨text, rfl, hus⟩

/-- No character begins with the second half of a pair. -/
theorem utf16_head (c : Char) : ∃ u us, utf16 c = u :: us ∧ isLowSurrogate u = false := by
  rcases utf16_cases c with ⟨hc, -, hlow⟩ | ⟨high, low, hc, hhigh, -⟩
  · exact ⟨_, _, hc, hlow⟩
  · exact ⟨_, _, hc, low_of_high hhigh⟩

/-- A second half that stands first is part of no text. -/
theorem ne_flatMap_of_low {n : Nat} (h : isLowSurrogate n) (us : List Nat) (text : List Char) :
    n :: us ≠ text.flatMap utf16 := by
  intro heq
  cases text with
  | nil => simp at heq
  | cons c text =>
    obtain ⟨u, us', hc, hlow⟩ := utf16_head c
    rw [List.flatMap_cons, hc, List.cons_append] at heq
    rw [(List.cons.inj heq).1, hlow] at h
    exact absurd h (by decide)

/-- Nor is a first half without its second half. -/
theorem ne_flatMap_of_high {n : Nat} (h : isHighSurrogate n) {us : List Nat}
    (hus : ∀ u ∈ us.head?, isLowSurrogate u = false) (text : List Char) : n :: us ≠ text.flatMap utf16 := by
  intro heq
  cases text with
  | nil => simp at heq
  | cons c text =>
    rw [List.flatMap_cons] at heq
    rcases utf16_cases c with ⟨hc, hhigh, -⟩ | ⟨high, low, hc, -, hlow, -⟩
    · rw [hc, List.singleton_append] at heq
      rw [(List.cons.inj heq).1, hhigh] at h
      exact absurd h (by decide)
    · rw [hc, List.cons_append, List.cons_append] at heq
      have hhalf := hus low (by rw [(List.cons.inj heq).2]; rfl)
      rw [hhalf] at hlow
      exact absurd hlow (by decide)

/-- A spelling of a character: by itself, or by the escape of its unit where it does not stand for itself. -/
def Glyph.ofChar (c : Char) : Glyph :=
  if h : IsPlain c then .plain c h
  else .unit ⟨0, false⟩ ⟨0, false⟩ ⟨Fin.ofNat 16 (c.toNat / 16), false⟩ ⟨Fin.ofNat 16 c.toNat, false⟩

/-- A spelling of a text. -/
def Glyph.ofText (text : String) : List Glyph := text.toList.map ofChar

theorem Glyph.units_ofChar (c : Char) : (ofChar c).units = utf16 c := by
  unfold ofChar
  split
  · rfl
  · next h =>
    have hlt : c.toNat < 256 := by
      refine Nat.lt_of_not_le fun hle => h ⟨?_, ?_, by omega⟩
      · rintro rfl
        exact absurd hle (by decide)
      · rintro rfl
        exact absurd hle (by decide)
    rw [utf16_of_lt (by omega), units, unitOf]
    simp only [Fin.ofNat, Fin.val_zero]
    congr 1
    omega

/-- Every text has a spelling. -/
theorem Glyph.denotes_ofText (text : String) : Denotes (ofText text) text.toList := by
  rw [Denotes, ofText, List.flatMap_map]
  exact congrArg (text.toList.flatMap ·) (funext units_ofChar)

/-! ## Strings -/

/-- What a reader answers for a row of units: the text that they are the units of, or nothing if there is none. -/
def Yields (answer : Except Stop (List Char × List Char)) (us : List Nat) (rest : List Char) : Prop :=
  ∀ text rest', answer = .ok (text, rest') ↔ us = text.flatMap utf16 ∧ rest' = rest

theorem Yields.of_eq {answer answer' : Except Stop (List Char × List Char)} {us : List Nat} {rest : List Char}
    (h : Yields answer us rest) (heq : answer' = answer) : Yields answer' us rest :=
  heq ▸ h

theorem Yields.error {us : List Nat} (h : ∀ text : List Char, us ≠ text.flatMap utf16) (e : Stop) (rest : List Char) :
    Yields (.error e) us rest := by
  intro text rest'
  simp [h text]

theorem Yields.push {answer : Except Stop (List Char × List Char)} {us : List Nat} {rest : List Char}
    (h : Yields answer us rest) (c : Char) : Yields (push c answer) (utf16 c ++ us) rest := by
  intro text rest'
  constructor
  · intro hpush
    cases answer with
    | error e => simp [Json.push] at hpush
    | ok read =>
      obtain ⟨rfl, rfl⟩ : c :: read.1 = text ∧ read.2 = rest' := by simpa [Json.push] using hpush
      obtain ⟨hus, hrest⟩ := (h read.1 read.2).1 rfl
      exact ⟨by rw [List.flatMap_cons, hus], hrest⟩
  · rintro ⟨hus, hrest⟩
    obtain ⟨text', rfl, hus'⟩ := exists_of_flatMap_utf16 hus
    rw [(h text' rest').2 ⟨hus', hrest⟩, Json.push]

section Escapes

variable {w x y z : HexDigit} {cs : List Char}

/-- The escape of a unit. -/
def unitEscape (w x y z : HexDigit) (cs : List Char) : List Char :=
  '\\' :: 'u' :: w.char :: x.char :: y.char :: z.char :: cs

theorem readString_low (h : isLowSurrogate (unitOf w x y z)) :
    readString (unitEscape w x y z cs) = .error (.here .loneSurrogate cs) := by
  simp [unitEscape, readString, hex4?_char, h]

theorem readString_unit (hlow : isLowSurrogate (unitOf w x y z) = false)
    (hhigh : isHighSurrogate (unitOf w x y z) = false) :
    readString (unitEscape w x y z cs) = push (Char.ofNat (unitOf w x y z)) (readString cs) := by
  simp [unitEscape, readString, hex4?_char, hlow, hhigh]

/-- A first half is read only with its second half. -/
theorem readString_pair {w' x' y' z' : HexDigit} (h : isHighSurrogate (unitOf w x y z))
    (h' : isLowSurrogate (unitOf w' x' y' z')) :
    readString (unitEscape w x y z (unitEscape w' x' y' z' cs))
      = push (ofSurrogates (unitOf w x y z) (unitOf w' x' y' z')) (readString cs) := by
  simp [unitEscape, readString, hex4?_char, low_of_high h, h, h']

theorem readString_unpaired {w' x' y' z' : HexDigit} (h : isHighSurrogate (unitOf w x y z))
    (h' : isLowSurrogate (unitOf w' x' y' z') = false) (cs : List Char) :
    ∃ e, readString (unitEscape w x y z (unitEscape w' x' y' z' cs)) = .error e := by
  simp [unitEscape, readString, hex4?_char, low_of_high h, h, h']

theorem readString_broken (h : isHighSurrogate (unitOf w x y z)) (hcs : ∀ cs', cs ≠ '\\' :: 'u' :: cs') :
    ∃ e, readString (unitEscape w x y z cs) = .error e := by
  simp [unitEscape, readString, hex4?_char, low_of_high h, h, hcs]

end Escapes

/-- The rest of a string begins with no second half of a pair, unless it begins with the escape of one. -/
theorem Glyph.head_units (gs : List Glyph) (rest : List Char) :
    ((∀ cs, gs.flatMap spelling ++ '"' :: rest ≠ '\\' :: 'u' :: cs)
      ∧ ∀ u ∈ (gs.flatMap units).head?, isLowSurrogate u = false) ∨
    ∃ w x y z gs', gs = .unit w x y z :: gs' := by
  cases gs with
  | nil => exact .inl (by simp)
  | cons g gs =>
    cases g with
    | unit w x y z => exact .inr ⟨w, x, y, z, gs, rfl⟩
    | plain c h =>
      obtain ⟨u, us, hc, hlow⟩ := utf16_head c
      exact .inl (by simp [spelling, units, hc, hlow, h.2.1])
    | short s =>
      obtain ⟨u, us, hs, hlow⟩ := utf16_head s.char
      exact .inl (by simp [spelling, units, hs, hlow, s.letter_ne_u])

/-- A string of glyphs is read as it should be, up to its quotation mark. -/
def IsRead (gs : List Glyph) (rest : List Char) : Prop :=
  Yields (readString (gs.flatMap Glyph.spelling ++ '"' :: rest)) (gs.flatMap Glyph.units) rest

variable {gs : List Glyph} {rest : List Char} {w x y z : HexDigit}

theorem isRead_nil (rest : List Char) : IsRead [] rest := by
  intro text rest'
  rw [List.flatMap_nil, List.nil_append, readString_end]
  cases text with
  | nil => simp [eq_comm]
  | cons c text => simp [utf16_ne_nil]

theorem isRead_plain {c : Char} (h : IsPlain c) (hgs : IsRead gs rest) : IsRead (.plain c h :: gs) rest :=
  (hgs.push c).of_eq (readString_plain h.1 h.2.1 h.2.2 _)

theorem isRead_short (s : Short) (hgs : IsRead gs rest) : IsRead (.short s :: gs) rest :=
  (hgs.push s.char).of_eq (readString_short s.unescape?_letter _)

theorem isRead_low (h : isLowSurrogate (unitOf w x y z)) (gs : List Glyph) (rest : List Char) :
    IsRead (.unit w x y z :: gs) rest :=
  (Yields.error (ne_flatMap_of_low h _) _ rest).of_eq (readString_low h)

theorem isRead_unit (hlow : isLowSurrogate (unitOf w x y z) = false) (hhigh : isHighSurrogate (unitOf w x y z) = false)
    (hgs : IsRead gs rest) : IsRead (.unit w x y z :: gs) rest := by
  have hunit := hgs.push (Char.ofNat (unitOf w x y z))
  rw [utf16_ofNat (unitOf_lt w x y z) hhigh hlow] at hunit
  exact hunit.of_eq (readString_unit hlow hhigh)

/-- Behind a first half what counts is whether its second half follows. -/
theorem isRead_high (h : isHighSurrogate (unitOf w x y z))
    (hgs : ∀ w' x' y' z' gs', gs = .unit w' x' y' z' :: gs' → IsRead gs' rest) : IsRead (.unit w x y z :: gs) rest := by
  rcases Glyph.head_units gs rest with ⟨hcs, hhead⟩ | ⟨w', x', y', z', gs', rfl⟩
  · obtain ⟨e, he⟩ := readString_broken h hcs
    exact (Yields.error (ne_flatMap_of_high h hhead) e rest).of_eq he
  · cases h' : isLowSurrogate (unitOf w' x' y' z') with
    | true =>
      have hpair := (hgs w' x' y' z' gs' rfl).push (ofSurrogates (unitOf w x y z) (unitOf w' x' y' z'))
      rw [utf16_ofSurrogates h h'] at hpair
      exact hpair.of_eq (readString_pair h h')
    | false =>
      obtain ⟨e, he⟩ := readString_unpaired h h' (gs'.flatMap Glyph.spelling ++ '"' :: rest)
      refine (Yields.error (ne_flatMap_of_high h ?_) e rest).of_eq he
      intro u hu
      obtain rfl : unitOf w' x' y' z' = u := Option.some.inj hu
      exact h'

/-- A string is read exactly as the text that it denotes. -/
theorem readString_glyphs (gs : List Glyph) (rest : List Char) : IsRead gs rest := by
  -- A pair takes two glyphs at once, so the induction is on the number of glyphs.
  induction hlength : gs.length using Nat.strongRecOn generalizing gs with
  | ind length ih =>
    cases gs with
    | nil => exact isRead_nil rest
    | cons g gs =>
      have hgs : IsRead gs rest := ih gs.length (by simp [← hlength]) gs rfl
      cases g with
      | plain c h => exact isRead_plain h hgs
      | short s => exact isRead_short s hgs
      | unit w x y z =>
        cases hlow : isLowSurrogate (unitOf w x y z) with
        | true => exact isRead_low hlow gs rest
        | false =>
          cases hhigh : isHighSurrogate (unitOf w x y z) with
          | false => exact isRead_unit hlow hhigh hgs
          | true =>
            refine isRead_high hhigh fun w' x' y' z' gs' hgs' => ih gs'.length ?_ gs' rfl
            rw [← hlength, hgs', List.length_cons, List.length_cons]
            omega

/-! ## Numbers -/

/-- The integer that a number denotes. A fraction, an exponent and a minus sign before zero make it none. -/
def Numeral.integer? (n : Numeral) : Option Int :=
  if n.fraction.isSome || n.exponent.isSome || (n.negative && n.whole == 0) then none
  else some (if n.negative then -n.whole else n.whole)

/-- A reader answers with a floating-point number, if with a number at all. -/
def IsFloating (answer : Except Stop (Number × List Char)) : Prop := ∀ z rest, answer ≠ .ok (.integer z, rest)

theorem isFloating_finishFloat (negative : Bool) (n : Nat) (e : Int) (cs : List Char) :
    IsFloating (finishFloat negative n e cs) := by
  intro z rest
  unfold finishFloat
  split <;> simp

theorem isFloating_readPower (negative : Bool) (n : Nat) (e : Int) (down : Bool) (cs : List Char) :
    IsFloating (readPower negative n e down cs) := by
  intro z rest
  unfold readPower
  split
  · simp
  · simp
  · split
    · split <;> simp
    · exact isFloating_finishFloat _ _ _ _ z rest

theorem isFloating_readExponent (negative : Bool) (n : Nat) (e : Int) (cs : List Char) :
    IsFloating (readExponent negative n e cs) := by
  unfold readExponent
  split <;> exact isFloating_readPower _ _ _ _ _

theorem isFloating_readTail (negative : Bool) (n : Nat) (e : Int) (cs : List Char) :
    IsFloating (readTail negative n e cs) := by
  unfold readTail
  split
  · exact isFloating_readExponent _ _ _ _
  · exact isFloating_readExponent _ _ _ _
  · exact isFloating_finishFloat _ _ _ _

theorem isFloating_readFraction (negative : Bool) (n : Nat) (e : Int) (cs : List Char) :
    IsFloating (readFraction negative n e cs) := by
  unfold readFraction
  dsimp only
  split
  · exact isFloating_readTail _ _ _ _
  · split
    · intro z rest
      simp
    · exact isFloating_readTail _ _ _ _

theorem isFloating_readAfterLong (negative : Bool) (n : Nat) (cs : List Char) :
    IsFloating (readAfterLong negative n cs) := by
  unfold readAfterLong
  dsimp only
  split
  · exact isFloating_readFraction _ _ _ _
  · exact isFloating_readTail _ _ _ _

/-- A number with a fraction or an exponent is no integer. -/
theorem isFloating_readAfterWhole {c : Char} (hc : c = '.' ∨ c = 'e' ∨ c = 'E') (negative : Bool) (n : Nat)
    (cs : List Char) : IsFloating (readAfterWhole negative n (c :: cs)) := by
  rcases hc with rfl | rfl | rfl
  · exact isFloating_readFraction _ _ _ _
  · exact isFloating_readExponent _ _ _ _
  · exact isFloating_readExponent _ _ _ _

/-- Digits are not collected whole if their number passes the limit. -/
theorem collect_long {limit : Nat} {ds rest : List Char} (hds : ∀ c ∈ ds, c.isDigit) (n count : Nat) (hn : n ≤ limit)
    (h : limit < Nat.ofDigitChars 10 ds n) : startsWithDigit (collect limit n count (ds ++ rest)).2.2 = true := by
  induction ds generalizing n count with
  | nil =>
    rw [Nat.ofDigitChars_nil] at h
    omega
  | cons d ds ih =>
    have hd := hds d (by simp)
    rw [Nat.ofDigitChars_cons, Nat.mul_comm] at h
    rw [List.cons_append, collect, if_pos hd]
    by_cases hnext : limit < n * 10 + (d.toNat - '0'.toNat)
    · simp only [if_pos hnext]
      simpa [startsWithDigit] using hd
    · simp only [if_neg hnext]
      exact ih (fun c hc => hds c (by simp [hc])) _ _ (by omega) h

/-- A number with too many digits before its point is no integer. -/
theorem isFloating_readNumber_long {n : Nat} (hn : greatestSignificand < n) (negative : Bool) (rest : List Char) :
    IsFloating (readNumber negative (Decimal.renderNat n ++ rest)) := by
  have hds : ∀ c ∈ Decimal.renderNat n, c.isDigit := fun c hc => Decimal.isDigit_of_mem_renderNat hc
  have hlong : startsWithDigit (collect greatestSignificand 0 0 (Decimal.renderNat n ++ rest)).2.2 = true :=
    collect_long hds 0 0 (Nat.zero_le _) (by rwa [Decimal.ofDigitChars_renderNat])
  obtain ⟨d, ds, hd, hdigit, hzero⟩ := Decimal.exists_renderNat n
  have hz : d ≠ '0' := by
    intro hz
    rw [hzero hz] at hn
    exact absurd hn (Nat.not_lt_zero _)
  rw [hd, List.cons_append] at hlong ⊢
  rw [readNumber, if_pos hdigit]
  · simp only [if_pos hlong]
    exact isFloating_readAfterLong _ _ _
  · simpa using hz

theorem IsFloating.bind_toLong {answer : Except Stop (Number × List Char)} (h : IsFloating answer)
    (r : Long × List Char) : answer.bind toLong ≠ .ok r := by
  cases answer with
  | error e => simp [Except.bind]
  | ok read =>
    obtain ⟨x, rest⟩ := read
    cases x with
    | float x => simp [Except.bind, toLong]
    | integer z => exact absurd rfl (h z rest)

theorem toLong_integer (y : Int) (rest : List Char) (z : Long) (rest' : List Char) :
    toLong (.integer y, rest) = .ok (z, rest') ↔ y = z.val ∧ rest' = rest := by
  rw [toLong]
  split
  · next hy => simp [Subtype.ext_iff, eq_comm]
  · next hy =>
    refine iff_of_false (by simp) ?_
    rintro ⟨rfl, -⟩
    exact hy z.property

/-- A number has a denotation that fits and is read as it, or is read as no integer. -/
def IsMeant (n : Numeral) (answer : Except Stop (Number × List Char)) (rest : List Char) : Prop :=
  (∃ z, n.integer? = some z ∧ answer = .ok (.integer z, rest)) ∨
    ((∀ z, HasRoom z → n.integer? ≠ some z) ∧ IsFloating answer)

/-- Digits with nothing behind them denote an integer, which has room unless it is too large or a zero below zero. -/
theorem isMeant_digits (n : Numeral) (hfraction : n.fraction = none) (hexponent : n.exponent = none) {rest : List Char}
    (h : EndsInteger rest) : IsMeant n (readNumber n.negative (Decimal.renderNat n.whole ++ rest)) rest := by
  have hlimit : greatestSignificand = 18446744073709551615 := rfl
  have hpow : Nat.pow 2 63 = 9223372036854775808 := rfl
  obtain ⟨negative, whole, fraction, exponent⟩ := n
  obtain rfl : fraction = none := hfraction
  obtain rfl : exponent = none := hexponent
  by_cases hn : whole ≤ greatestSignificand
  · rw [IsMeant, readNumber_renderNat hn h]
    cases negative with
    | false => exact .inl ⟨whole, by simp [Numeral.integer?], rfl⟩
    | true =>
      by_cases hsmall : whole = 0 ∨ Nat.pow 2 63 < whole
      · refine .inr ⟨?_, ?_⟩
        · rintro z ⟨hleast, -⟩ hz
          obtain ⟨hzero, rfl⟩ : whole ≠ 0 ∧ -(whole : Int) = z := by simpa [Numeral.integer?] using hz
          omega
        · intro z rest'
          simp [ofSignificand, hsmall]
      · obtain ⟨hzero, -⟩ := not_or.1 hsmall
        refine .inl ⟨-whole, by simp [Numeral.integer?, hzero], ?_⟩
        simp [ofSignificand, hsmall]
  · refine .inr ⟨?_, isFloating_readNumber_long (Nat.lt_of_not_le hn) negative rest⟩
    rintro z ⟨hleast, hgreatest⟩ hz
    cases negative with
    | false =>
      obtain rfl : (whole : Int) = z := by simpa [Numeral.integer?] using hz
      omega
    | true =>
      obtain ⟨-, rfl⟩ : whole ≠ 0 ∧ -(whole : Int) = z := by simpa [Numeral.integer?] using hz
      omega

theorem isMeant_spelling (n : Numeral) {rest : List Char} (h : EndsInteger rest) :
    IsMeant n (readNumber n.negative (Decimal.renderNat n.whole ++ (n.tail ++ rest))) rest := by
  rcases n.tail_cases with ⟨hfraction, hexponent, htail⟩ | ⟨hsome, c, cs, htail, hc⟩
  · rw [htail, List.nil_append]
    exact isMeant_digits n hfraction hexponent h
  · have hnone : n.integer? = none := by
      rcases hsome with hfraction | hexponent
      · simp [Numeral.integer?, hfraction]
      · simp [Numeral.integer?, hexponent]
    refine .inr ⟨by simp [hnone], ?_⟩
    by_cases hn : n.whole ≤ greatestSignificand
    · rw [readNumber_whole hn (n.startsWithDigit_tail h), htail]
      exact isFloating_readAfterWhole hc _ _ _
    · exact isFloating_readNumber_long (Nat.lt_of_not_le hn) _ _

/-- A number is read as an integer of the record exactly if it denotes that integer. -/
theorem readNumber_spelling (n : Numeral) {rest : List Char} (h : EndsInteger rest) (z : Long) (rest' : List Char) :
    (readNumber n.negative (Decimal.renderNat n.whole ++ (n.tail ++ rest))).bind toLong = .ok (z, rest') ↔
      n.integer? = some z.val ∧ rest' = rest := by
  rcases isMeant_spelling n h with ⟨y, hy, hread⟩ | ⟨hnone, hread⟩
  · rw [hread, hy, Option.some.injEq]
    exact toLong_integer y rest z rest'
  · refine iff_of_false (hread.bind_toLong _) ?_
    exact fun hz => hnone z.val (hasRoom_long z) hz.1

end StartupConfig.Json
