import StartupConfig.Json.Printer
import StartupConfig.Json.Reader
import StartupConfig.Proofs.Decimal

/-!
# Reading back written JSON scalars

Each character is read back from its escape, so every string is read back from its quoted form, whatever
follows. An integer is read back from its digits unless what follows could go on with the number.
-/
namespace StartupConfig.Json

/-! ## Blanks -/

/-- Blanks in front do not change what comes next. -/
theorem dropBlank_append {gap : List Char} (h : ∀ c ∈ gap, isBlank c) (cs : List Char) :
    dropBlank (gap ++ cs) = dropBlank cs :=
  List.dropWhile_append_of_pos h

theorem dropBlank_cons {c : Char} (h : isBlank c = false) (cs : List Char) : dropBlank (c :: cs) = c :: cs := by
  simp [dropBlank, h]

/-! ## Strings -/

theorem readString_end (cs : List Char) : readString ('"' :: cs) = .ok ([], cs) := by
  rw [readString.eq_def]
  rfl

/-- A character that needs no escape is read as itself. -/
theorem readString_plain {c : Char} (h : c ≠ '"') (h' : c ≠ '\\') (hc : ¬c.toNat < 0x20)
    (cs : List Char) : readString (c :: cs) = push c (readString cs) := by
  rw [readString.eq_def]
  simp [h, h', hc]

/-- A letter behind a backslash is read as what it stands for. -/
theorem readString_short {e c : Char} (h : unescape? e = some c) (cs : List Char) :
    readString ('\\' :: e :: cs) = push c (readString cs) := by
  have hu : e ≠ 'u' := by
    rintro rfl
    exact absurd h (by simp [show unescape? 'u' = none from rfl])
  simp [readString, h]

/-- The two digits of a control character are read back as its number. -/
theorem hex4?_hexByte {n : Nat} (h : n < 0x20) :
    hex4? '0' '0' (Nat.digitChar (n / 16)) (Nat.digitChar (n % 16)) = some n := by
  have hall : ∀ n < 0x20, hex4? '0' '0' (Nat.digitChar (n / 16)) (Nat.digitChar (n % 16)) = some n := by
    decide
  exact hall n h

/-- An escaped character is read as the character. -/
theorem readString_escape (c : Char) (rest : List Char) :
    readString (escape c ++ rest) = push c (readString rest) := by
  unfold escape
  split
  · subst_vars; exact readString_short rfl rest
  split
  · subst_vars; exact readString_short rfl rest
  split
  · subst_vars; exact readString_short rfl rest
  split
  · subst_vars; exact readString_short rfl rest
  split
  · subst_vars; exact readString_short rfl rest
  split
  · subst_vars; exact readString_short rfl rest
  split
  · subst_vars; exact readString_short rfl rest
  split
  · next h =>
    have hn : ¬isLowSurrogate c.toNat ∧ ¬isHighSurrogate c.toNat := by
      simp [isLowSurrogate, isHighSurrogate]
      omega
    simp [readString, hexByte, hex4?_hexByte h, hn, Char.ofNat_toNat]
  · exact readString_plain ‹_› ‹_› ‹_› rest

theorem readString_flatMap_escape (s rest : List Char) :
    readString (s.flatMap escape ++ '"' :: rest) = .ok (s, rest) := by
  induction s with
  | nil => exact readString_end rest
  | cons c s ih => rw [List.flatMap_cons, List.append_assoc, readString_escape, ih, push]

theorem quote_append (s rest : List Char) :
    quote s ++ rest = '"' :: (s.flatMap escape ++ '"' :: rest) := by
  simp [quote]

/-- A quoted text is read back, whatever follows. -/
theorem readText_quote (wanted : String) (s rest : List Char) :
    readText wanted (quote s ++ rest) = .ok (s, rest) := by
  rw [quote_append, readText]
  exact readString_flatMap_escape s rest

/-! ## Integers -/

/-- A text that cannot go on with an integer in front of it. -/
def EndsInteger (rest : List Char) : Prop :=
  ∀ c ∈ rest.head?, c.isDigit = false ∧ c ≠ '.' ∧ c ≠ 'e' ∧ c ≠ 'E'

theorem EndsInteger.startsWithDigit {rest : List Char} (h : EndsInteger rest) :
    startsWithDigit rest = false := by
  cases rest with
  | nil => rfl
  | cons c rest => simpa [Json.startsWithDigit] using (h c rfl).1

theorem EndsInteger.cons {c : Char} (h : c.isDigit = false ∧ c ≠ '.' ∧ c ≠ 'e' ∧ c ≠ 'E') (rest : List Char) :
    EndsInteger (c :: rest) := by
  intro d hd
  obtain rfl : c = d := by simpa using hd
  exact h

/-- A blank ends an integer. -/
theorem EndsInteger.append {gap rest : List Char} (hgap : ∀ c ∈ gap, isBlank c) (h : EndsInteger rest) :
    EndsInteger (gap ++ rest) := by
  cases gap with
  | nil => exact h
  | cons c gap =>
    have hc : isBlank c := hgap c (by simp)
    simp only [isBlank, Bool.or_eq_true, beq_iff_eq] at hc
    apply EndsInteger.cons
    rcases hc with ((rfl | rfl) | rfl) | rfl <;> decide

theorem readAfterWhole_of_ends {rest : List Char} (h : EndsInteger rest) (negative : Bool) (n : Nat) :
    readAfterWhole negative n rest = .ok (ofSignificand negative n, rest) := by
  unfold readAfterWhole
  split
  · exact absurd rfl (h '.' rfl).2.1
  · exact absurd rfl (h 'e' rfl).2.2.1
  · exact absurd rfl (h 'E' rfl).2.2.2
  · rfl

/-- Digits are collected whole if their number keeps within the limit. -/
theorem collect_digits {limit : Nat} {ds rest : List Char} (hds : ∀ c ∈ ds, c.isDigit)
    (hrest : startsWithDigit rest = false) (n count : Nat) (hn : Nat.ofDigitChars 10 ds n ≤ limit) :
    collect limit n count (ds ++ rest) = (Nat.ofDigitChars 10 ds n, count + ds.length, rest) := by
  induction ds generalizing n count with
  | nil =>
    cases rest with
    | nil => rfl
    | cons c rest =>
      have hc : c.isDigit = false := by simpa [startsWithDigit] using hrest
      simp [collect, hc]
  | cons d ds ih =>
    rw [Nat.ofDigitChars_cons, Nat.mul_comm] at hn ⊢
    have hle := Decimal.le_ofDigitChars (n * 10 + (d.toNat - '0'.toNat)) ds
    rw [List.cons_append, collect, if_pos (hds d (by simp))]
    simp only [if_neg (Nat.not_lt.2 (Nat.le_trans hle hn))]
    rw [ih (fun c hc => hds c (by simp [hc])) _ _ hn, List.length_cons]
    congr 2
    omega

/-- The digits of a number are read whole if they fit, whatever follows that goes on with no digit. -/
theorem readNumber_whole {n : Nat} {rest : List Char} (hn : n ≤ greatestSignificand)
    (h : startsWithDigit rest = false) (negative : Bool) :
    readNumber negative (Decimal.renderNat n ++ rest) = readAfterWhole negative n rest := by
  have hds : ∀ c ∈ Decimal.renderNat n, c.isDigit := fun c hc => Decimal.isDigit_of_mem_renderNat hc
  have hvalue := Decimal.ofDigitChars_renderNat n
  have hcollect : collect greatestSignificand 0 0 (Decimal.renderNat n ++ rest)
      = (n, 0 + (Decimal.renderNat n).length, rest) := by
    rw [collect_digits hds h 0 0 (by omega), hvalue]
  obtain ⟨d, ds, hd, hdigit, hzero⟩ := Decimal.exists_renderNat n
  by_cases hz : d = '0'
  · obtain rfl := hzero hz
    simp [Decimal.renderNat, readNumber, h]
  · rw [hd, List.cons_append] at hcollect ⊢
    rw [readNumber, if_pos hdigit, hcollect]
    · simp only [h, Bool.false_eq_true, if_false]
    · simpa using hz

theorem readNumber_renderNat {n : Nat} {rest : List Char} (hn : n ≤ greatestSignificand)
    (h : EndsInteger rest) (negative : Bool) :
    readNumber negative (Decimal.renderNat n ++ rest) = .ok (ofSignificand negative n, rest) := by
  rw [readNumber_whole hn h.startsWithDigit, readAfterWhole_of_ends h]

/-- The integers that are read as integers. -/
def HasRoom (z : Int) : Prop := -(Nat.pow 2 63 : Nat) ≤ z ∧ z ≤ greatestSignificand

theorem hasRoom_long (z : Long) : HasRoom z.val := by
  obtain ⟨hleast, hgreatest, -⟩ : (IntegerType.signed 64).Contains z.val := z.property
  have hmin : (IntegerType.signed 64).least = -9223372036854775808 := rfl
  have hmax : (IntegerType.signed 64).greatest = 9223372036854775807 := rfl
  have hlimit : greatestSignificand = 18446744073709551615 := rfl
  have hpow : Nat.pow 2 63 = 9223372036854775808 := rfl
  constructor <;> omega

/-- The digits of an integer are read with its sign. -/
theorem readNumber_natAbs {z : Int} (hz : HasRoom z) {rest : List Char} (h : EndsInteger rest) :
    readNumber (decide (z < 0)) (Decimal.renderNat z.natAbs ++ rest) = .ok (.integer z, rest) := by
  obtain ⟨hleast, hgreatest⟩ := hz
  have hlimit : greatestSignificand = 18446744073709551615 := rfl
  have hpow : Nat.pow 2 63 = 9223372036854775808 := rfl
  have hnumber : ofSignificand (decide (z < 0)) z.natAbs = .integer z := by
    by_cases hneg : z < 0
    · simp only [ofSignificand, hneg, decide_true, if_true]
      rw [if_neg (by omega)]
      congr 1
      omega
    · simp only [ofSignificand, hneg, decide_false, Bool.false_eq_true, if_false]
      congr 1
      omega
  rw [readNumber_renderNat (by omega) h, hnumber]

theorem isBlank_digit {d : Char} (hd : d.isDigit) : isBlank d = false := by
  simp only [isBlank, Bool.or_eq_false_iff, beq_eq_false_iff_ne]
  exact ⟨⟨⟨Decimal.ne_of_isDigit hd rfl, Decimal.ne_of_isDigit hd rfl⟩, Decimal.ne_of_isDigit hd rfl⟩,
    Decimal.ne_of_isDigit hd rfl⟩

/-- An integer of the record is read back, if what follows does not go on with it. -/
theorem readLong_render (z : Long) {rest : List Char} (h : EndsInteger rest) :
    readLong (Decimal.render z.val ++ rest) = .ok (z, rest) := by
  have hread := readNumber_natAbs (hasRoom_long z) h
  by_cases hneg : z.val < 0
  · have hd : dropBlank ('-' :: Decimal.renderNat z.val.natAbs ++ rest) =
        '-' :: (Decimal.renderNat z.val.natAbs ++ rest) := rfl
    rw [decide_eq_true hneg] at hread
    rw [Decimal.render, if_pos hneg, readLong]
    simp only [hd, hread, Except.bind, toLong, dif_pos z.property]
  · rw [decide_eq_false hneg] at hread
    obtain ⟨d, ds, hd, hdigit, -⟩ := Decimal.exists_renderNat z.val.natAbs
    rw [Decimal.render, if_neg hneg]
    rw [hd, List.cons_append] at hread ⊢
    rw [readLong, dropBlank_cons (isBlank_digit hdigit)]
    split
    · simp_all
    · next heq =>
      simp only [List.cons.injEq] at heq
      obtain ⟨rfl, -⟩ := heq
      exact absurd hdigit (by decide)
    · next heq =>
      obtain ⟨rfl, rfl⟩ := List.cons.inj heq
      simp only [if_pos hdigit, hread, Except.bind, toLong, dif_pos z.property]

end StartupConfig.Json
