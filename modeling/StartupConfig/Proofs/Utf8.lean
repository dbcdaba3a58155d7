import StartupConfig.Text.Utf8

/-!
# Reading encoded text

The bytes of a text are cut into exactly its characters, so strict reading gives the text back.
-/
namespace StartupConfig.Utf8

/-- First bytes of characters of two bytes. -/
theorem lead?_two {b : UInt8} (h : 0xC2 ≤ b.toNat) (h' : b.toNat ≤ 0xDF) :
    lead? b = some ⟨2, 0x80, 0xBF⟩ := by
  simp [lead?, UInt8.le_iff_toNat_le, h, h']

/-- First bytes of characters of three bytes. -/
theorem lead?_three {b : UInt8} (h : 0xE0 ≤ b.toNat) (h' : b.toNat ≤ 0xEF) :
    lead? b = some ⟨3, if b.toNat = 0xE0 then 0xA0 else 0x80, if b.toNat = 0xED then 0x9F else 0xBF⟩ := by
  simp only [lead?, UInt8.le_iff_toNat_le, ← UInt8.toNat_inj, UInt8.reduceToNat]
  grind

/-- First bytes of characters of four bytes. -/
theorem lead?_four {b : UInt8} (h : 0xF0 ≤ b.toNat) (h' : b.toNat ≤ 0xF4) :
    lead? b = some ⟨4, if b.toNat = 0xF0 then 0x90 else 0x80, if b.toNat = 0xF4 then 0x8F else 0xBF⟩ := by
  simp only [lead?, UInt8.le_iff_toNat_le, ← UInt8.toNat_inj, UInt8.reduceToNat]
  grind

theorem isContinuation_iff (b : UInt8) : isContinuation b ↔ 0x80 ≤ b.toNat ∧ b.toNat ≤ 0xBF := by
  simp [isContinuation, UInt8.le_iff_toNat_le]

theorem pieces_one {a : UInt8} (rest : Bytes) (ha : a.toNat < 0x80) :
    pieces (a :: rest) = .scalar (Char.ofNat a.toNat) :: pieces rest := by
  rw [pieces, if_pos (UInt8.lt_iff_toNat_lt.2 ha)]

theorem pieces_two {a b : UInt8} (rest : Bytes) (ha : 0xC2 ≤ a.toNat) (ha' : a.toNat ≤ 0xDF)
    (hb : isContinuation b) :
    pieces (a :: b :: rest) = .scalar (Char.ofNat (a.toNat % 32 * 64 + payload b)) :: pieces rest := by
  have hn : ¬a < 0x80 := by simp [UInt8.lt_iff_toNat_lt]; omega
  have hrange : 0x80 ≤ b ∧ b ≤ 0xBF := by simpa [isContinuation] using hb
  rw [pieces, if_neg hn, lead?_two ha ha']
  simp only [if_pos hrange, if_true]

theorem pieces_three {a b c : UInt8} (rest : Bytes) (ha : 0xE0 ≤ a.toNat) (ha' : a.toNat ≤ 0xEF)
    (hb : (if a.toNat = 0xE0 then 0xA0 else 0x80) ≤ b.toNat)
    (hb' : b.toNat ≤ if a.toNat = 0xED then 0x9F else 0xBF) (hc : isContinuation c) :
    pieces (a :: b :: c :: rest) =
      .scalar (Char.ofNat ((a.toNat % 16 * 64 + payload b) * 64 + payload c)) :: pieces rest := by
  have hn : ¬a < 0x80 := by simp [UInt8.lt_iff_toNat_lt]; omega
  have hrange : (if a.toNat = 0xE0 then 0xA0 else 0x80 : UInt8) ≤ b ∧
      b ≤ (if a.toNat = 0xED then 0x9F else 0xBF : UInt8) := by
    simp only [UInt8.le_iff_toNat_le, apply_ite UInt8.toNat]
    exact ⟨hb, hb'⟩
  rw [pieces, if_neg hn, lead?_three ha ha']
  simp only [if_pos hrange, if_pos hc, Nat.reduceEqDiff, if_true, if_false]

theorem pieces_four {a b c d : UInt8} (rest : Bytes) (ha : 0xF0 ≤ a.toNat) (ha' : a.toNat ≤ 0xF4)
    (hb : (if a.toNat = 0xF0 then 0x90 else 0x80) ≤ b.toNat)
    (hb' : b.toNat ≤ if a.toNat = 0xF4 then 0x8F else 0xBF) (hc : isContinuation c)
    (hd : isContinuation d) :
    pieces (a :: b :: c :: d :: rest) =
      .scalar (Char.ofNat (((a.toNat % 8 * 64 + payload b) * 64 + payload c) * 64 + payload d))
        :: pieces rest := by
  have hn : ¬a < 0x80 := by simp [UInt8.lt_iff_toNat_lt]; omega
  have hrange : (if a.toNat = 0xF0 then 0x90 else 0x80 : UInt8) ≤ b ∧
      b ≤ (if a.toNat = 0xF4 then 0x8F else 0xBF : UInt8) := by
    simp only [UInt8.le_iff_toNat_le, apply_ite UInt8.toNat]
    exact ⟨hb, hb'⟩
  rw [pieces, if_neg hn, lead?_four ha ha']
  simp only [if_pos hrange, if_pos hc, if_pos hd, Nat.reduceEqDiff, if_false]

theorem toNat_ofNat {n : Nat} (h : n < 256) : (UInt8.ofNat n).toNat = n := by
  simp [Nat.mod_eq_of_lt h]

theorem toNat_val_ofNat {n : Nat} (h : n.isValidChar) : (Char.ofNat n).val.toNat = n := by
  rw [Char.ofNat, dif_pos h]
  rfl

theorem ofNat_eq_of_toNat {c : Char} {n : Nat} (h : n = c.val.toNat) : Char.ofNat n = c :=
  h ▸ Char.ofNat_toNat c

/-- The bytes of a character in front of others are cut off as that character. -/
theorem pieces_utf8EncodeChar (c : Char) (rest : Bytes) :
    pieces (String.utf8EncodeChar c ++ rest) = .scalar c :: pieces rest := by
  have hv : c.val.toNat < 0xD800 ∨ 0xDFFF < c.val.toNat ∧ c.val.toNat < 0x110000 := c.valid
  unfold String.utf8EncodeChar
  have hcont (n : Nat) : isContinuation (UInt8.ofNat (n % 64 + 128)) := by
    rw [isContinuation_iff, toNat_ofNat (by omega)]
    omega
  by_cases h₁ : c.val.toNat ≤ 0x7f
  · simp only [if_pos h₁, List.cons_append, List.nil_append]
    rw [pieces_one _ (by rw [toNat_ofNat] <;> omega), toNat_ofNat (by omega),
      ofNat_eq_of_toNat rfl]
  simp only [if_neg h₁]
  by_cases h₂ : c.val.toNat ≤ 0x7ff
  · simp only [if_pos h₂, List.cons_append, List.nil_append]
    rw [pieces_two _ (by rw [toNat_ofNat] <;> omega) (by rw [toNat_ofNat] <;> omega) (hcont _),
      payload, toNat_ofNat (by omega), toNat_ofNat (by omega), ofNat_eq_of_toNat (c := c) (by omega)]
  simp only [if_neg h₂]
  by_cases h₃ : c.val.toNat ≤ 0xffff
  · simp only [if_pos h₃, List.cons_append, List.nil_append]
    rw [pieces_three _ (by rw [toNat_ofNat] <;> omega) (by rw [toNat_ofNat] <;> omega)
        (by rw [toNat_ofNat, toNat_ofNat] <;> (try split) <;> omega)
        (by rw [toNat_ofNat, toNat_ofNat] <;> (try split) <;> omega) (hcont _),
      payload, payload, toNat_ofNat (by omega), toNat_ofNat (by omega), toNat_ofNat (by omega),
      ofNat_eq_of_toNat (c := c) (by omega)]
  · simp only [if_neg h₃, List.cons_append, List.nil_append]
    rw [pieces_four _ (by rw [toNat_ofNat] <;> omega) (by rw [toNat_ofNat] <;> omega)
        (by rw [toNat_ofNat, toNat_ofNat] <;> (try split) <;> omega)
        (by rw [toNat_ofNat, toNat_ofNat] <;> (try split) <;> omega) (hcont _) (hcont _),
      payload, payload, payload, toNat_ofNat (by omega), toNat_ofNat (by omega),
      toNat_ofNat (by omega), toNat_ofNat (by omega), ofNat_eq_of_toNat (c := c) (by omega)]

theorem pieces_encode (cs : List Char) : pieces (encode cs) = cs.map .scalar := by
  induction cs with
  | nil => rfl
  | cons c cs ih => rw [encode, List.flatMap_cons, pieces_utf8EncodeChar, ← encode, ih, List.map_cons]

/-- Strict reading gives back the text that was encoded. -/
theorem strict?_encode (cs : List Char) : strict? (encode cs) = some (String.ofList cs) := by
  have h : (cs.map Piece.scalar).mapM Piece.scalar? = some cs := by
    induction cs with
    | nil => rfl
    | cons c cs ih => simp [ih, Piece.scalar?]
  simp [strict?, pieces_encode, h]

theorem encode_injective {cs cs' : List Char} (h : encode cs = encode cs') : cs = cs' := by
  have hstrict := strict?_encode cs
  rw [h, strict?_encode] at hstrict
  exact (String.ofList_inj.1 (Option.some.inj hstrict)).symm

end StartupConfig.Utf8
