import StartupConfig.Integer

/-!
# Reading decimal digits

Rendered integers have no leading zero, and collecting their digits gives the integers back, also in front of
other text. The value of digits is `Nat.ofDigitChars`.
-/
namespace StartupConfig

/-- A run of characters of one kind ends where the first of another kind stands. -/
theorem run_append {p : Char → Bool} {s rest : List Char} (hs : ∀ c ∈ s, p c)
    (hrest : ∀ c ∈ rest.head?, p c = false) : (s ++ rest).takeWhile p = s ∧ (s ++ rest).dropWhile p = rest := by
  rw [List.takeWhile_append_of_pos hs, List.dropWhile_append_of_pos hs]
  cases rest with
  | nil => simp
  | cons c rest => simp [hrest c rfl]

namespace Decimal

/-- A digit differs from every other kind of character. -/
theorem ne_of_isDigit {c d : Char} (hc : c.isDigit) (hd : d.isDigit = false) : c ≠ d := by
  rintro rfl
  simp [hc] at hd

theorem isDigit_of_mem_renderNat {n : Nat} {c : Char} (h : c ∈ renderNat n) : c.isDigit :=
  Nat.isDigit_of_mem_toDigits (by decide) (by decide) h

theorem renderNat_ne_nil (n : Nat) : renderNat n ≠ [] := Nat.toDigits_ne_nil

/-- Only zero begins with the digit zero. -/
theorem eq_zero_of_head_renderNat {n : Nat} {cs : List Char} (h : renderNat n = '0' :: cs) : n = 0 := by
  induction n using Nat.strongRecOn generalizing cs with
  | ind n ih =>
    rw [renderNat, Nat.toDigits_eq_if (by decide)] at h
    by_cases hn : n < 10
    · rw [if_pos hn] at h
      simpa using (List.cons.inj h).1
    · rw [if_neg hn] at h
      obtain ⟨d, ds, hd⟩ := List.exists_cons_of_ne_nil (renderNat_ne_nil (n / 10))
      change renderNat (n / 10) ++ _ = _ at h
      rw [hd, List.cons_append] at h
      have := ih (n / 10) (by omega) (by rw [hd, (List.cons.inj h).1])
      omega

/-- The digits of a number begin with a digit, which is zero only for zero. -/
theorem exists_renderNat (n : Nat) :
    ∃ d ds, renderNat n = d :: ds ∧ d.isDigit ∧ (d = '0' → n = 0) := by
  obtain ⟨d, ds, h⟩ := List.exists_cons_of_ne_nil (renderNat_ne_nil n)
  refine ⟨d, ds, h, isDigit_of_mem_renderNat (n := n) (by simp [h]), ?_⟩
  rintro rfl
  exact eq_zero_of_head_renderNat h

theorem ofDigitChars_renderNat (n : Nat) : Nat.ofDigitChars 10 (renderNat n) 0 = n :=
  Nat.ofDigitChars_ten_toDigits

/-- Digits can be told from what follows them, if that begins with something else. -/
theorem renderNat_append_inj {m n : Nat} {rest rest' : List Char} (h : ∀ c ∈ rest.head?, c.isDigit = false)
    (h' : ∀ c ∈ rest'.head?, c.isDigit = false) (heq : renderNat m ++ rest = renderNat n ++ rest') :
    m = n ∧ rest = rest' := by
  have hdigits (k : Nat) : ∀ c ∈ renderNat k, c.isDigit := fun c hc => isDigit_of_mem_renderNat hc
  obtain ⟨htake, hdrop⟩ := run_append (hdigits m) h
  obtain ⟨htake', hdrop'⟩ := run_append (hdigits n) h'
  have hrender : renderNat m = renderNat n := by rw [← htake, heq, htake']
  refine ⟨?_, by rw [← hdrop, heq, hdrop']⟩
  rw [← ofDigitChars_renderNat m, hrender, ofDigitChars_renderNat]

/-- So can an integer, whose sign shows in the first character. -/
theorem render_append_inj {y z : Int} {rest rest' : List Char} (h : ∀ c ∈ rest.head?, c.isDigit = false)
    (h' : ∀ c ∈ rest'.head?, c.isDigit = false) (heq : render y ++ rest = render z ++ rest') :
    y = z ∧ rest = rest' := by
  have hminus (n : Nat) (s s' : List Char) : renderNat n ++ s ≠ '-' :: s' := by
    obtain ⟨d, ds, hd, hdigit, -⟩ := exists_renderNat n
    rw [hd, List.cons_append]
    exact fun hcons => ne_of_isDigit hdigit rfl (List.cons.inj hcons).1
  unfold render at heq
  split at heq <;> split at heq
  · obtain ⟨habs, hrest⟩ := renderNat_append_inj h h' (List.cons.inj heq).2
    exact ⟨by omega, hrest⟩
  · exact absurd heq.symm (hminus _ _ _)
  · exact absurd heq (hminus _ _ _)
  · obtain ⟨habs, hrest⟩ := renderNat_append_inj h h' heq
    exact ⟨by omega, hrest⟩

theorem render_injective {y z : Int} (h : render y = render z) : y = z := by
  have happend : render y ++ [] = render z ++ [] := congrArg (· ++ []) h
  exact (render_append_inj (by simp) (by simp) happend).1

/-- More digits make no number smaller. -/
theorem le_ofDigitChars (n : Nat) (cs : List Char) : n ≤ Nat.ofDigitChars 10 cs n := by
  induction cs generalizing n with
  | nil => simp
  | cons c cs ih =>
    rw [Nat.ofDigitChars_cons]
    exact Nat.le_trans (by omega) (ih _)

/-- Nor does a longer run of them. -/
theorem ofDigitChars_mono {ds cs : List Char} (h : ds <+: cs) :
    Nat.ofDigitChars 10 ds 0 ≤ Nat.ofDigitChars 10 cs 0 := by
  obtain ⟨rest, rfl⟩ := h
  rw [Nat.ofDigitChars_append]
  exact le_ofDigitChars _ rest

/-- A text begins with a run of digits, perhaps an empty one. -/
theorem exists_digits (text : List Char) : ∃ digits rest, text = digits ++ rest ∧ (∀ c ∈ digits, c.isDigit) ∧
    ∀ c ∈ rest.head?, c.isDigit = false := by
  refine ⟨text.takeWhile Char.isDigit, text.dropWhile Char.isDigit, List.takeWhile_append_dropWhile.symm, ?_, ?_⟩
  · intro c hc
    exact List.all_eq_true.1 List.all_takeWhile c hc
  · intro c hc
    have h := List.head?_dropWhile_not Char.isDigit text
    rw [Option.mem_def.1 hc] at h
    simpa using h

end Decimal

end StartupConfig
