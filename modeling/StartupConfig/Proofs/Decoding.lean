import Mathlib.Data.List.Basic
import StartupConfig.Proofs.Utf8

/-!
# Reading any bytes as text

A first byte tells how long its character is and what may be its second byte. So a string of bytes can be cut in one way
only into characters and malformed runs, each of which is the longest start of some character or else one byte; this is
how `pieces` cuts it (`cuts_iff`). That no run is too short is seen from the byte behind it, with which no character goes
on.
-/
namespace StartupConfig.Utf8

/-- The beginning of the bytes of some character, but not all of them. -/
def IsStart (run : Bytes) : Prop :=
  run ≠ [] ∧ ∃ c, run <+: String.utf8EncodeChar c ∧ run.length < (String.utf8EncodeChar c).length

/-- Where no character stands, a malformed run is the longest start of one that stands there, or else one byte. -/
structure IsMalformed (run rest : Bytes) : Prop where
  isNoCharacter : ∀ c, ¬String.utf8EncodeChar c <+: run ++ rest
  isStart : run.length = 1 ∨ IsStart run
  longest : ∀ start, IsStart start → start <+: run ++ rest → start.length ≤ run.length

/-- A string of bytes is a row of characters and malformed runs. -/
inductive Cuts : Bytes → List Piece → Prop
  | nil : Cuts [] []
  | scalar {rest : Bytes} {ps : List Piece} (c : Char) : Cuts rest ps →
      Cuts (String.utf8EncodeChar c ++ rest) (.scalar c :: ps)
  | malformed {run rest : Bytes} {ps : List Piece} : IsMalformed run rest → Cuts rest ps →
      Cuts (run ++ rest) (.malformed run :: ps)

/-- Bytes behind a first one, up to the end of its character at most: the second has a range of its own. -/
structure Lead.Admits (l : Lead) (tail : Bytes) : Prop where
  length_lt : tail.length < l.length
  head : ∀ b ∈ tail.head?, l.low ≤ b ∧ b ≤ l.high
  continuations : ∀ b ∈ tail.tail, isContinuation b

/-! ## Characters -/

theorem lead?_cases {a : UInt8} {l : Lead} (h : lead? a = some l) :
    (0xC2 ≤ a.toNat ∧ a.toNat ≤ 0xDF ∧ l = ⟨2, 0x80, 0xBF⟩) ∨
    (0xE0 ≤ a.toNat ∧ a.toNat ≤ 0xEF ∧
      l = ⟨3, if a.toNat = 0xE0 then 0xA0 else 0x80, if a.toNat = 0xED then 0x9F else 0xBF⟩) ∨
    (0xF0 ≤ a.toNat ∧ a.toNat ≤ 0xF4 ∧
      l = ⟨4, if a.toNat = 0xF0 then 0x90 else 0x80, if a.toNat = 0xF4 then 0x8F else 0xBF⟩) := by
  have hrange : 0xC2 ≤ a.toNat ∧ a.toNat ≤ 0xF4 := by
    simp only [lead?, UInt8.le_iff_toNat_le, ← UInt8.toNat_inj, UInt8.reduceToNat] at h
    grind
  by_cases htwo : a.toNat ≤ 0xDF
  · rw [lead?_two hrange.1 htwo] at h
    exact .inl ⟨hrange.1, htwo, (Option.some.inj h).symm⟩
  by_cases hthree : a.toNat ≤ 0xEF
  · rw [lead?_three (by omega) hthree] at h
    exact .inr (.inl ⟨by omega, hthree, (Option.some.inj h).symm⟩)
  · rw [lead?_four (by omega) hrange.2] at h
    exact .inr (.inr ⟨by omega, hrange.2, (Option.some.inj h).symm⟩)

theorem ofNat_eq {n : Nat} {a : UInt8} (h : n = a.toNat) : UInt8.ofNat n = a := by
  rw [h, UInt8.ofNat_toNat]

theorem utf8EncodeChar_one {a : UInt8} (ha : a.toNat < 0x80) : String.utf8EncodeChar (Char.ofNat a.toNat) = [a] := by
  have hv : (Char.ofNat a.toNat).val.toNat = a.toNat := toNat_val_ofNat (.inl (by omega))
  simp only [String.utf8EncodeChar, hv]
  rw [if_pos (by omega), UInt8.ofNat_toNat]

theorem utf8EncodeChar_two {a b : UInt8} {l : Lead} (hlead : lead? a = some l) (hl : l.length = 2)
    (hb : l.low ≤ b ∧ b ≤ l.high) :
    String.utf8EncodeChar (Char.ofNat (a.toNat % 32 * 64 + payload b)) = [a, b] := by
  rcases lead?_cases hlead with ⟨ha, ha', rfl⟩ | ⟨-, -, rfl⟩ | ⟨-, -, rfl⟩
  · simp only [UInt8.le_iff_toNat_le, UInt8.reduceToNat] at hb
    have hv : (Char.ofNat (a.toNat % 32 * 64 + payload b)).val.toNat = a.toNat % 32 * 64 + payload b :=
      toNat_val_ofNat (.inl (by rw [payload]; omega))
    simp only [String.utf8EncodeChar, hv]
    rw [payload, if_neg (by omega), if_pos (by omega), ofNat_eq (a := a) (by omega), ofNat_eq (a := b) (by omega)]
  · simp at hl
  · simp at hl

theorem utf8EncodeChar_three {a b c : UInt8} {l : Lead} (hlead : lead? a = some l) (hl : l.length = 3)
    (hb : l.low ≤ b ∧ b ≤ l.high) (hc : isContinuation c) :
    String.utf8EncodeChar (Char.ofNat ((a.toNat % 16 * 64 + payload b) * 64 + payload c)) = [a, b, c] := by
  rcases lead?_cases hlead with ⟨-, -, rfl⟩ | ⟨ha, ha', rfl⟩ | ⟨-, -, rfl⟩
  · simp at hl
  · rw [isContinuation_iff] at hc
    simp only [UInt8.le_iff_toNat_le, apply_ite UInt8.toNat, UInt8.reduceToNat] at hb
    have hlow : 0x80 ≤ b.toNat ∧ (a.toNat = 0xE0 → 0xA0 ≤ b.toNat) := by
      obtain ⟨h, -⟩ := hb
      split at h <;> omega
    have hhigh : b.toNat ≤ 0xBF ∧ (a.toNat = 0xED → b.toNat ≤ 0x9F) := by
      obtain ⟨-, h⟩ := hb
      split at h <;> omega
    have hv : (Char.ofNat ((a.toNat % 16 * 64 + payload b) * 64 + payload c)).val.toNat
        = (a.toNat % 16 * 64 + payload b) * 64 + payload c :=
      toNat_val_ofNat (by simp only [Nat.isValidChar, payload]; omega)
    simp only [String.utf8EncodeChar, hv]
    rw [payload, payload, if_neg (by omega), if_neg (by omega), if_pos (by omega), ofNat_eq (a := a) (by omega),
      ofNat_eq (a := b) (by omega), ofNat_eq (a := c) (by omega)]
  · simp at hl

theorem utf8EncodeChar_four {a b c d : UInt8} {l : Lead} (hlead : lead? a = some l) (hl : l.length = 4)
    (hb : l.low ≤ b ∧ b ≤ l.high) (hc : isContinuation c) (hd : isContinuation d) :
    String.utf8EncodeChar (Char.ofNat (((a.toNat % 8 * 64 + payload b) * 64 + payload c) * 64 + payload d))
      = [a, b, c, d] := by
  rcases lead?_cases hlead with ⟨-, -, rfl⟩ | ⟨-, -, rfl⟩ | ⟨ha, ha', rfl⟩
  · simp at hl
  · simp at hl
  · rw [isContinuation_iff] at hc hd
    simp only [UInt8.le_iff_toNat_le, apply_ite UInt8.toNat, UInt8.reduceToNat] at hb
    have hlow : 0x80 ≤ b.toNat ∧ (a.toNat = 0xF0 → 0x90 ≤ b.toNat) := by
      obtain ⟨h, -⟩ := hb
      split at h <;> omega
    have hhigh : b.toNat ≤ 0xBF ∧ (a.toNat = 0xF4 → b.toNat ≤ 0x8F) := by
      obtain ⟨-, h⟩ := hb
      split at h <;> omega
    have hv : (Char.ofNat (((a.toNat % 8 * 64 + payload b) * 64 + payload c) * 64 + payload d)).val.toNat
        = ((a.toNat % 8 * 64 + payload b) * 64 + payload c) * 64 + payload d :=
      toNat_val_ofNat (by simp only [Nat.isValidChar, payload]; omega)
    simp only [String.utf8EncodeChar, hv]
    rw [payload, payload, payload, if_neg (by omega), if_neg (by omega), if_neg (by omega), ofNat_eq (a := a) (by omega),
      ofNat_eq (a := b) (by omega), ofNat_eq (a := c) (by omega), ofNat_eq (a := d) (by omega)]

theorem Lead.length_cases {a : UInt8} {l : Lead} (h : lead? a = some l) :
    l.length = 2 ∨ l.length = 3 ∨ l.length = 4 := by
  rcases lead?_cases h with ⟨-, -, rfl⟩ | ⟨-, -, rfl⟩ | ⟨-, -, rfl⟩ <;> simp

/-! ## Behind a first byte -/

theorem Lead.one_lt_length {a : UInt8} {l : Lead} (h : lead? a = some l) : 1 < l.length := by
  rcases length_cases h with hl | hl | hl <;> omega

theorem Lead.admits_nil {a : UInt8} {l : Lead} (h : lead? a = some l) : l.Admits [] := by
  exact ⟨Nat.lt_of_succ_lt (one_lt_length h), by simp, by simp⟩

theorem Lead.admits_singleton {l : Lead} {b : UInt8} (hlength : 1 < l.length) (hb : l.low ≤ b ∧ b ≤ l.high) :
    l.Admits [b] :=
  ⟨hlength, by simpa using hb, by simp⟩

theorem Lead.Admits.append {l : Lead} {tail : Bytes} (h : l.Admits tail) (hne : tail ≠ []) {b : UInt8}
    (hlength : tail.length + 1 < l.length) (hb : isContinuation b) : l.Admits (tail ++ [b]) := by
  obtain ⟨x, xs, rfl⟩ := List.exists_cons_of_ne_nil hne
  refine ⟨by simpa using hlength, h.head, ?_⟩
  intro c hc
  rcases List.mem_append.1 hc with hc | hc
  · exact h.continuations c hc
  · obtain rfl := List.mem_singleton.1 hc
    exact hb

theorem Lead.Admits.of_prefix {l : Lead} {tail t : Bytes} (h : l.Admits tail) (ht : t <+: tail) : l.Admits t := by
  obtain ⟨more, rfl⟩ := ht
  refine ⟨?_, ?_, ?_⟩
  · have := h.length_lt
    rw [List.length_append] at this
    omega
  · intro b hb
    apply h.head
    rw [List.head?_append, Option.mem_def.1 hb]
    rfl
  · intro b hb
    apply h.continuations
    cases t with
    | nil => simp at hb
    | cons x xs => exact List.mem_append_left more hb

/-- The bytes of a character: one below 128, or a first one with as many behind it as it announces. -/
theorem utf8EncodeChar_cases (c : Char) : (∃ a, String.utf8EncodeChar c = [a] ∧ a.toNat < 0x80) ∨
    ∃ a l tail, String.utf8EncodeChar c = a :: tail ∧ lead? a = some l ∧ l.Admits tail ∧
      tail.length + 1 = l.length := by
  have hv : c.val.toNat < 0xD800 ∨ 0xDFFF < c.val.toNat ∧ c.val.toNat < 0x110000 := c.valid
  have hcont (n : Nat) : isContinuation (UInt8.ofNat (n % 64 + 128)) := by
    rw [isContinuation_iff, toNat_ofNat (by omega)]
    omega
  unfold String.utf8EncodeChar
  by_cases h₁ : c.val.toNat ≤ 0x7f
  · simp only [if_pos h₁]
    exact .inl ⟨_, rfl, by rw [toNat_ofNat (by omega)]; omega⟩
  simp only [if_neg h₁]
  right
  by_cases h₂ : c.val.toNat ≤ 0x7ff
  · simp only [if_pos h₂]
    refine ⟨_, _, _, rfl, lead?_two ?_ ?_, ⟨?_, ?_, ?_⟩, rfl⟩
    · rw [toNat_ofNat] <;> omega
    · rw [toNat_ofNat] <;> omega
    · simp
    · simpa [isContinuation] using hcont _
    · simp
  simp only [if_neg h₂]
  by_cases h₃ : c.val.toNat ≤ 0xffff
  · simp only [if_pos h₃]
    refine ⟨_, _, _, rfl, lead?_three ?_ ?_, ⟨?_, ?_, ?_⟩, rfl⟩
    · rw [toNat_ofNat] <;> omega
    · rw [toNat_ofNat] <;> omega
    · simp
    · intro b hb
      obtain rfl := Option.some.inj hb
      simp only [UInt8.le_iff_toNat_le, apply_ite UInt8.toNat, UInt8.reduceToNat]
      rw [toNat_ofNat (by omega), toNat_ofNat (by omega)]
      constructor <;> split <;> omega
    · intro b hb
      obtain rfl := List.mem_singleton.1 hb
      exact hcont _
  · simp only [if_neg h₃]
    refine ⟨_, _, _, rfl, lead?_four ?_ ?_, ⟨?_, ?_, ?_⟩, rfl⟩
    · rw [toNat_ofNat] <;> omega
    · rw [toNat_ofNat] <;> omega
    · simp
    · intro b hb
      obtain rfl := Option.some.inj hb
      simp only [UInt8.le_iff_toNat_le, apply_ite UInt8.toNat, UInt8.reduceToNat]
      rw [toNat_ofNat (by omega), toNat_ofNat (by omega)]
      constructor <;> split <;> omega
    · intro b hb
      rcases List.mem_cons.1 hb with rfl | hb
      · exact hcont _
      · obtain rfl := List.mem_singleton.1 hb
        exact hcont _

/-- So a character whose bytes begin with a byte from 128 on goes on as that byte says. -/
theorem tail_of_cons_prefix {c : Char} {a : UInt8} {rest : Bytes} (ha : ¬a < 0x80)
    (h : String.utf8EncodeChar c <+: a :: rest) :
    ∃ l tail, String.utf8EncodeChar c = a :: tail ∧ tail <+: rest ∧ lead? a = some l ∧ l.Admits tail ∧
      tail.length + 1 = l.length := by
  rcases utf8EncodeChar_cases c with ⟨a', hc, ha'⟩ | ⟨a', l, tail, hc, hlead, htail, hlength⟩
  · rw [hc] at h
    obtain ⟨rfl, -⟩ := List.cons_prefix_cons.1 h
    exact absurd (UInt8.lt_iff_toNat_lt.2 ha') ha
  · rw [hc] at h
    obtain ⟨rfl, hbegins⟩ := List.cons_prefix_cons.1 h
    exact ⟨l, tail, hc, hbegins, hlead, htail, hlength⟩

section

variable {a b c : UInt8} {l : Lead} (hlead : lead? a = some l) (hb : l.low ≤ b ∧ b ≤ l.high) (hl : ¬l.length = 2)

include hlead hb hl

theorem Lead.admits_one : l.Admits [b] ∧ 2 < l.length := by
  refine ⟨admits_singleton (one_lt_length hlead) hb, ?_⟩
  rcases length_cases hlead with h | h | h <;> omega

theorem Lead.admits_two (hc : isContinuation c) (hl' : ¬l.length = 3) :
    l.Admits [b, c] ∧ 3 < l.length ∧ l.length = 4 := by
  obtain ⟨htail, hlength⟩ := admits_one hlead hb hl
  refine ⟨htail.append (List.cons_ne_nil b []) hlength hc, ?_⟩
  rcases length_cases hlead with h | h | h <;> omega

end

/-- A first byte with as many behind it as it announces is a character. -/
theorem Lead.Admits.exists_character {a : UInt8} {l : Lead} (hlead : lead? a = some l) {tail : Bytes} (h : l.Admits tail)
    (hfull : tail.length + 1 = l.length) : ∃ c, String.utf8EncodeChar c = a :: tail := by
  rcases length_cases hlead with hl | hl | hl
  · obtain ⟨b, rfl⟩ := List.length_eq_one_iff.1 (Nat.succ.inj (hfull.trans hl))
    exact ⟨_, utf8EncodeChar_two hlead hl (h.head b rfl)⟩
  · obtain ⟨b, c, rfl⟩ := List.length_eq_two.1 (Nat.succ.inj (hfull.trans hl))
    exact ⟨_, utf8EncodeChar_three hlead hl (h.head b rfl) (h.continuations c (by simp))⟩
  · obtain ⟨b, c, d, rfl⟩ := List.length_eq_three.1 (Nat.succ.inj (hfull.trans hl))
    exact ⟨_, utf8EncodeChar_four hlead hl (h.head b rfl) (h.continuations c (by simp)) (h.continuations d (by simp))⟩

theorem Lead.Admits.exists_next {a : UInt8} {l : Lead} (hlead : lead? a = some l) {tail : Bytes} (h : l.Admits tail)
    (hlength : tail.length + 1 < l.length) : ∃ b, l.Admits (tail ++ [b]) := by
  by_cases hnil : tail = []
  · subst hnil
    have hrange : l.low ≤ l.high := by
      rw [UInt8.le_iff_toNat_le]
      rcases lead?_cases hlead with ⟨-, -, rfl⟩ | ⟨-, -, rfl⟩ | ⟨-, -, rfl⟩
      · decide
      · simp only [apply_ite UInt8.toNat, UInt8.reduceToNat]
        split <;> split <;> omega
      · simp only [apply_ite UInt8.toNat, UInt8.reduceToNat]
        split <;> split <;> omega
    exact ⟨l.low, admits_singleton hlength ⟨UInt8.le_refl _, hrange⟩⟩
  · exact ⟨0x80, h.append hnil hlength rfl⟩

/-- Whatever goes on from a first byte is part of a character. -/
theorem Lead.Admits.exists_complete {a : UInt8} {l : Lead} (hlead : lead? a = some l) {tail : Bytes} (h : l.Admits tail) :
    ∃ c more, String.utf8EncodeChar c = a :: (tail ++ more) := by
  by_cases hfull : tail.length + 1 = l.length
  · obtain ⟨c, hc⟩ := h.exists_character hlead hfull
    exact ⟨c, [], by rw [hc, List.append_nil]⟩
  · have hlength : tail.length + 1 < l.length := by
      have := h.length_lt
      omega
    obtain ⟨b, hb⟩ := h.exists_next hlead hlength
    obtain ⟨c, more, hc⟩ := hb.exists_complete hlead
    exact ⟨c, b :: more, by rw [hc, List.append_assoc]; rfl⟩
termination_by l.length - tail.length
decreasing_by
  rw [List.length_append, List.length_singleton]
  omega

/-- The starts of characters are the first bytes with too few bytes behind them. -/
theorem isStart_iff (a : UInt8) (tail : Bytes) :
    IsStart (a :: tail) ↔ ∃ l, lead? a = some l ∧ l.Admits tail ∧ tail.length + 1 < l.length := by
  constructor
  · rintro ⟨-, c, hbegins, hlength⟩
    rcases utf8EncodeChar_cases c with ⟨a', hc, -⟩ | ⟨a', l, tail', hc, hlead, htail, hfull⟩
    · simp [hc] at hlength
    · rw [hc] at hbegins hlength
      obtain ⟨rfl, htails⟩ := List.cons_prefix_cons.1 hbegins
      simp only [List.length_cons] at hlength
      exact ⟨l, hlead, htail.of_prefix htails, by omega⟩
  · rintro ⟨l, hlead, htail, hlength⟩
    obtain ⟨b, hb⟩ := htail.exists_next hlead hlength
    obtain ⟨c, more, hc⟩ := hb.exists_complete hlead
    rw [List.append_assoc] at hc
    refine ⟨List.cons_ne_nil a tail, c, ?_, ?_⟩
    · rw [hc]
      exact List.cons_prefix_cons.2 ⟨rfl, List.prefix_append _ _⟩
    · rw [hc]
      simp

/-! ## Malformed runs -/

/-- A first byte and what goes on from it are a malformed run if the next byte does not go on. -/
theorem isMalformed_of_next {a : UInt8} {l : Lead} {tail rest : Bytes} (hlead : lead? a = some l) (htail : l.Admits tail)
    (hlength : tail.length + 1 < l.length) (hnext : ∀ b ∈ rest.head?, ¬l.Admits (tail ++ [b])) :
    IsMalformed (a :: tail) rest := by
  have ha : ¬a < 0x80 := by
    rw [UInt8.lt_iff_toNat_lt, Nat.not_lt]
    rcases lead?_cases hlead with ⟨h, -⟩ | ⟨h, -⟩ | ⟨h, -⟩ <;> exact Nat.le_trans (by decide) h
  have hlongest (t : Bytes) (ht : l.Admits t) (hbegins : t <+: tail ++ rest) : t.length ≤ tail.length := by
    refine Nat.not_lt.1 fun hlong => ?_
    obtain ⟨more, rfl⟩ := List.prefix_of_prefix_length_le (List.prefix_append tail rest) hbegins (by omega)
    cases more with
    | nil => simp at hlong
    | cons b more =>
      obtain ⟨rest', rfl⟩ := (List.prefix_append_right_inj tail).1 hbegins
      exact hnext b rfl (ht.of_prefix ((List.prefix_append_right_inj tail).2 ⟨more, rfl⟩))
  refine ⟨?_, .inr ((isStart_iff a tail).2 ⟨l, hlead, htail, hlength⟩), ?_⟩
  · intro c hc
    obtain ⟨l', t, -, hbegins, hlead', ht, hfull⟩ := tail_of_cons_prefix ha hc
    obtain rfl := Option.some.inj (hlead.symm.trans hlead')
    have := hlongest t ht hbegins
    omega
  · intro start hstart hbegins
    cases start with
    | nil => exact Nat.zero_le _
    | cons b t =>
      obtain ⟨rfl, htails⟩ := List.cons_prefix_cons.1 hbegins
      obtain ⟨l', hlead', ht, -⟩ := (isStart_iff b t).1 hstart
      obtain rfl := Option.some.inj (hlead.symm.trans hlead')
      exact Nat.succ_le_succ (hlongest t ht htails)

/-- A byte that begins no character is a malformed run of its own. -/
theorem isMalformed_singleton {a : UInt8} (ha : ¬a < 0x80) (hlead : lead? a = none) (rest : Bytes) :
    IsMalformed [a] rest := by
  refine ⟨?_, .inl rfl, ?_⟩
  · intro c hc
    obtain ⟨l, -, -, -, hlead', -⟩ := tail_of_cons_prefix ha hc
    simp [hlead] at hlead'
  · intro start hstart hbegins
    cases start with
    | nil => exact Nat.zero_le _
    | cons b t =>
      obtain ⟨rfl, -⟩ := List.cons_prefix_cons.1 hbegins
      obtain ⟨l, hlead', -⟩ := (isStart_iff b t).1 hstart
      simp [hlead] at hlead'

theorem IsMalformed.ne_nil {run rest : Bytes} (h : IsMalformed run rest) : run ≠ [] := by
  rcases h.isStart with hone | hstart
  · exact List.ne_nil_of_length_pos (by omega)
  · exact hstart.1

/-- Of two malformed runs at one place the first is no longer than the second. -/
theorem IsMalformed.length_le {run rest run' rest' : Bytes} (h : IsMalformed run rest) (h' : IsMalformed run' rest')
    (heq : run ++ rest = run' ++ rest') : run.length ≤ run'.length := by
  rcases h.isStart with hone | hstart
  · have := List.length_pos_iff.2 h'.ne_nil
    omega
  · exact h'.longest run hstart (heq ▸ List.prefix_append run rest)

/-! ## Cutting -/

/-- There is one way to cut a string of bytes at most. -/
theorem Cuts.unique {bytes : Bytes} {ps ps' : List Piece} (h : Cuts bytes ps) (h' : Cuts bytes ps') : ps = ps' := by
  induction h generalizing ps' with
  | nil =>
    generalize hbytes : ([] : Bytes) = bytes at h'
    cases h' with
    | nil => rfl
    | scalar c _ => simp at hbytes
    | malformed hrun _ => simp [hrun.ne_nil] at hbytes
  | @scalar rest ps c _ ih =>
    generalize hbytes : String.utf8EncodeChar c ++ rest = bytes at h'
    cases h' with
    | nil => simp at hbytes
    | @scalar rest' ps' c' hps' =>
      have hpieces := congrArg pieces hbytes
      rw [pieces_utf8EncodeChar, pieces_utf8EncodeChar, List.cons.injEq, Piece.scalar.injEq] at hpieces
      obtain ⟨rfl, -⟩ := hpieces
      rw [List.append_cancel_left_eq] at hbytes
      rw [ih (hbytes ▸ hps')]
    | malformed hrun _ => exact absurd (hbytes ▸ List.prefix_append _ rest) (hrun.isNoCharacter c)
  | @malformed run rest ps hrun _ ih =>
    generalize hbytes : run ++ rest = bytes at h'
    cases h' with
    | nil => simp [hrun.ne_nil] at hbytes
    | scalar c' _ => exact absurd (hbytes ▸ List.prefix_append _ _) (hrun.isNoCharacter c')
    | @malformed run' rest' ps' hrun' hps' =>
      have hlength := Nat.le_antisymm (hrun.length_le hrun' hbytes) (hrun'.length_le hrun hbytes.symm)
      obtain ⟨rfl, rfl⟩ := List.append_inj hbytes hlength
      rw [ih hps']

theorem Cuts.scalar_of_eq {rest run : Bytes} {ps : List Piece} (h : Cuts rest ps) {c : Char}
    (hc : String.utf8EncodeChar c = run) : Cuts (run ++ rest) (.scalar c :: ps) :=
  hc ▸ h.scalar c

/-- The pieces of a string of bytes are such a cut. -/
theorem cuts_pieces (bytes : Bytes) : Cuts bytes (pieces bytes) := by
  fun_induction pieces bytes with
  | case1 => exact .nil
  | case2 a rest ha ih => exact ih.scalar_of_eq (utf8EncodeChar_one (UInt8.lt_iff_toNat_lt.1 ha))
  | case3 a rest ha hlead ih => exact .malformed (isMalformed_singleton ha hlead rest) ih
  | case4 a ha l hlead =>
    exact .malformed (isMalformed_of_next hlead (Lead.admits_nil hlead) (Lead.one_lt_length hlead) (by simp)) .nil
  | case5 a ha l hlead b rest hb hl ih => exact ih.scalar_of_eq (utf8EncodeChar_two hlead hl hb)
  | case6 a ha l hlead b hb hl =>
    obtain ⟨htail, hlength⟩ := Lead.admits_one hlead hb hl
    exact .malformed (isMalformed_of_next hlead htail hlength (by simp)) .nil
  | case7 a ha l hlead b hb hl' c rest hc hl ih => exact ih.scalar_of_eq (utf8EncodeChar_three hlead hl hb hc)
  | case8 a ha l hlead b hb hl c hc hl' =>
    obtain ⟨htail, hlength, -⟩ := Lead.admits_two hlead hb hl hc hl'
    exact .malformed (isMalformed_of_next hlead htail hlength (by simp)) .nil
  | case9 a ha l hlead b hb hl c hc hl' d rest hd ih =>
    obtain ⟨-, -, hfour⟩ := Lead.admits_two hlead hb hl hc hl'
    exact ih.scalar_of_eq (utf8EncodeChar_four hlead hfour hb hc hd)
  | case10 a ha l hlead b hb hl c hc hl' d rest hd ih =>
    obtain ⟨htail, hlength, -⟩ := Lead.admits_two hlead hb hl hc hl'
    refine .malformed (isMalformed_of_next hlead htail hlength ?_) ih
    intro x hx h
    obtain rfl := Option.some.inj hx
    exact hd (h.continuations _ (by simp))
  | case11 a ha l hlead b hb hl c rest hc ih =>
    obtain ⟨htail, hlength⟩ := Lead.admits_one hlead hb hl
    refine .malformed (isMalformed_of_next hlead htail hlength ?_) ih
    intro x hx h
    obtain rfl := Option.some.inj hx
    exact hc (h.continuations _ (by simp))
  | case12 a ha l hlead b rest hb ih =>
    refine .malformed (isMalformed_of_next hlead (Lead.admits_nil hlead) (Lead.one_lt_length hlead) ?_) ih
    intro x hx h
    obtain rfl := Option.some.inj hx
    exact hb (h.head _ rfl)

theorem cuts_iff {bytes : Bytes} {ps : List Piece} : Cuts bytes ps ↔ pieces bytes = ps := by
  constructor
  · exact fun h => (cuts_pieces bytes).unique h
  · rintro rfl
    exact cuts_pieces bytes

/-! ## Texts -/

/-- The bytes of a piece. -/
def Piece.bytes : Piece → Bytes
  | .scalar c => String.utf8EncodeChar c
  | .malformed run => run

/-- Nothing is lost where bytes are cut. -/
theorem Cuts.flatMap_bytes {bytes : Bytes} {ps : List Piece} (h : Cuts bytes ps) : ps.flatMap Piece.bytes = bytes := by
  induction h with
  | nil => rfl
  | scalar c _ ih => rw [List.flatMap_cons, ih, Piece.bytes]
  | malformed _ _ ih => rw [List.flatMap_cons, ih, Piece.bytes]

/-- Pieces are those of a text, unless there is a malformed run among them. -/
theorem exists_text_or_malformed (ps : List Piece) :
    (∃ text : List Char, ps = text.map .scalar) ∨ ∃ run, .malformed run ∈ ps := by
  induction ps with
  | nil => exact .inl ⟨[], rfl⟩
  | cons p ps ih =>
    cases p with
    | malformed run => exact .inr ⟨run, List.mem_cons_self⟩
    | scalar c =>
      rcases ih with ⟨text, rfl⟩ | ⟨run, hrun⟩
      · exact .inl ⟨c :: text, rfl⟩
      · exact .inr ⟨run, List.mem_cons_of_mem _ hrun⟩

/-- The bytes of a text, and no others, are cut into its characters. -/
theorem pieces_eq_map_iff {bytes : Bytes} {text : List Char} : pieces bytes = text.map .scalar ↔ bytes = encode text := by
  constructor
  · intro h
    have hbytes := (cuts_pieces bytes).flatMap_bytes
    rw [h, List.flatMap_map] at hbytes
    exact hbytes.symm
  · rintro rfl
    exact pieces_encode text

theorem lossy_encode (text : List Char) : lossy (encode text) = String.ofList text := by
  rw [lossy, pieces_encode, List.map_map]
  exact congrArg String.ofList (List.map_id text)

/-- Where bytes are not those of a text, a replacement character shows it. -/
theorem replacement_mem_lossy {bytes : Bytes} (h : ∀ text, bytes ≠ encode text) : '\uFFFD' ∈ (lossy bytes).toList := by
  rcases exists_text_or_malformed (pieces bytes) with ⟨text, htext⟩ | ⟨run, hrun⟩
  · exact absurd (pieces_eq_map_iff.1 htext) (h text)
  · rw [lossy, String.toList_ofList]
    exact List.mem_map.2 ⟨.malformed run, hrun, rfl⟩

/-! ## Bytes below 128 -/

/-- A byte below 128 is not part of a longer character. -/
theorem utf8EncodeChar_eq_of_mem {c : Char} {b : UInt8} (hb : b.toNat < 0x80) (h : b ∈ String.utf8EncodeChar c) :
    String.utf8EncodeChar c = [b] := by
  rcases utf8EncodeChar_cases c with ⟨a, hc, -⟩ | ⟨a, l, tail, hc, hlead, htail, -⟩
  · rw [hc] at h ⊢
    rw [List.mem_singleton.1 h]
  · have hfirst : 0x80 ≤ a.toNat ∧ 0x80 ≤ l.low.toNat := by
      rcases lead?_cases hlead with ⟨ha, -, rfl⟩ | ⟨ha, -, rfl⟩ | ⟨ha, -, rfl⟩
      · exact ⟨by omega, by decide⟩
      · exact ⟨by omega, by dsimp only; split <;> decide⟩
      · exact ⟨by omega, by dsimp only; split <;> decide⟩
    have hbehind : ∀ x ∈ tail, 0x80 ≤ x.toNat := by
      intro x hx
      cases tail with
      | nil => cases hx
      | cons y ys =>
        rcases List.mem_cons.1 hx with rfl | hx
        · exact Nat.le_trans hfirst.2 (UInt8.le_iff_toNat_le.1 (htail.head x rfl).1)
        · exact ((isContinuation_iff x).1 (htail.continuations x hx)).1
    rw [hc] at h
    rcases List.mem_cons.1 h with rfl | h
    · omega
    · have := hbehind b h
      omega

/-- Nor is it part of a malformed run, as it is a character on its own. -/
theorem IsMalformed.not_mem {run rest : Bytes} (h : IsMalformed run rest) {b : UInt8} (hb : b.toNat < 0x80) :
    b ∉ run := by
  intro hmem
  rcases h.isStart with hone | ⟨-, c, hbegins, hlength⟩
  · obtain ⟨a, rfl⟩ := List.length_eq_one_iff.1 hone
    obtain rfl := List.mem_singleton.1 hmem
    apply h.isNoCharacter (Char.ofNat b.toNat)
    rw [utf8EncodeChar_one hb]
    exact List.prefix_append _ _
  · have hrun : 0 < run.length := List.length_pos_of_mem hmem
    rw [utf8EncodeChar_eq_of_mem hb (hbegins.subset hmem), List.length_singleton] at hlength
    omega

theorem Cuts.count_replaced {bytes : Bytes} {ps : List Piece} (h : Cuts bytes ps) {b : UInt8} (hb : b.toNat < 0x80) :
    (ps.map Piece.replaced).count (Char.ofNat b.toNat) = bytes.count b := by
  induction h with
  | nil => rfl
  | scalar c _ ih =>
    have hcharacter : [c].count (Char.ofNat b.toNat) = (String.utf8EncodeChar c).count b := by
      by_cases hc : c = Char.ofNat b.toNat
      · rw [hc, utf8EncodeChar_one hb]
        simp
      · have hnot : b ∉ String.utf8EncodeChar c := by
          intro hmem
          have hsame : encode [c] = encode [Char.ofNat b.toNat] := by
            simp [encode, utf8EncodeChar_eq_of_mem hb hmem, utf8EncodeChar_one hb]
          exact hc (List.singleton_inj.1 (encode_injective hsame))
        rw [List.count_eq_zero_of_not_mem hnot]
        simp [hc]
    rw [List.count_append, ← ih, ← hcharacter, ← List.count_append]
    rfl
  | malformed hrun _ ih =>
    have hreplacement : Char.ofNat b.toNat ≠ '\uFFFD' := by
      intro h
      have hvalue := congrArg (fun c => c.val.toNat) h
      simp only [toNat_val_ofNat (n := b.toNat) (.inl (by omega))] at hvalue
      simp only [hvalue] at hb
      exact absurd hb (by decide)
    rw [List.count_append, List.count_eq_zero_of_not_mem (hrun.not_mem hb), Nat.zero_add, ← ih, List.map_cons,
      List.count_cons_of_ne]
    exact Ne.symm hreplacement

/-- So a text has a character below 128 as often as the bytes have its byte. -/
theorem count_lossy (bytes : Bytes) {b : UInt8} (hb : b.toNat < 0x80) :
    (lossy bytes).toList.count (Char.ofNat b.toNat) = bytes.count b := by
  rw [lossy, String.toList_ofList, (cuts_pieces bytes).count_replaced hb]

end StartupConfig.Utf8
