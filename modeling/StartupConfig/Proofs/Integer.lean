import StartupConfig.Loading
import StartupConfig.Proofs.Decimal

/-!
# Texts of integers

Behind its sign a text begins with a run of digits. More digits only lead further away from zero, so the number of the
whole run tells whether any digit has left the range; only if none has does it matter what stands behind the run. This
is `accumulate_eq`, from which it follows which texts are read, as what, and why the others are refused.
-/
namespace StartupConfig

namespace Digits

theorem value?_ten {c : Char} (h : c.isDigit) : value? 10 c = some (c.toNat - '0'.toNat) := by
  have hc : c.toNat ≤ '9'.toNat := by
    simp only [Char.isDigit, Bool.and_eq_true, decide_eq_true_eq] at h
    exact UInt32.le_iff_toNat_le.1 h.2
  have hlt : c.toNat - '0'.toNat < 10 := by
    change c.toNat ≤ 57 at hc
    change c.toNat - 48 < 10
    omega
  simp only [value?, h, if_true, Option.filter_some, hlt, decide_true]

/-- Letters are too great to be digits of the radix ten. -/
theorem value?_ten_eq_none {c : Char} (h : c.isDigit = false) : value? 10 c = none := by
  have hletter (n : Nat) : Option.filter (fun v => decide (v < 10)) (some (n + 10)) = none := by
    simp
  simp only [value?, h, Bool.false_eq_true, if_false]
  split
  · exact hletter _
  · split
    · exact hletter _
    · rfl

end Digits

namespace IntegerType

/-- A natural number behind a sign. -/
def withSign (negative : Bool) (n : Nat) : Int := if negative then -n else n

/-- The fault of digits that leave the range behind a sign. -/
def overflow (negative : Bool) : IntegerFault := if negative then .tooSmall else .tooLarge

variable (t : IntegerType)

/-- Between the bounds of a type, be zero in it or not. -/
def Spans (z : Int) : Prop := t.least ≤ z ∧ z ≤ t.greatest

instance (z : Int) : Decidable (t.Spans z) := inferInstanceAs (Decidable (_ ∧ _))

/-- Between its bounds a type can lack zero only. -/
theorem eq_zero_of_not_contains {t : IntegerType} {z : Int} (h : t.Spans z) (hcontains : ¬t.Contains z) :
    z = 0 ∧ t.admitsZero = false := by
  have hzero : ¬(z = 0 → t.admitsZero = true) := fun hz => hcontains ⟨h.1, h.2, hz⟩
  simpa using hzero

/-- Whether a text has a minus sign, and what stands behind its sign. A type that does not reach below zero knows no
minus sign. -/
def splitSign : List Char → Bool × List Char
  | '+' :: cs => (false, cs)
  | '-' :: cs => if t.isSigned then (true, cs) else (false, '-' :: cs)
  | cs => (false, cs)

/-- A text stands for an integer: there may be a sign, minus in a signed type only, and there is at least one digit. -/
def Denotes (text : List Char) (z : Int) : Prop :=
  ∃ sign digits, text = sign ++ digits ∧ (sign = [] ∨ sign = ['+'] ∨ sign = ['-'] ∧ t.isSigned) ∧ digits ≠ [] ∧
    (∀ c ∈ digits, c.isDigit) ∧ z = withSign (sign = ['-']) (Nat.ofDigitChars 10 digits 0)

/-- Why a text is refused. Behind the sign a character that is no digit is a fault unless the digits before it have left
the range, whatever follows these; a sign wants a digit behind it; zero is a fault of its own. -/
inductive Refuses : List Char → IntegerFault → Prop
  | empty : Refuses [] .empty
  | loneSign {text : List Char} : text ≠ [] → (t.splitSign text).2 = [] → Refuses text .invalidDigit
  | invalidDigit {text digits rest : List Char} {c : Char} : (t.splitSign text).2 = digits ++ c :: rest →
      (∀ d ∈ digits, d.isDigit) → c.isDigit = false →
      (∀ ds, ds <+: digits → t.Spans (withSign (t.splitSign text).1 (Nat.ofDigitChars 10 ds 0))) →
      Refuses text .invalidDigit
  | tooLarge {text digits rest : List Char} : t.splitSign text = (false, digits ++ rest) →
      (∀ d ∈ digits, d.isDigit) → t.greatest < Nat.ofDigitChars 10 digits 0 → Refuses text .tooLarge
  | tooSmall {text digits rest : List Char} : t.splitSign text = (true, digits ++ rest) →
      (∀ d ∈ digits, d.isDigit) → -(Nat.ofDigitChars 10 digits 0 : Int) < t.least → Refuses text .tooSmall
  | zero {text : List Char} : t.Denotes text 0 → t.admitsZero = false → Refuses text .zero

/-! ## Digits -/

section

variable {t} (hleast : t.least ≤ 0) (hgreatest : 0 ≤ t.greatest)

include hleast hgreatest

/-- What lies nearer to zero is in the range too. -/
theorem Spans.of_le {negative : Bool} {m n : Nat} (h : t.Spans (withSign negative n)) (hle : m ≤ n) :
    t.Spans (withSign negative m) := by
  cases negative <;> simp only [Spans, withSign, if_true, Bool.false_eq_true, if_false] at h ⊢ <;> omega

theorem accumulate_digit (negative : Bool) (n : Nat) {c : Char} (hc : c.isDigit) (cs : List Char) :
    let next := 10 * n + (c.toNat - '0'.toNat)
    t.accumulate 10 negative (withSign negative n) (c :: cs) =
      if t.Spans (withSign negative next) then t.accumulate 10 negative (withSign negative next) cs
      else .error (overflow negative) := by
  intro next
  rw [accumulate, Digits.value?_ten hc]
  cases negative with
  | false =>
    have hnext : withSign false n * (10 : Nat) + ((c.toNat - '0'.toNat : Nat) : Int) = withSign false next := by
      simp only [withSign, Bool.false_eq_true, if_false, next]
      omega
    have hlow : ¬withSign false next < t.least := by
      simp only [withSign, Bool.false_eq_true, if_false]
      omega
    simp only [Bool.false_eq_true, if_false, hnext, if_neg hlow]
    by_cases hhigh : t.greatest < withSign false next
    · rw [if_pos hhigh, if_neg fun h => Int.not_le.2 hhigh h.2]
      rfl
    · rw [if_neg hhigh, if_pos ⟨Int.not_lt.1 hlow, Int.not_lt.1 hhigh⟩]
  | true =>
    have hnext : withSign true n * (10 : Nat) - ((c.toNat - '0'.toNat : Nat) : Int) = withSign true next := by
      simp only [withSign, if_true, next]
      omega
    have hhigh : ¬t.greatest < withSign true next := by
      simp only [withSign, if_true]
      omega
    simp only [if_true, hnext, if_neg hhigh]
    by_cases hlow : withSign true next < t.least
    · rw [if_pos hlow, if_neg fun h => Int.not_le.2 hlow h.1]
      rfl
    · rw [if_neg hlow, if_pos ⟨Int.not_lt.1 hlow, Int.not_lt.1 hhigh⟩]

/-- Digits are collected if their number is in the range; otherwise one of them leaves it. -/
theorem accumulate_digits (negative : Bool) {digits : List Char} (hdigits : ∀ c ∈ digits, c.isDigit) (rest : List Char)
    {n : Nat} (hn : t.Spans (withSign negative n)) :
    t.accumulate 10 negative (withSign negative n) (digits ++ rest) =
      if t.Spans (withSign negative (Nat.ofDigitChars 10 digits n)) then
        t.accumulate 10 negative (withSign negative (Nat.ofDigitChars 10 digits n)) rest
      else .error (overflow negative) := by
  induction digits generalizing n with
  | nil => rw [Nat.ofDigitChars_nil, if_pos hn, List.nil_append]
  | cons c cs ih =>
    rw [List.cons_append, accumulate_digit hleast hgreatest negative n (hdigits c (by simp)), Nat.ofDigitChars_cons]
    split
    · next h => exact ih (fun d hd => hdigits d (by simp [hd])) h
    · next h =>
      rw [if_neg]
      intro hall
      exact h (hall.of_le hleast hgreatest (Decimal.le_ofDigitChars _ _))

theorem spans_zero (negative : Bool) : t.Spans (withSign negative 0) := by
  simp [Spans, withSign, hleast, hgreatest]

/-- How digits are read: their number is looked at before what stands behind them. -/
theorem accumulate_eq (negative : Bool) {digits : List Char} (hdigits : ∀ c ∈ digits, c.isDigit) (rest : List Char) :
    t.accumulate 10 negative 0 (digits ++ rest) =
      if t.Spans (withSign negative (Nat.ofDigitChars 10 digits 0)) then
        t.accumulate 10 negative (withSign negative (Nat.ofDigitChars 10 digits 0)) rest
      else .error (overflow negative) := by
  have hzero : withSign negative 0 = 0 := by simp [withSign]
  have h := accumulate_digits hleast hgreatest negative hdigits rest (spans_zero hleast hgreatest negative)
  rwa [hzero] at h

end

/-! ## Texts -/

theorem splitSign_of_isDigit {cs : List Char} (h : ∀ c ∈ cs, c.isDigit) : t.splitSign cs = (false, cs) := by
  cases cs with
  | nil => rfl
  | cons c cs =>
    have hplus : c ≠ '+' := Decimal.ne_of_isDigit (h c (by simp)) rfl
    have hminus : c ≠ '-' := Decimal.ne_of_isDigit (h c (by simp)) rfl
    unfold splitSign
    split <;> simp_all

/-- A text is its sign with what stands behind it. -/
theorem exists_sign (text : List Char) : ∃ sign, text = sign ++ (t.splitSign text).2 ∧
    (sign = [] ∨ sign = ['+'] ∨ sign = ['-'] ∧ t.isSigned) ∧ (t.splitSign text).1 = decide (sign = ['-']) := by
  unfold splitSign
  split
  · exact ⟨['+'], rfl, by simp, rfl⟩
  · split
    · next h => exact ⟨['-'], rfl, by simp [h], rfl⟩
    · exact ⟨[], rfl, by simp, rfl⟩
  · exact ⟨[], rfl, by simp, rfl⟩

/-- A text stands for an integer exactly if there are digits and nothing else behind its sign. -/
theorem denotes_iff (text : List Char) (z : Int) : t.Denotes text z ↔
    (t.splitSign text).2 ≠ [] ∧ (∀ c ∈ (t.splitSign text).2, c.isDigit) ∧
      z = withSign (t.splitSign text).1 (Nat.ofDigitChars 10 (t.splitSign text).2 0) := by
  constructor
  · rintro ⟨sign, digits, rfl, hsign, hne, hdigits, hz⟩
    have hsplit : t.splitSign (sign ++ digits) = (decide (sign = ['-']), digits) := by
      rcases hsign with rfl | rfl | ⟨rfl, hsigned⟩
      · exact t.splitSign_of_isDigit hdigits
      · rfl
      · simp [splitSign, hsigned]
    rw [hsplit]
    exact ⟨hne, hdigits, hz⟩
  · rintro ⟨hne, hdigits, hz⟩
    obtain ⟨sign, htext, hsign, hnegative⟩ := t.exists_sign text
    exact ⟨sign, _, htext, hsign, hne, hdigits, hnegative ▸ hz⟩

/-- So there are signs and digits only in the text of an integer. -/
theorem Denotes.isDigit {t : IntegerType} {text : List Char} {z : Int} (h : t.Denotes text z) {c : Char} (hc : c ∈ text)
    (hplus : c ≠ '+') (hminus : c ≠ '-') : c.isDigit := by
  obtain ⟨sign, digits, rfl, hsign, -, hdigits, -⟩ := h
  rcases List.mem_append.1 hc with hc | hc
  · rcases hsign with rfl | rfl | ⟨rfl, -⟩
    · cases hc
    · exact absurd (List.mem_singleton.1 hc) hplus
    · exact absurd (List.mem_singleton.1 hc) hminus
  · exact hdigits c hc

/-- Reading takes the sign off and reads digits, if anything is left. -/
theorem read_eq {text : List Char} (h : (t.splitSign text).2 ≠ []) :
    t.read 10 text = t.readDigits 10 (t.splitSign text).1 (t.splitSign text).2 := by
  have hminus (cs : List Char) : t.readDigits 10 false ('-' :: cs) = .error .invalidDigit := by
    rw [readDigits, accumulate, Digits.value?_ten_eq_none rfl]
  unfold read
  split
  · exact absurd rfl h
  · exact absurd rfl h
  · by_cases hsigned : t.isSigned
    · simp [splitSign, hsigned] at h
    · simp [splitSign, hsigned, hminus]
  · rfl
  · by_cases hsigned : t.isSigned
    · simp [splitSign, hsigned]
    · simp [splitSign, hsigned, hminus]
  · next _ _ _ hplus hminus' =>
    have hsplit : t.splitSign text = (false, text) := by
      unfold splitSign
      split
      · exact absurd rfl (hplus _)
      · exact absurd rfl (hminus' _)
      · rfl
    rw [hsplit]

section

variable {t} (hleast : t.least ≤ 0) (hgreatest : 0 ≤ t.greatest)

include hleast hgreatest

/-- A text that stands for an integer of the type is read as that integer. -/
theorem read_of_denotes {text : List Char} {v : t.Value} (h : t.Denotes text v.val) : t.read 10 text = .ok v := by
  obtain ⟨hne, hdigits, hv⟩ := (t.denotes_iff text v.val).1 h
  have hspans : t.Spans v.val := ⟨v.property.1, v.property.2.1⟩
  have hread := accumulate_eq hleast hgreatest (t.splitSign text).1 hdigits []
  rw [← hv, if_pos hspans, accumulate, List.append_nil] at hread
  simp only [t.read_eq hne, readDigits, hread]
  exact dif_pos v.property

/-- Digits that leave the range are refused, whatever stands behind them. -/
theorem read_of_out {text digits rest : List Char} {negative : Bool} (hsplit : t.splitSign text = (negative, digits ++ rest))
    (hdigits : ∀ c ∈ digits, c.isDigit) (hout : ¬t.Spans (withSign negative (Nat.ofDigitChars 10 digits 0))) :
    t.read 10 text = .error (overflow negative) := by
  have hne : digits ++ rest ≠ [] := by
    intro hnil
    obtain ⟨rfl, -⟩ := List.append_eq_nil_iff.1 hnil
    exact hout (spans_zero hleast hgreatest negative)
  have hread := accumulate_eq hleast hgreatest negative hdigits rest
  rw [if_neg hout] at hread
  rw [t.read_eq (by simpa only [hsplit] using hne), hsplit]
  simp only [readDigits, hread]

/-- A text that is to be refused is refused, with its own fault. -/
theorem read_of_refuses {text : List Char} {fault : IntegerFault} (h : t.Refuses text fault) :
    t.read 10 text = .error fault := by
  cases h with
  | empty => rfl
  | loneSign hne hsplit =>
    obtain ⟨sign, htext, hsign, -⟩ := t.exists_sign text
    rw [hsplit, List.append_nil] at htext
    rcases hsign with rfl | rfl | ⟨rfl, -⟩
    · exact absurd htext hne
    · rw [htext]; rfl
    · rw [htext]; rfl
  | @invalidDigit _ digits rest c hsplit hdigits hc hall =>
    have hread := accumulate_eq hleast hgreatest (t.splitSign text).1 hdigits (c :: rest)
    rw [if_pos (hall digits (List.prefix_refl digits)), accumulate, Digits.value?_ten_eq_none hc] at hread
    rw [t.read_eq (by simp [hsplit]), hsplit, readDigits, hread]
  | tooLarge hsplit hdigits hlarge =>
    exact read_of_out hleast hgreatest hsplit hdigits fun hin => Int.not_le.2 hlarge hin.2
  | tooSmall hsplit hdigits hsmall =>
    exact read_of_out hleast hgreatest hsplit hdigits fun hin => Int.not_le.2 hsmall hin.1
  | zero hzero hadmits =>
    obtain ⟨hne, hdigits, hv⟩ := (t.denotes_iff text 0).1 hzero
    have hread := accumulate_eq hleast hgreatest (t.splitSign text).1 hdigits []
    rw [← hv, if_pos ⟨hleast, hgreatest⟩, accumulate, List.append_nil] at hread
    simp only [t.read_eq hne, readDigits, hread]
    exact dif_neg fun hcontains => by simp [hcontains.2.2 rfl] at hadmits

/-- Every text stands for an integer of the type or is to be refused. -/
theorem denotes_or_refuses (text : List Char) :
    (∃ v : t.Value, t.Denotes text v.val) ∨ ∃ fault, t.Refuses text fault := by
  by_cases htext : text = []
  · exact .inr ⟨.empty, htext ▸ Refuses.empty⟩
  by_cases hbody : (t.splitSign text).2 = []
  · exact .inr ⟨_, .loneSign htext hbody⟩
  obtain ⟨digits, rest, hsplit, hdigits, hrest⟩ := Decimal.exists_digits (t.splitSign text).2
  by_cases hspans : t.Spans (withSign (t.splitSign text).1 (Nat.ofDigitChars 10 digits 0))
  · cases rest with
    | cons c rest =>
      refine .inr ⟨_, .invalidDigit hsplit hdigits (hrest c rfl) ?_⟩
      intro ds hds
      exact hspans.of_le hleast hgreatest (Decimal.ofDigitChars_mono hds)
    | nil =>
      rw [List.append_nil] at hsplit
      have hdenotes := (t.denotes_iff text _).2 ⟨hbody, hsplit ▸ hdigits, rfl⟩
      rw [hsplit] at hdenotes
      by_cases hcontains : t.Contains (withSign (t.splitSign text).1 (Nat.ofDigitChars 10 digits 0))
      · exact .inl ⟨⟨_, hcontains⟩, hdenotes⟩
      · obtain ⟨hzero, hadmits⟩ := eq_zero_of_not_contains hspans hcontains
        exact .inr ⟨_, .zero (hzero ▸ hdenotes) hadmits⟩
  · cases hsign : (t.splitSign text).1 with
    | false =>
      have hpair : t.splitSign text = (false, digits ++ rest) := Prod.ext hsign hsplit
      rw [hsign] at hspans
      refine .inr ⟨_, .tooLarge hpair hdigits ?_⟩
      simp only [Spans, withSign, Bool.false_eq_true, if_false] at hspans
      omega
    | true =>
      have hpair : t.splitSign text = (true, digits ++ rest) := Prod.ext hsign hsplit
      rw [hsign] at hspans
      refine .inr ⟨_, .tooSmall hpair hdigits ?_⟩
      simp only [Spans, withSign, if_true] at hspans
      omega

/-- A text is read as an integer exactly if it stands for it. -/
theorem read_eq_ok_iff {text : List Char} {v : t.Value} : t.read 10 text = .ok v ↔ t.Denotes text v.val := by
  constructor
  · intro h
    rcases denotes_or_refuses hleast hgreatest text with ⟨w, hw⟩ | ⟨fault, hfault⟩
    · rw [read_of_denotes hleast hgreatest hw] at h
      exact Except.ok.inj h ▸ hw
    · rw [read_of_refuses hleast hgreatest hfault] at h
      cases h
  · exact read_of_denotes hleast hgreatest

/-- A text is refused with a fault exactly if that is its fault. -/
theorem read_eq_error_iff {text : List Char} {fault : IntegerFault} :
    t.read 10 text = .error fault ↔ t.Refuses text fault := by
  constructor
  · intro h
    rcases denotes_or_refuses hleast hgreatest text with ⟨w, hw⟩ | ⟨fault', hfault⟩
    · rw [read_of_denotes hleast hgreatest hw] at h
      cases h
    · rw [read_of_refuses hleast hgreatest hfault] at h
      exact Except.error.inj h ▸ hfault
  · exact read_of_refuses hleast hgreatest

end

/-- The digits of an integer, behind a minus sign below zero, stand for it. -/
theorem denotes_render (v : t.Value) : t.Denotes (Decimal.render v.val) v.val := by
  have hdigits : ∀ c ∈ Decimal.renderNat v.val.natAbs, c.isDigit := fun c hc => Decimal.isDigit_of_mem_renderNat hc
  have hvalue := Decimal.ofDigitChars_renderNat v.val.natAbs
  by_cases hneg : v.val < 0
  · have hsigned : t.isSigned := by simpa [isSigned] using Int.lt_of_le_of_lt v.property.1 hneg
    refine ⟨['-'], _, ?_, .inr (.inr ⟨rfl, hsigned⟩), Decimal.renderNat_ne_nil _, hdigits, ?_⟩
    · rw [Decimal.render, if_pos hneg]
      rfl
    · rw [hvalue]
      simp only [withSign, decide_true, if_true]
      omega
  · refine ⟨[], _, ?_, .inl rfl, Decimal.renderNat_ne_nil _, hdigits, ?_⟩
    · rw [Decimal.render, if_neg hneg]
      rfl
    · rw [hvalue]
      simp only [withSign, List.ne_cons_self, decide_false, Bool.false_eq_true, if_false]
      omega

/-- An integer of a type that reaches zero is read back from its digits. -/
theorem read_render (hleast : t.least ≤ 0) (hgreatest : 0 ≤ t.greatest) (z : t.Value) :
    t.read 10 (Decimal.render z.val) = .ok z :=
  read_of_denotes hleast hgreatest (t.denotes_render z)

end IntegerType

/-! ## Variables -/

/-- Faults are worded differently. -/
theorem IntegerFault.message_injective {f g : IntegerFault} (h : f.message = g.message) : f = g := by
  cases f <;> cases g <;> first | rfl | exact absurd h (by decide)

theorem Diagnostic.ignoring_injective {name raw : String} {f g : IntegerFault}
    (h : Diagnostic.ignoring name raw (.integer f) = .ignoring name raw (.integer g)) : f = g := by
  simp only [ignoring, ReadFault.message, mk.injEq, List.cons.injEq, Prod.mk.injEq, Detail.shown.injEq] at h
  exact IntegerFault.message_injective h.2.2.2.2.2.1.2

namespace IntegerType

/-- The types that variables are read as: eight by their width, and one of these without zero. -/
def supported : List IntegerType :=
  [.signed 8, .unsigned 8, .unsigned 16, .signed 32, .unsigned 32, .unsigned 64, .signed 64, .signed 128,
    (IntegerType.unsigned 32).withoutZero]

theorem spans_zero_of_mem {t : IntegerType} (h : t ∈ supported) : t.least ≤ 0 ∧ 0 ≤ t.greatest := by
  revert t
  decide

end IntegerType

/-- The only fault of a text that is to be an integer is that of its digits. -/
theorem readInteger_eq (t : IntegerType) (raw : String) : readInteger t raw =
    match t.read 10 raw.toList with
    | .ok v => .ok v
    | .error fault => .error (.integer fault) := by
  unfold readInteger
  cases t.read 10 raw.toList <;> rfl

theorem readInteger_eq_ok_iff {t : IntegerType} {raw : String} {v : t.Value} :
    readInteger t raw = .ok v ↔ t.read 10 raw.toList = .ok v := by
  cases h : t.read 10 raw.toList <;> simp [readInteger_eq, h]

section

variable {t : IntegerType} {lookup : Lookup} {name raw : String} {default : t.Value} (h : lookup name = some raw)

include h

theorem resolveRead_of_ok {v : t.Value} (hread : t.read 10 raw.toList = .ok v) :
    resolveRead (readInteger t) lookup name default = ⟨⟨v, .environment⟩, []⟩ := by
  simp [resolveRead, h, readInteger_eq, hread]

theorem resolveRead_of_error {fault : IntegerFault} (hread : t.read 10 raw.toList = .error fault) :
    resolveRead (readInteger t) lookup name default
      = ⟨⟨default, .rejected raw⟩, [.ignoring name raw (.integer fault)]⟩ := by
  simp [resolveRead, h, readInteger_eq, hread]

end

/-- How a variable is read as an integer. Its value is the integer that its text stands for, if that is in the type, and
is from the environment. Any other text is kept beside the default, and what is told of it names its own fault. The text
of every integer of the type is read as that integer. -/
theorem IntegerType.resolve_spec {t : IntegerType} (ht : t ∈ supported) {lookup : Lookup} {name raw : String}
    (h : lookup name = some raw) (default : t.Value) :
    let told := resolveRead (readInteger t) lookup name default
    (∀ v : t.Value, told.value = ⟨v, .environment⟩ ↔ t.Denotes raw.toList v.val) ∧
    ((∀ v : t.Value, ¬t.Denotes raw.toList v.val) → told.value = ⟨default, .rejected raw⟩) ∧
    (∀ fault, told.diagnostics = [.ignoring name raw (.integer fault)] ↔ t.Refuses raw.toList fault) ∧
    ∀ (v : t.Value) (lookup' : Lookup), lookup' name = some (String.ofList (Decimal.render v.val)) →
      (resolveRead (readInteger t) lookup' name default).value = ⟨v, .environment⟩ := by
  intro told
  obtain ⟨hleast, hgreatest⟩ := spans_zero_of_mem ht
  simp only [← read_eq_ok_iff hleast hgreatest, ← read_eq_error_iff hleast hgreatest]
  refine ⟨?_, ?_, ?_, ?_⟩
  · intro v
    cases hread : t.read 10 raw.toList with
    | ok w => simp [told, resolveRead_of_ok h hread]
    | error fault => simp [told, resolveRead_of_error h hread]
  · intro hnone
    cases hread : t.read 10 raw.toList with
    | ok w => exact absurd hread (hnone w)
    | error fault => simp [told, resolveRead_of_error h hread]
  · intro fault
    cases hread : t.read 10 raw.toList with
    | ok w => simp [told, resolveRead_of_ok h hread]
    | error fault' =>
      have htold : told.diagnostics = [.ignoring name raw (.integer fault')] := by
        simp [told, resolveRead_of_error h hread]
      rw [htold, List.cons.injEq, Except.error.injEq]
      exact ⟨fun heq => Diagnostic.ignoring_injective heq.1, fun heq => ⟨heq ▸ rfl, rfl⟩⟩
  · intro v lookup' h'
    have hread : t.read 10 (String.ofList (Decimal.render v.val)).toList = .ok v := by
      rw [String.toList_ofList]
      exact t.read_render hleast hgreatest v
    rw [resolveRead_of_ok h' hread]

/-- The digits of `999x` leave the range of one byte in front of the letter, and those of `99x` do not. -/
theorem IntegerType.resolve_spec_mixed :
    let default : (IntegerType.unsigned 8).Value := ⟨7, by decide⟩
    let lookup (raw : String) : Lookup := fun _ => some raw
    let told (raw : String) := resolveRead (readInteger (.unsigned 8)) (lookup raw) "TRIES" default
    (told "999x").diagnostics = [.ignoring "TRIES" "999x" (.integer .tooLarge)] ∧
    (told "99x").diagnostics = [.ignoring "TRIES" "99x" (.integer .invalidDigit)] ∧
    (told "+0099").value = ⟨⟨99, by decide⟩, .environment⟩ := by
  intro default lookup told
  have hmem : IntegerType.unsigned 8 ∈ supported := by decide
  have hset (raw : String) : lookup raw "TRIES" = some raw := rfl
  have hlarge : (IntegerType.unsigned 8).Refuses "999x".toList .tooLarge := by
    have hsplit : (IntegerType.unsigned 8).splitSign "999x".toList = (false, "999".toList ++ ['x']) := rfl
    exact .tooLarge hsplit (List.all_eq_true.1 (by decide)) (by decide)
  have hletter : (IntegerType.unsigned 8).Refuses "99x".toList .invalidDigit := by
    have hsplit : ((IntegerType.unsigned 8).splitSign "99x".toList).2 = "99".toList ++ 'x' :: [] := rfl
    have hspans : (IntegerType.unsigned 8).Spans (withSign false (Nat.ofDigitChars 10 "99".toList 0)) := by decide
    refine .invalidDigit hsplit (List.all_eq_true.1 (by decide)) (by decide) ?_
    intro ds hds
    exact hspans.of_le (by decide) (by decide) (Decimal.ofDigitChars_mono hds)
  have hdigits : (IntegerType.unsigned 8).Denotes "+0099".toList 99 :=
    ⟨['+'], "0099".toList, rfl, by decide, by decide, List.all_eq_true.1 (by decide), by decide⟩
  obtain ⟨-, -, hfaultLarge, -⟩ := resolve_spec hmem (hset "999x") default
  obtain ⟨-, -, hfaultLetter, -⟩ := resolve_spec hmem (hset "99x") default
  obtain ⟨hvalue, -⟩ := resolve_spec hmem (hset "+0099") default
  exact ⟨(hfaultLarge _).2 hlarge, (hfaultLetter _).2 hletter, (hvalue ⟨99, by decide⟩).2 hdigits⟩

end StartupConfig
