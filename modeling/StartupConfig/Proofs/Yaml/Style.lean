import StartupConfig.Proofs.Yaml.Plain
import StartupConfig.Proofs.Yaml.Quoted
import StartupConfig.Proofs.Yaml.Block

/-!
# What the style of a text says about it

The style that a text gets is one that can hold it, and whatever the style, only printable characters are
written.
-/
namespace StartupConfig.Yaml.Scalar

/-- The form in which a style is read. -/
def Style.form : Style → Form
  | .plain => .plain
  | .singleQuoted => .quoted
  | .doubleQuoted => .quoted
  | .literal => .literal

/-- Can a style hold a text? -/
def Style.Holds (s : List Char) : Style → Prop
  | .plain => IsPlain s ∧ Untagged.isAmbiguous s = false
  | .singleQuoted => IsSingle s
  | .doubleQuoted => True
  | .literal => s ≠ [] ∧ ∀ c ∈ s, isPrintable c

theorem printable_of_unsafeMix {s : List Char} (h : (shape s).unsafeMix = false) :
    hasPair isSpace isBreak s = false ∧ ∀ c ∈ s, isPrintable c := by
  simpa [shape] using h

/-- Single quotation marks are the choice where they can hold the text, and else double ones. -/
theorem holds_single {s : List Char} (hnewline : '\n' ∉ s) :
    (if (shape s).breakSpace || (shape s).unsafeMix then Style.doubleQuoted else .singleQuoted).Holds s := by
  by_cases h : (shape s).breakSpace || (shape s).unsafeMix
  · rw [if_pos h]
    trivial
  · rw [if_neg h]
    simp only [Bool.or_eq_true, not_or, Bool.not_eq_true] at h
    obtain ⟨hpair, hprintable⟩ := printable_of_unsafeMix h.2
    exact ⟨hprintable, hnewline, hpair, h.1⟩

/-- The style of a text can hold it. -/
theorem holds_style (s : List Char) : (style s).Holds s := by
  by_cases hnewline : '\n' ∈ s
  · have hwanted : wanted s = .literal := by simp [wanted, hnewline]
    simp only [style, hwanted]
    by_cases h : (shape s).trailingSpace || (shape s).unsafeMix
    · rw [if_pos h]
      trivial
    · rw [if_neg h]
      simp only [Bool.or_eq_true, not_or, Bool.not_eq_true] at h
      exact ⟨List.ne_nil_of_mem hnewline, (printable_of_unsafeMix h.2).2⟩
  · have hsingle := holds_single hnewline
    by_cases hambiguous : Untagged.isAmbiguous s
    · have hwanted : wanted s = .singleQuoted := by simp [wanted, hnewline, hambiguous]
      simpa only [style, hwanted] using hsingle
    · have hwanted : wanted s = .plain := by simp [wanted, hnewline, hambiguous]
      simp only [style, hwanted]
      by_cases h : (shape s).indicator || (shape s).edge || (shape s).breakSpace || (shape s).unsafeMix
          || (shape s).lineBreak
      · rwa [if_pos h]
      · rw [if_neg h]
        simp only [Bool.or_eq_true, not_or, Bool.not_eq_true] at h
        obtain ⟨⟨⟨⟨hindicator, hedge⟩, -⟩, hmix⟩, hbreak⟩ := h
        have hne : s ≠ [] := by
          rintro rfl
          exact hambiguous rfl
        exact ⟨⟨hne, hindicator, hedge, hbreak, (printable_of_unsafeMix hmix).2⟩, by simpa using hambiguous⟩

/-! ## Written characters -/

theorem isPrintable_of_isWord {c : Char} (h : isWord c) : isPrintable c := by
  have := isOrdinary_of_isWord h
  simp_all [isOrdinary]

theorem all_margin (n : Nat) : (margin n).all isPrintable := by
  have hspace : isPrintable ' ' := rfl
  simp [margin, hspace]

theorem all_singleBody {s : List Char} (h : s.all isPrintable) (indent : Nat) (atLineStart : Bool) :
    (singleBody indent atLineStart s).all isPrintable := by
  have hmargin (b : Bool) : (if b then margin indent else []).all isPrintable := by
    cases b
    · rfl
    · exact all_margin indent
  have hquote : ['\'', '\''].all isPrintable := rfl
  induction s generalizing atLineStart with
  | nil => exact hmargin atLineStart
  | cons c cs ih =>
    simp only [List.all_cons, Bool.and_eq_true] at h
    rw [singleBody]
    by_cases hbreak : isBreak c
    · rw [if_pos hbreak, List.all_cons, h.1, ih h.2 true]
      rfl
    · rw [if_neg hbreak, List.all_append, List.all_append, hmargin, ih h.2 false]
      by_cases hc : c = '\''
      · rw [if_pos hc, hquote]
        rfl
      · simp [if_neg hc, h.1]

theorem all_literalBody {s : List Char} (h : s.all isPrintable) (indent : Nat) (atLineStart : Bool) :
    (literalBody indent atLineStart s).all isPrintable := by
  induction s generalizing atLineStart with
  | nil => rfl
  | cons c cs ih =>
    simp only [List.all_cons, Bool.and_eq_true] at h
    rw [literalBody]
    by_cases hbreak : isBreak c
    · rw [if_pos hbreak, List.all_cons, h.1, ih h.2 true]
      rfl
    · cases atLineStart <;> simp [hbreak, h.1, ih h.2 false, all_margin]

theorem all_literalMarks (s : List Char) : (literalMarks s).all isPrintable := by
  have hwidth (b : Bool) : (if b then ['2'] else []).all isPrintable := by cases b <;> rfl
  rw [literalMarks, List.all_append, hwidth, Bool.true_and]
  split
  · rfl
  · split <;> rfl
  · split
    · rfl
    · split <;> rfl

theorem all_hex (count n : Nat) : (hex count n).all isPrintable := by
  refine List.all_eq_true.2 fun c hc => isPrintable_of_isWord ?_
  have hsome := isSome_of_mem_hex hc
  simp only [Digits.value?, Option.isSome_iff_exists, Option.filter_eq_some_iff] at hsome
  obtain ⟨k, hk, -⟩ := hsome
  delta isWord Char.isAlphanum Char.isAlpha
  simp only [Bool.or_eq_true]
  by_cases hdigit : c.isDigit
  · simp [hdigit]
  · by_cases hlower : c.isLower
    · simp [hlower]
    · by_cases hupper : c.isUpper
      · simp [hupper]
      · simp [hdigit, hlower, hupper] at hk

theorem all_escape (c : Char) : (escape c).all isPrintable := by
  have hhex {letter : Char} (hletter : isPrintable letter) (count : Nat) :
      (['\\', letter] ++ hex count c.toNat).all isPrintable := by
    have hbackslash : isPrintable '\\' := rfl
    simp [hbackslash, hletter, all_hex]
  rw [escape]
  split
  · next h =>
    simp only [Bool.and_eq_true] at h
    simp [h]
  · split
    · next letter hlookup =>
      have hshort : ∀ p ∈ shortEscapes, ['\\', p.2].all isPrintable := by decide
      obtain ⟨_, _, hmem, -⟩ := List.lookup_eq_some_iff.1 hlookup
      exact hshort (c, letter) (by simp [hmem])
    · split
      · exact hhex rfl 2
      · split
        · exact hhex rfl 4
        · exact hhex rfl 8

/-- Only printable characters are written. -/
theorem all_writeLine (indent : Nat) (s : List Char) : (writeLine indent s).all isPrintable := by
  have hholds := holds_style s
  have hstyle : (writeAs indent s (style s)).all isPrintable := by
    cases hs : style s with
    | plain =>
      rw [hs] at hholds
      exact List.all_eq_true.2 hholds.1.printable
    | singleQuoted =>
      rw [hs] at hholds
      have hquote : isPrintable '\'' := rfl
      simp [writeAs, hquote, all_singleBody (List.all_eq_true.2 hholds.printable)]
    | doubleQuoted =>
      have hquote : isPrintable '"' := rfl
      simp [writeAs, hquote, all_escape]
    | literal =>
      rw [hs] at hholds
      have hsigns : isPrintable '|' ∧ isPrintable '\n' := ⟨rfl, rfl⟩
      simp [writeAs, hsigns, all_literalMarks, all_literalBody (List.all_eq_true.2 hholds.2)]
  rw [writeLine, List.all_append, hstyle]
  split <;> rfl

end StartupConfig.Yaml.Scalar
