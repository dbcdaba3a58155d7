import StartupConfig.Proofs.Decimal
import StartupConfig.Proofs.Yaml.Character

/-!
# Reading plain scalars back

A text without indicators, outer blanks and line breaks is read character by character; the blanks inside it
wait in the gap until the next character comes. The next line ends it, or a colon if it is a key.
-/
namespace StartupConfig.Yaml

namespace Scalar

/-- A text that can stand without quotes. -/
structure IsPlain (s : List Char) : Prop where
  ne_nil : s ≠ []
  indicator : (shape s).indicator = false
  edge : (shape s).edge = false
  lineBreak : (shape s).lineBreak = false
  printable : ∀ c ∈ s, isPrintable c

/-- A word that can name a member; the reader gives up a key that is too long. -/
structure IsName (s : List Char) : Prop where
  ne_nil : s ≠ []
  isWord : ∀ c ∈ s, isWord c
  head_ne : s.head? ≠ some '-'
  length_le : s.length ≤ Candidate.reach

theorem hasInner_eq_false {s : List Char} (h : ∀ c ∈ s, isWord c) (before : Char) :
    hasInner before s = false := by
  induction s generalizing before with
  | nil => rfl
  | cons c cs ih =>
    have hc := isOrdinary_of_isWord (h c (by simp))
    have hcomment : c ≠ '#' := ne_of_kind hc (by decide)
    simp only [isOrdinary, Bool.and_eq_true, bne_iff_ne] at hc
    simp [hasInner, hc, hcomment, ih fun d hd => h d (by simp [hd])]

/-- A word opens nothing, and a dash opens nothing before a word. -/
theorem hasOpening_eq_false {c : Char} {cs : List Char} (hc : isWord c)
    (h : c = '-' → ∃ d ds, cs = d :: ds ∧ isWord d ∧ d ≠ '-') : hasOpening (c :: cs) = false := by
  have ho := isOrdinary_of_isWord hc
  simp only [isOrdinary, Bool.and_eq_true, Bool.not_eq_true', bne_iff_ne] at ho
  by_cases hdash : c = '-'
  · obtain ⟨d, ds, rfl, hd, hne⟩ := h hdash
    have hd := isOrdinary_of_isWord hd
    simp only [isOrdinary, Bool.and_eq_true, Bool.not_eq_true'] at hd
    subst hdash
    unfold hasOpening
    split
    · simp_all
    · simp_all
    · simp_all
    · next heq =>
      obtain ⟨rfl, rfl⟩ := List.cons.inj heq
      simp [isBlankOrEnd, hd, opening]
  · unfold hasOpening
    split <;> simp_all

/-- Words that open nothing are plain. -/
theorem IsPlain.of_isWord {s : List Char} (hne : s ≠ []) (hw : ∀ c ∈ s, isWord c)
    (hopening : hasOpening s = false) : IsPlain s := by
  have ho (c : Char) (hc : c ∈ s) : isPrintable c ∧ isSpace c = false ∧ isBreak c = false := by
    have := isOrdinary_of_isWord (hw c hc)
    simp_all [isOrdinary, isBlank, isSpace]
  refine ⟨hne, ?_, ?_, ?_, fun c hc => (ho c hc).1⟩
  · obtain ⟨c, cs, rfl⟩ := List.exists_cons_of_ne_nil hne
    have hinner := hasInner_eq_false (fun d (hd : d ∈ cs) => hw d (by simp [hd])) c
    simp [shape, hopening, hinner]
  · have hedge (o : Option Char) (h : ∀ c ∈ o, c ∈ s) : (o.any fun c => isSpace c || isBreak c) = false := by
      cases o with
      | none => rfl
      | some c => simp [ho c (h c rfl)]
    simp [shape, hedge s.head? fun c hc => List.mem_of_head? hc, hedge s.getLast? fun c hc => List.mem_of_getLast? hc]
  · simpa [shape] using fun c hc => (ho c hc).2.2

theorem IsName.isPlain {s : List Char} (h : IsName s) : IsPlain s := by
  obtain ⟨c, cs, rfl⟩ := List.exists_cons_of_ne_nil h.ne_nil
  have hdash : c ≠ '-' := by simpa using h.head_ne
  exact .of_isWord h.ne_nil h.isWord (hasOpening_eq_false (h.isWord c (by simp)) fun h => absurd h hdash)

/-- Decimal digits are plain, and so they are behind a minus sign. -/
theorem isPlain_render (z : Int) : IsPlain (Decimal.render z) := by
  have hdigit {n : Nat} {c : Char} (hc : c ∈ Decimal.renderNat n) : Yaml.isWord c ∧ c ≠ '-' := by
    have hd := Decimal.isDigit_of_mem_renderNat hc
    exact ⟨by simp [Yaml.isWord, Char.isAlphanum, hd], Decimal.ne_of_isDigit hd rfl⟩
  obtain ⟨d, ds, hds, -⟩ := Decimal.exists_renderNat z.natAbs
  obtain ⟨hd, hdash⟩ := hdigit (n := z.natAbs) (c := d) (by simp [hds])
  by_cases hz : z < 0
  · rw [Decimal.render, if_pos hz]
    refine .of_isWord (by simp) ?_ (hasOpening_eq_false (by decide) fun _ => ⟨d, ds, hds, hd, hdash⟩)
    intro c hc
    rcases List.mem_cons.1 hc with rfl | hc
    · decide
    · exact (hdigit hc).1
  · rw [Decimal.render, if_neg hz]
    refine .of_isWord (Decimal.renderNat_ne_nil _) (fun c hc => (hdigit hc).1) ?_
    rw [hds]
    exact hasOpening_eq_false hd fun h => absurd h hdash

namespace IsPlain

variable {s : List Char}

theorem not_isBreak (h : IsPlain s) : ∀ c ∈ s, isBreak c = false := by
  simpa [shape] using h.lineBreak

theorem hasOpening_eq_false (h : IsPlain s) : hasOpening s = false := by
  have := h.indicator
  simp only [shape, Bool.or_eq_false_iff] at this
  exact this.1

/-- A colon or a comment inside would need a blank beside it. -/
theorem hasInner_eq_false (h : IsPlain s) : hasInner 'x' s = false := by
  have hopening := h.hasOpening_eq_false
  have hindicator := h.indicator
  obtain ⟨c, cs, rfl⟩ := List.exists_cons_of_ne_nil h.ne_nil
  simp only [shape, Bool.or_eq_false_iff] at hindicator
  have hcolon : (c == ':' && isBlankOrEnd cs.head?) = false := by
    unfold hasOpening at hopening
    split at hopening <;> simp_all
  have hx : isBlankOrEnd (some 'x') = false := by decide
  simp [hasInner, hcolon, hx, hindicator.2]

/-- Neither end of a plain text is blank. -/
theorem not_isBlank (h : IsPlain s) :
    (∀ c ∈ s.head?, isBlank c = false) ∧ ∀ c ∈ s.getLast?, isBlank c = false := by
  have hedge := h.edge
  simp only [shape, Bool.or_eq_false_iff] at hedge
  have hend {c : Char} (hc : c ∈ s) (hedge : (isSpace c || isBreak c) = false) : isBlank c = false := by
    by_cases hb : isBlank c
    · rw [eq_space_of_isBlank (h.printable c hc) hb] at hedge
      simp [isSpace] at hedge
    · simpa using hb
  refine ⟨fun c hc => hend (List.mem_of_head? hc) ?_, fun c hc => hend (List.mem_of_getLast? hc) ?_⟩
  · have hhead : s.head? = some c := hc
    simpa [hhead] using hedge.1
  · have hlast : s.getLast? = some c := hc
    simpa [hlast] using hedge.2

/-- Nothing of a plain text is passed over. -/
theorem isSolid_head {c : Char} {cs : List Char} (h : IsPlain (c :: cs)) : isSolid c := by
  have hcomment : c ≠ '#' := by
    rintro rfl
    have := h.hasOpening_eq_false
    simp [hasOpening, opening] at this
  have hmark : c ≠ byteOrderMark := ne_of_kind (h.printable c (by simp)) (by decide)
  simp [isSolid, h.not_isBlank.1 c rfl, h.not_isBreak c (by simp), hcomment, hmark]

end IsPlain

end Scalar

namespace PlainScalar

theorem put_nil (r : Except Stop Reading) : put [] r = r := by
  cases r <;> rfl

theorem put_put (a b : List Char) (r : Except Stop Reading) : put a (put b r) = put (a ++ b) r := by
  cases r <;> simp [put]

/-- Blanks at the beginning of a line add nothing to a gap that goes over lines. -/
theorem read_margin (least : Nat) (start m : Mark) (first more : List Char) (n : Nat) (rest : List Char) :
    read false least start m (.lines first more) (Scalar.margin n ++ rest)
      = read false least start ⟨m.line, m.column + n, m.offset + n⟩ (.lines first more) rest := by
  refine over_margin (f := fun m => read false least start m (.lines first more)) (fun m rest _ => ?_)
    (Nat.le_refl _) rest
  simp [read, isBlank, Gap.addBlank]

/-- A blank waits in the gap. -/
theorem read_blank {c : Char} (hblank : isBlank c) {g : Gap} (hlines : g.isLines = false) (least : Nat)
    (start m : Mark) (rest : List Char) :
    read false least start m g (c :: rest) = read false least start m.next (g.addBlank c) rest ∧
      m.after c = m.next ∧ (g.addBlank c).text = g.text ++ [c] ∧ (g.addBlank c).isLines = false := by
  refine ⟨by simp [read, hblank, hlines], ?_, ?_, ?_⟩
  · simp only [isBlank, Bool.or_eq_true, beq_iff_eq] at hblank
    rcases hblank with rfl | rfl <;> rfl
  · cases g <;> simp_all [Gap.isLines, Gap.addBlank, Gap.text]
  · cases g <;> simp_all [Gap.isLines, Gap.addBlank]

/-- A character that ends nothing is read as itself. Behind a gap it must be moved in and begin no comment. -/
theorem read_character {c : Char} (hblank : isBlank c = false) (hbreak : isBreak c = false) {rest : List Char}
    (hends : endsBefore false c rest = false) {least : Nat} {m : Mark} {g : Gap}
    (hgap : g.isSome → least ≤ m.column ∧ 0 < m.column ∧ c ≠ '#') (start : Mark) :
    read false least start m g (c :: rest)
      = put (g.text ++ [c]) (read false least start (m.after c) .none rest) := by
  have hmoved : (g.isSome && ((!false && decide (m.column < least))
      || Cursor.isDocumentSign ⟨m, c :: rest⟩ || c == '#')) = false := by
    by_cases hg : g.isSome
    · obtain ⟨hleast, hcolumn, hcomment⟩ := hgap hg
      have hsign : Cursor.isDocumentSign ⟨m, c :: rest⟩ = false := by
        have : ¬m.column = 0 := by omega
        simp [Cursor.isDocumentSign, Cursor.isSign, this]
      have hless : ¬m.column < least := by omega
      simp [hsign, hless, hcomment]
    · simp [hg]
  simp only [read, hblank, hbreak, hmoved, hends, Bool.false_eq_true, if_false, Bool.false_and]

/-- The characters of a text are read up to its end. Blanks count only where the text is moved in. -/
theorem read_append {before : Char} {s : List Char} (hinner : Scalar.hasInner before s = false)
    (hbreak : ∀ c ∈ s, isBreak c = false) (hlast : ∀ c ∈ s.getLast?, isBlank c = false) {g : Gap}
    (hlines : g.isLines = false) (hbefore : g.isSome → isBlank before) (hnil : s = [] → g = .none)
    {least : Nat} {m : Mark} (hcolumn : g.isSome ∨ (∃ c ∈ s, isBlank c) → least ≤ m.column ∧ 0 < m.column)
    (start : Mark) (rest : List Char) :
    read false least start m g (s ++ rest)
      = put (g.text ++ s) (read false least start (m.passing s) .none rest) := by
  induction s generalizing before g m with
  | nil =>
    rw [hnil rfl]
    exact (put_nil _).symm
  | cons c cs ih =>
    simp only [Scalar.hasInner, Bool.or_eq_false_iff] at hinner
    obtain ⟨⟨hcolon, hcomment⟩, hinner⟩ := hinner
    have hc := hbreak c (by simp)
    have hbreak' : ∀ d ∈ cs, isBreak d = false := fun d hd => hbreak d (by simp [hd])
    by_cases hblank : isBlank c
    · -- a character must follow the blank
      obtain ⟨hread, hnext, htext, hlines'⟩ := read_blank hblank hlines least start m (cs ++ rest)
      have hm := hcolumn (.inr ⟨c, by simp, hblank⟩)
      rw [List.cons_append, hread, ih hinner hbreak' (getLast?_tail hlast) hlines' (fun _ => hblank), htext,
        Mark.passing_cons, hnext, List.append_assoc, List.singleton_append]
      · rintro rfl
        simp [hblank] at hlast
      · intro _
        simp only [Mark.next]
        omega
    · have hends : endsBefore false c (cs ++ rest) = false := by
        by_cases hceq : c = ':'
        · cases cs with
          | nil => simp [hceq, isBlankOrEnd] at hcolon
          | cons d ds => simpa [endsBefore] using hcolon
        · simp [endsBefore, hceq]
      have hgap (hg : g.isSome) : least ≤ m.column ∧ 0 < m.column ∧ c ≠ '#' := by
        obtain ⟨hleast, hpos⟩ := hcolumn (.inl hg)
        exact ⟨hleast, hpos, by simpa [isBlankOrEnd, hbefore hg] using hcomment⟩
      rw [List.cons_append, read_character (by simpa using hblank) hc hends hgap,
        ih hinner hbreak' (getLast?_tail hlast) (g := .none) rfl (by simp [Gap.isSome]) (fun _ => rfl), put_put,
        Mark.passing_cons, Gap.text, List.nil_append, List.append_assoc, List.singleton_append]
      rintro (h | ⟨d, hd, hdblank⟩)
      · simp [Gap.isSome] at h
      · have hm := hcolumn (.inr ⟨d, by simp [hd], hdblank⟩)
        simp only [Mark.after_of_not_isBreak hc]
        omega

/-- The next line ends a scalar if it is not moved in. -/
theorem read_newline (l : Line) {least : Nat} (h : l.column < least) (start m : Mark) :
    ∃ m' : Mark, m'.column = l.column ∧
      read false least start m .none ('\n' :: l.text) = .ok ⟨[], true, ⟨m', l.rest⟩⟩ := by
  refine ⟨⟨m.line + 1, l.column, l.column⟩, rfl, ?_⟩
  have hbreak : read false least start m .none ('\n' :: l.text)
      = read false least start m.newLine (.lines ['\n'] []) l.text := by
    simp [read, isBlank, isBreak, Gap.addBreak]
  rw [hbreak, Line.text, read_margin]
  simp only [Mark.newLine, Nat.zero_add]
  cases hr : l.rest with
  | nil => rfl
  | cons c cs =>
    have hc := l.solid c (by simp [hr])
    simp only [isSolid, Bool.and_eq_true, Bool.not_eq_true'] at hc
    simp [read, hc, h, Gap.isSome, Gap.isLines]

/-- A colon before a blank or the end of a line ends a scalar. -/
theorem read_colon {rest : List Char} (h : isBlankOrEnd rest.head?) (least : Nat) (start m : Mark) :
    read false least start m .none (':' :: rest) = .ok ⟨[], false, ⟨m, ':' :: rest⟩⟩ := by
  simp [read, isBlank, isBreak, Gap.isSome, endsBefore, h, Gap.isLines]

end PlainScalar

end StartupConfig.Yaml
