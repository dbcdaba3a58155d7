import StartupConfig.Json.Skip
import StartupConfig.Proofs.Json.Grammar

/-!
# Passing over JSON phrases

A phrase that nobody asked for is passed over whole, whatever stands in it and however deep (`passes`). The lists and
records that are open wait on the stack, so a phrase is passed over above any stack, and what is left of a list or
record is passed over with its closing character.
-/
namespace StartupConfig.Json

/-! ## Strings -/

theorem skipString_plain {c : Char} (h : IsPlain c) (cs : List Char) : skipString (c :: cs) = skipString cs := by
  rw [skipString.eq_def]
  simp [h.1, h.2.1, h.2.2]

theorem skipString_short (s : Short) (cs : List Char) : skipString ('\\' :: s.letter :: cs) = skipString cs := by
  simp [skipString, s.letter_ne_u, s.unescape?_letter]

theorem skipString_unit (w x y z : HexDigit) (cs : List Char) :
    skipString ('\\' :: 'u' :: w.char :: x.char :: y.char :: z.char :: cs) = skipString cs := by
  simp [skipString, hex4?_char]

/-- A string is passed over, whatever units its escapes denote. -/
theorem skipString_glyphs (gs : List Glyph) (rest : List Char) :
    skipString (gs.flatMap Glyph.spelling ++ '"' :: rest) = .ok rest := by
  induction gs with
  | nil =>
    rw [List.flatMap_nil, List.nil_append, skipString.eq_def]
    rfl
  | cons g gs ih =>
    rw [List.flatMap_cons, List.append_assoc]
    cases g with
    | plain c h => exact (skipString_plain h _).trans ih
    | short s => exact (skipString_short s _).trans ih
    | unit w x y z => exact (skipString_unit w x y z _).trans ih

/-! ## Numbers -/

theorem skipExponent_digit {d : Char} (hd : d.isDigit) (cs : List Char) :
    skipExponent (d :: cs) = .ok (cs.dropWhile Char.isDigit) := by
  have hplus : d ≠ '+' := Decimal.ne_of_isDigit hd rfl
  have hminus : d ≠ '-' := Decimal.ne_of_isDigit hd rfl
  simp [skipExponent, hplus, hminus, hd]

/-- An exponent is passed over behind its letter. -/
theorem skipExponent_spelling (e : Exponent) {rest : List Char} (h : startsWithDigit rest = false) :
    ∃ cs, e.spelling = (if e.isCapital then 'E' else 'e') :: cs ∧ skipExponent (cs ++ rest) = .ok rest := by
  obtain ⟨d, ds, hd, hdigit, hdigits⟩ := e.digits.exists_cons
  refine ⟨_, rfl, ?_⟩
  have hskip : skipExponent (d :: (ds ++ rest)) = .ok rest := by
    rw [skipExponent_digit hdigit, dropWhile_digits hdigits h]
  rw [hd, List.append_assoc]
  cases e.sign with
  | none => exact hskip
  | some isMinus =>
    cases isMinus with
    | false => simpa [skipExponent, hdigit] using dropWhile_digits hdigits h
    | true => simpa [skipExponent, hdigit] using dropWhile_digits hdigits h

theorem skipFraction_of_ends {rest : List Char} (h : EndsInteger rest) : skipFraction rest = .ok rest := by
  unfold skipFraction
  split
  · exact absurd rfl (h '.' rfl).2.1
  · exact absurd rfl (h 'e' rfl).2.2.1
  · exact absurd rfl (h 'E' rfl).2.2.2
  · rfl

theorem skipFraction_exponent (e : Exponent) {rest : List Char} (h : EndsInteger rest) :
    skipFraction (e.spelling ++ rest) = .ok rest := by
  obtain ⟨cs, hcs, hskip⟩ := skipExponent_spelling e h.startsWithDigit
  rw [hcs]
  cases e.isCapital with
  | false => exact hskip
  | true => exact hskip

/-- A fraction is passed over with what may stand behind it. -/
theorem skipFraction_point (ds : DigitRun) {rest rest' : List Char} (hdigit : startsWithDigit rest = false)
    (hpoint : ∀ c ∈ rest.head?, c ≠ '.') (h : skipFraction rest = .ok rest') :
    skipFraction ('.' :: (ds.val ++ rest)) = .ok rest' := by
  have hdrop : (ds.val ++ rest).dropWhile Char.isDigit = rest :=
    dropWhile_digits (List.all_eq_true.1 ds.property.2) hdigit
  have hhead : (ds.val ++ rest).head?.any Char.isDigit = true := by
    obtain ⟨d, ds', hd, hisDigit, -⟩ := ds.exists_cons
    simp [hd, hisDigit]
  simp only [skipFraction, hdrop, hhead, if_true]
  -- Behind the digits the exponent is told by its letter, as it is where there is no fraction.
  unfold skipFraction at h
  split at h
  · exact absurd rfl (hpoint '.' rfl)
  · exact h
  · exact h
  · split <;> simp_all

/-- The exponent goes on with no digit and no point. -/
theorem Numeral.head_power (n : Numeral) {rest : List Char} (h : EndsInteger rest) :
    startsWithDigit (n.power ++ rest) = false ∧ ∀ c ∈ (n.power ++ rest).head?, c ≠ '.' := by
  unfold power
  cases n.exponent with
  | none => exact ⟨h.startsWithDigit, fun c hc => (h c hc).2.1⟩
  | some e => cases hc : e.isCapital <;> simp [Exponent.spelling, startsWithDigit, hc]

theorem Numeral.skipFraction_tail (n : Numeral) {rest : List Char} (h : EndsInteger rest) :
    skipFraction (n.tail ++ rest) = .ok rest := by
  obtain ⟨hdigit, hpoint⟩ := n.head_power h
  have hpower : skipFraction (n.power ++ rest) = .ok rest := by
    unfold power
    cases n.exponent with
    | none => exact skipFraction_of_ends h
    | some e => exact skipFraction_exponent e h
  rw [tail, List.append_assoc]
  cases n.fraction with
  | none => exact hpower
  | some ds => exact skipFraction_point ds hdigit hpoint hpower

/-- The digits of a number are passed over with its fraction and exponent. -/
theorem Numeral.skipNumber_digits (n : Numeral) {rest : List Char} (h : EndsInteger rest) :
    skipNumber (Decimal.renderNat n.whole ++ (n.tail ++ rest)) = .ok rest := by
  have hdigit := n.startsWithDigit_tail h
  have hdigits : ∀ c ∈ Decimal.renderNat n.whole, c.isDigit := fun c hc => Decimal.isDigit_of_mem_renderNat hc
  obtain ⟨d, ds, hd, hisDigit, hzero⟩ := Decimal.exists_renderNat n.whole
  by_cases hz : d = '0'
  · have hwhole : Decimal.renderNat n.whole = ['0'] := by rw [hzero hz]; rfl
    rw [hwhole]
    change (if startsWithDigit (n.tail ++ rest) then _ else skipFraction (n.tail ++ rest)) = _
    rw [hdigit]
    exact n.skipFraction_tail h
  · rw [hd] at hdigits ⊢
    rw [List.cons_append, skipNumber, if_pos hisDigit, dropWhile_digits (fun c hc => hdigits c (by simp [hc])) hdigit]
    · exact n.skipFraction_tail h
    · simpa using hz

/-! ## Passing over phrases -/

section Steps

variable {stack : List Frame} {frame : Frame} {c : Char} {cs cs' rest rest' : List Char}

theorem skip_scalar (h : dropBlank cs = c :: rest) (hlist : c ≠ '[') (hrecord : c ≠ '{')
    (hscalar : skipScalar (c :: rest) = .ok rest') : skip .value stack cs = skip .closed stack rest' := by
  rw [skip.eq_def]
  grind

theorem skip_list (h : dropBlank cs = '[' :: rest) : skip .value stack cs = skip (.opened .list) stack rest := by
  rw [skip.eq_def]
  grind

theorem skip_record (h : dropBlank cs = '{' :: rest) : skip .value stack cs = skip (.opened .record) stack rest := by
  rw [skip.eq_def]
  grind

/-- A value begins at the next character that is not blank. -/
theorem skip_gap (gap : Gap) : skip .value stack (gap.val ++ cs) = skip .value stack cs := by
  rw [skip.eq_def, skip.eq_def .value stack cs, dropBlank_append gap.isBlank]

theorem skip_item : skip (.item .list) stack cs = skip .value (.list :: stack) cs := by rw [skip.eq_def]

/-- So does the part of a list or record. -/
theorem skip_item_gap (gap : Gap) : skip (.item frame) stack (gap.val ++ cs) = skip (.item frame) stack cs := by
  cases frame with
  | list => rw [skip_item, skip_item, skip_gap]
  | record => rw [skip.eq_def, skip.eq_def (.item .record) stack cs, dropBlank_append gap.isBlank]

theorem skip_member (h : dropBlank cs = '"' :: rest) (hname : skipString rest = .ok rest')
    (hcolon : dropBlank rest' = ':' :: cs') : skip (.item .record) stack cs = skip .value (.record :: stack) cs' := by
  rw [skip.eq_def]
  grind

/-- Passes over the parts of a list or record that are left: all of them, or those behind one that was passed over. -/
def skipParts (frame : Frame) (isFirst : Bool) (stack : List Frame) (cs : List Char) : Except Stop (List Char) :=
  if isFirst then skip (.opened frame) stack cs else skip .closed (frame :: stack) cs

theorem skipParts_end {isFirst : Bool} (h : dropBlank cs = frame.close :: rest) :
    skipParts frame isFirst stack cs = skip .closed stack rest := by
  have hcomma : frame.close ≠ ',' := by cases frame <;> decide
  cases isFirst with
  | true =>
    rw [skipParts, if_pos rfl, skip.eq_def]
    grind
  | false =>
    rw [skipParts, if_neg (by decide), skip.eq_def]
    grind

theorem skipParts_next {isFirst : Bool} {gap gap' : Gap} (hblank : isBlank c = false) (hc : c ≠ frame.close) :
    skipParts frame isFirst stack (gap.val ++ (comma isFirst ++ (gap'.val ++ c :: cs)))
      = skip (.item frame) stack (c :: cs) := by
  have hpart : dropBlank (gap'.val ++ c :: cs) = c :: cs := gap'.dropBlank_cons hblank cs
  cases isFirst with
  | true =>
    have h : dropBlank (gap.val ++ (gap'.val ++ c :: cs)) = c :: cs := by rw [dropBlank_append gap.isBlank, hpart]
    rw [skipParts, if_pos rfl, comma, if_pos rfl, List.nil_append, skip.eq_def]
    grind
  | false =>
    have h : dropBlank (gap.val ++ ',' :: (gap'.val ++ c :: cs)) = ',' :: (gap'.val ++ c :: cs) :=
      gap.dropBlank_cons rfl _
    have hitem : skip (.item frame) stack (gap'.val ++ c :: cs) = skip (.item frame) stack (c :: cs) :=
      skip_item_gap gap'
    rw [skipParts, if_neg (by decide), comma, if_neg (by decide), List.singleton_append, skip.eq_def]
    grind

end Steps

/-- A phrase is passed over, in front of anything that does not go on with a number. -/
def Passes (p : Phrase) : Prop :=
  ∀ (stack : List Frame) (rest : List Char), EndsInteger rest →
    skip .value stack (p.spelling ++ rest) = skip .closed stack rest

/-- Parts are passed over up to the end of their list or record. -/
def PassesParts (frame : Frame) (parts : List (List Char)) : Prop :=
  ∀ (isFirst : Bool) (gap : Gap) (stack : List Frame) (rest : List Char),
    skipParts frame isFirst stack (gap.val ++ (row isFirst parts ++ frame.close :: rest)) = skip .closed stack rest

theorem passes_scalar {p : Phrase} (hlist : ¬p.Begins '[') (hrecord : ¬p.Begins '{')
    (h : ∀ rest, EndsInteger rest → skipScalar (p.spelling ++ rest) = .ok rest) : Passes p := by
  intro stack rest hrest
  have hscalar := h rest hrest
  obtain ⟨c, cs, hc, hbegins⟩ := p.exists_spelling
  rw [hc, List.cons_append] at hscalar ⊢
  refine skip_scalar (dropBlank_cons hbegins.not_blank.1 _) ?_ ?_ hscalar
  · rintro rfl
    exact hlist hbegins
  · rintro rfl
    exact hrecord hbegins

theorem passes_flag (value : Bool) : Passes (.flag value) := by
  cases value <;> exact passes_scalar (by simp [Phrase.Begins]) (by simp [Phrase.Begins]) fun _ _ => rfl

theorem passes_number (n : Numeral) : Passes (.number n) := by
  refine passes_scalar (by simp [Phrase.Begins]) (by simp [Phrase.Begins]) fun rest hrest => ?_
  have hdigits := n.skipNumber_digits hrest
  rw [Phrase.spelling, Numeral.spelling]
  cases n.negative with
  | true => simpa [skipScalar] using hdigits
  | false =>
    obtain ⟨d, ds, hd, hdigit, -⟩ := Decimal.exists_renderNat n.whole
    have hn : d ≠ 'n' := Decimal.ne_of_isDigit hdigit rfl
    have ht : d ≠ 't' := Decimal.ne_of_isDigit hdigit rfl
    have hf : d ≠ 'f' := Decimal.ne_of_isDigit hdigit rfl
    have hsign : d ≠ '-' := Decimal.ne_of_isDigit hdigit rfl
    rw [hd] at hdigits ⊢
    simpa [skipScalar, hn, ht, hf, hsign, hdigit] using hdigits

theorem passes_text (glyphs : List Glyph) : Passes (.text glyphs) := by
  refine passes_scalar (by simp [Phrase.Begins]) (by simp [Phrase.Begins]) fun rest _ => ?_
  simpa [Phrase.spelling, Glyph.quoted, skipScalar] using skipString_glyphs glyphs rest

theorem passes_list {gap : Gap} {items : List (Placed Phrase)}
    (h : PassesParts .list (Phrase.itemSpellings items)) : Passes (.list gap items) := by
  intro stack rest _
  have hparts := h true gap stack rest
  simp only [Phrase.spelling, List.cons_append, List.append_assoc, List.nil_append]
  rw [skip_list (dropBlank_cons rfl _)]
  exact hparts

theorem passes_record {gap : Gap} {members : List (Placed (List Glyph) × Placed Phrase)}
    (h : PassesParts .record (Phrase.memberSpellings members)) : Passes (.record gap members) := by
  intro stack rest _
  have hparts := h true gap stack rest
  simp only [Phrase.spelling, List.cons_append, List.append_assoc, List.nil_append]
  rw [skip_record (dropBlank_cons rfl _)]
  exact hparts

theorem passesParts_nil (frame : Frame) : PassesParts frame [] := by
  intro isFirst gap stack rest
  have hclose : isBlank frame.close = false := by cases frame <;> decide
  rw [row_nil, List.nil_append]
  exact skipParts_end (gap.dropBlank_cons hclose rest)

theorem passesItems_cons {before after : Gap} {p : Phrase} {items : List (Placed Phrase)} (hp : Passes p)
    (hitems : PassesParts .list (Phrase.itemSpellings items)) :
    PassesParts .list (Phrase.itemSpellings (⟨before, p, after⟩ :: items)) := by
  intro isFirst gap stack rest
  have hends := endsInteger_row (.inl rfl) after (Phrase.itemSpellings items) rest
  have hitem := hp (.list :: stack) _ hends
  have hothers := hitems false after stack rest
  obtain ⟨c, cs, hc, hbegins⟩ := p.exists_spelling
  obtain ⟨hblank, hclose⟩ : isBlank c = false ∧ c ≠ Frame.list.close := hbegins.not_blank
  rw [hc, List.cons_append] at hitem
  simp only [Phrase.itemSpellings, row_cons, hc, List.append_assoc, List.cons_append]
  rw [skipParts_next hblank hclose, skip_item]
  exact hitem.trans hothers

theorem passesMembers_cons {before behind before' after : Gap} {name : List Glyph} {p : Phrase}
    {members : List (Placed (List Glyph) × Placed Phrase)} (hp : Passes p)
    (hmembers : PassesParts .record (Phrase.memberSpellings members)) :
    PassesParts .record (Phrase.memberSpellings ((⟨before, name, behind⟩, ⟨before', p, after⟩) :: members)) := by
  intro isFirst gap stack rest
  have hends := endsInteger_row (.inr rfl) after (Phrase.memberSpellings members) rest
  have hvalue := hp (.record :: stack) _ hends
  have hothers := hmembers false after stack rest
  simp only [Phrase.memberSpellings, row_cons, Glyph.quoted, List.append_assoc, List.cons_append, List.nil_append]
  rw [skipParts_next (by decide) (by decide), skip_member (dropBlank_cons (by decide) _) (skipString_glyphs name _)
    (behind.dropBlank_cons (by decide) _), skip_gap before']
  exact hvalue.trans hothers

mutual

/-- Any phrase is passed over whole. -/
theorem passes : (p : Phrase) → Passes p
  | .null => passes_scalar (by simp [Phrase.Begins]) (by simp [Phrase.Begins]) fun _ _ => rfl
  | .flag value => passes_flag value
  | .number numeral => passes_number numeral
  | .text glyphs => passes_text glyphs
  | .list _ items => passes_list (passesItems items)
  | .record _ members => passes_record (passesMembers members)

theorem passesItems : (items : List (Placed Phrase)) → PassesParts .list (Phrase.itemSpellings items)
  | [] => passesParts_nil .list
  | ⟨_, p, _⟩ :: items => passesItems_cons (passes p) (passesItems items)

theorem passesMembers : (members : List (Placed (List Glyph) × Placed Phrase)) →
    PassesParts .record (Phrase.memberSpellings members)
  | [] => passesParts_nil .record
  | (⟨_, _, _⟩, ⟨_, p, _⟩) :: members => passesMembers_cons (passes p) (passesMembers members)

end

/-- A value is passed over with the blanks in front of it. -/
theorem skipValue_spelling (gap : Gap) (p : Phrase) {rest : List Char} (h : EndsInteger rest) :
    skipValue (gap.val ++ (p.spelling ++ rest)) = .ok rest := by
  rw [skipValue, skip_gap, passes p [] rest h, skip.eq_def]

end StartupConfig.Json
