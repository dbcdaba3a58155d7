import StartupConfig.Proofs.Json.Meaning
import StartupConfig.Proofs.Json.Record

/-!
# Reading the settings of a record from JSON

The value of a setting means a text or an integer. A phrase is read as the value of a setting exactly if it means what
the setting wants, whatever its spelling, and then the draft has that meaning for the setting and is otherwise
unchanged.
-/
namespace StartupConfig.Json

/-! ## Meanings -/

/-- What a value is to a record: a string, by its units, or an integer, or nothing that a record has. -/
inductive Meaning
  | text (units : List Nat)
  | integer (value : Int)
  | other
  deriving DecidableEq

namespace Meaning

/-- What a text means. -/
def ofText (text : String) : Meaning := .text (text.toList.flatMap utf16)

/-- What the value of a setting in a record means. -/
def ofRecord (r : Record) : Setting → Meaning
  | .templateFile => ofText r.templateFile
  | .initImage => ofText r.initImage
  | .deliveryImage => ofText r.deliveryImage
  | .maxTries => .integer r.maxTries.val

end Meaning

/-- What a phrase means. -/
def Phrase.meaning : Phrase → Meaning
  | .text glyphs => .text (glyphs.flatMap Glyph.units)
  | .number numeral => numeral.integer?.elim .other .integer
  | _ => .other

/-! ## Values -/

theorem dropBlank_phrase (gap : Gap) {p : Phrase} {c : Char} {cs : List Char} (hc : p.spelling = c :: cs)
    (hbegins : p.Begins c) (rest : List Char) : dropBlank (gap.val ++ (p.spelling ++ rest)) = c :: (cs ++ rest) := by
  rw [hc, List.cons_append, gap.dropBlank_cons hbegins.not_blank.1]

/-- A phrase is a string, or neither begins like one nor means a text. -/
theorem Phrase.text_or_not (p : Phrase) :
    (∃ glyphs, p = .text glyphs) ∨ (¬p.Begins '"' ∧ ∀ us, p.meaning ≠ .text us) := by
  cases p with
  | text glyphs => exact .inl ⟨glyphs, rfl⟩
  | number n =>
    refine .inr ⟨by simp [Begins], fun us => ?_⟩
    cases hz : n.integer? <;> simp [meaning, hz]
  | flag value => cases value <;> exact .inr ⟨by simp [Begins], by simp [meaning]⟩
  | _ => exact .inr ⟨by simp [Begins], by simp [meaning]⟩

/-- A phrase is a number, or neither begins like one nor means an integer. -/
theorem Phrase.number_or_not (p : Phrase) :
    (∃ n, p = .number n) ∨ ((∀ c, p.Begins c → c ≠ '-' ∧ c.isDigit = false) ∧ ∀ z, p.meaning ≠ .integer z) := by
  cases p with
  | number n => exact .inl ⟨n, rfl⟩
  | flag value => cases value <;> exact .inr ⟨by simp [Begins], by simp [meaning]⟩
  | _ => exact .inr ⟨by simp [Begins], by simp [meaning]⟩

/-- A value is read as a text exactly if it means that text. -/
theorem readText_phrase (wanted : String) (gap : Gap) (p : Phrase) (rest text rest' : List Char) :
    readText wanted (gap.val ++ (p.spelling ++ rest)) = .ok (text, rest') ↔
      p.meaning = .text (text.flatMap utf16) ∧ rest' = rest := by
  obtain ⟨c, cs, hc, hbegins⟩ := p.exists_spelling
  rw [readText, dropBlank_phrase gap hc hbegins]
  rcases p.text_or_not with ⟨glyphs, rfl⟩ | ⟨hquote, hmeaning⟩
  · obtain ⟨rfl, rfl⟩ : '"' = c ∧ glyphs.flatMap Glyph.spelling ++ ['"'] = cs := List.cons.inj hc
    rw [List.append_assoc, Phrase.meaning, Meaning.text.injEq]
    exact readString_glyphs glyphs rest text rest'
  · refine iff_of_false ?_ fun h => hmeaning _ h.1
    split
    · simp
    · next heq =>
      obtain rfl := (List.cons.inj heq).1
      exact absurd hbegins hquote
    · simp

/-- A value is read as an integer of the record exactly if it means that integer. -/
theorem readLong_phrase (gap : Gap) (p : Phrase) {rest : List Char} (h : EndsInteger rest) (z : Long)
    (rest' : List Char) : readLong (gap.val ++ (p.spelling ++ rest)) = .ok (z, rest') ↔
      p.meaning = .integer z.val ∧ rest' = rest := by
  obtain ⟨c, cs, hc, hbegins⟩ := p.exists_spelling
  rw [readLong, dropBlank_phrase gap hc hbegins]
  rcases p.number_or_not with ⟨n, rfl⟩ | ⟨hfirst, hmeaning⟩
  · have hread := readNumber_spelling n h z rest'
    have hmeaning : (Phrase.number n).meaning = .integer z.val ↔ n.integer? = some z.val := by
      cases hz : n.integer? <;> simp [Phrase.meaning, hz]
    rw [hmeaning, ← hread]
    rw [Phrase.spelling, Numeral.spelling] at hc
    cases hsign : n.negative with
    | true =>
      obtain ⟨rfl, rfl⟩ : '-' = c ∧ Decimal.renderNat n.whole ++ n.tail = cs := by simpa [hsign] using hc
      rw [List.append_assoc]
      exact Iff.rfl
    | false =>
      obtain ⟨d, ds, hd, hdigit, -⟩ := Decimal.exists_renderNat n.whole
      obtain ⟨rfl, rfl⟩ : d = c ∧ ds ++ n.tail = cs := by simpa [hsign, hd] using hc
      have hminus : d ≠ '-' := Decimal.ne_of_isDigit hdigit rfl
      rw [hd, List.append_assoc, List.cons_append]
      split
      · simp_all
      · next heq => exact absurd (List.cons.inj heq).1 hminus
      · next heq =>
        obtain ⟨rfl, rfl⟩ := List.cons.inj heq
        rw [if_pos hdigit]
  · obtain ⟨hminus, hdigit⟩ := hfirst c hbegins
    refine iff_of_false ?_ fun h => hmeaning _ h.1
    simp [hdigit]

/-! ## Drafts -/

/-- What the values of a draft mean: for each setting one meaning, or none. -/
def Meaning.ofDraft (d : Draft) : Setting → List Meaning
  | .templateFile => (d.templateFile.map ofText).toList
  | .initImage => (d.initImage.map ofText).toList
  | .deliveryImage => (d.deliveryImage.map ofText).toList
  | .maxTries => (d.maxTries.map fun n => integer n.val).toList

theorem ofText_injective {s t : String} (h : Meaning.ofText s = Meaning.ofText t) : s = t :=
  String.toList_inj.1 (flatMap_utf16_inj (Meaning.text.inj h))

theorem ofDraft_eq_nil {d : Draft} {s : Setting} : Meaning.ofDraft d s = [] ↔ d.has s = false := by
  cases s <;> simp [Meaning.ofDraft, Draft.has]

theorem ofDraft_fill (r : Record) (d : Draft) (s t : Setting) :
    Meaning.ofDraft (d.fill r s) t = if s = t then [Meaning.ofRecord r t] else Meaning.ofDraft d t := by
  cases s <;> cases t <;> simp [Meaning.ofDraft, Meaning.ofRecord, Draft.fill]

/-- A draft is complete exactly if it has one value for each setting, and then it is that record. -/
theorem complete_iff {d : Draft} {r : Record} :
    d.complete = .ok r ↔ ∀ s, Meaning.ofDraft d s = [Meaning.ofRecord r s] := by
  constructor
  · intro h s
    unfold Draft.complete at h
    split at h
    · simp at h
    · simp at h
    · simp at h
    · simp at h
    · next htemplate hinit hdelivery htries =>
      obtain rfl := Except.ok.inj h
      cases s <;> simp [Meaning.ofDraft, Meaning.ofRecord, htemplate, hinit, hdelivery, htries]
  · intro h
    have htext {o : Option String} {t : String} (ho : (o.map Meaning.ofText).toList = [Meaning.ofText t]) :
        o = some t := by
      cases o with
      | none => simp at ho
      | some u => rw [ofText_injective (List.singleton_inj.1 ho)]
    have htemplate := htext (h .templateFile)
    have hinit := htext (h .initImage)
    have hdelivery := htext (h .deliveryImage)
    have htries : d.maxTries = some r.maxTries := by
      have hz := h .maxTries
      cases hn : d.maxTries with
      | none => simp [Meaning.ofDraft, hn] at hz
      | some n => simpa [Meaning.ofDraft, Meaning.ofRecord, hn, Subtype.ext_iff] using hz
    simp [Draft.complete, htemplate, hinit, hdelivery, htries]

section Settings

variable {s : Setting} {d d' : Draft} {p : Phrase} {rest rest' : List Char}

/-- What is read into a draft is what the value means. -/
theorem ofDraft_of_readSetting (gap : Gap) (hrest : EndsInteger rest)
    (h : readSetting s d (gap.val ++ (p.spelling ++ rest)) = .ok (d', rest')) :
    rest' = rest ∧ ∀ t, Meaning.ofDraft d' t = if s = t then [p.meaning] else Meaning.ofDraft d t := by
  have htext := readText_phrase "a string" gap p rest
  have hlong := readLong_phrase gap p hrest
  cases s with
  | maxTries =>
    cases hread : readLong (gap.val ++ (p.spelling ++ rest)) with
    | error e => simp [readSetting, hread] at h
    | ok read =>
      obtain ⟨hmeaning, hrest'⟩ := (hlong read.1 read.2).1 hread
      obtain ⟨rfl, rfl⟩ : _ = d' ∧ read.2 = rest' := by simpa [readSetting, hread] using h
      exact ⟨hrest', fun t => by cases t <;> simp [Meaning.ofDraft, hmeaning]⟩
  | _ =>
    cases hread : readText "a string" (gap.val ++ (p.spelling ++ rest)) with
    | error e => simp [readSetting, hread] at h
    | ok read =>
      obtain ⟨hmeaning, hrest'⟩ := (htext read.1 read.2).1 hread
      obtain ⟨rfl, rfl⟩ : _ = d' ∧ read.2 = rest' := by simpa [readSetting, hread] using h
      exact ⟨hrest', fun t => by cases t <;> simp [Meaning.ofDraft, Meaning.ofText, hmeaning]⟩

/-- A value that means that of a record is read into a draft. -/
theorem readSetting_of_meaning {r : Record} (hp : p.meaning = Meaning.ofRecord r s) (d : Draft) (gap : Gap)
    (hrest : EndsInteger rest) : readSetting s d (gap.val ++ (p.spelling ++ rest)) = .ok (d.fill r s, rest) := by
  have htext (t : String) (ht : p.meaning = Meaning.ofText t) :
      readText "a string" (gap.val ++ (p.spelling ++ rest)) = .ok (t.toList, rest) :=
    (readText_phrase "a string" gap p rest t.toList rest).2 ⟨ht, rfl⟩
  cases s with
  | maxTries =>
    have hlong := (readLong_phrase gap p hrest r.maxTries rest).2 ⟨hp, rfl⟩
    simp only [readSetting, hlong, Draft.fill]
  | _ => simp only [readSetting, htext _ hp, String.ofList_toList, Draft.fill]

end Settings

end StartupConfig.Json
