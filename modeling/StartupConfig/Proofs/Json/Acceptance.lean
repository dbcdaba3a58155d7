import StartupConfig.Proofs.Json.Setting
import StartupConfig.Proofs.Json.Skip
import StartupConfig.Proofs.Json.Value

/-!
# The JSON texts of a record

A text holds a record if it names each setting once with the value of the record, in any order and among other members,
or if it is the list of the four values. Members are read one by one into a draft; what the draft has of a setting,
together with the values that are still to come, must be the one value of the record. So a text of the grammar is
decoded as a record exactly if it holds that record.
-/
namespace StartupConfig.Json

/-! ## What a text holds -/

/-- A member of a record, with its name in front. -/
abbrev Member := Placed (List Glyph) × Placed Phrase

namespace Phrase

/-- The values of the members that are named for a setting. -/
def valuesOf (s : Setting) (members : List Member) : List Meaning :=
  (members.filter fun m => Glyph.Denotes m.1.value s.field.toList).map fun m => m.2.value.meaning

/-- A phrase holds a record: each setting is named once, or the values stand in a list in order. -/
def Holds (r : Record) : Phrase → Prop
  | .record _ members => ∀ s, valuesOf s members = [Meaning.ofRecord r s]
  | .list _ items => items.map (fun i => i.value.meaning) = Setting.all.map (Meaning.ofRecord r)
  | _ => False

/-- Two phrases agree on the settings, however they are spelled and whatever else stands in them. -/
def Agrees : Phrase → Phrase → Prop
  | .record _ members, .record _ members' => ∀ s, (valuesOf s members).Perm (valuesOf s members')
  | .list _ items, .list _ items' => items.map (fun i => i.value.meaning) = items'.map (fun i => i.value.meaning)
  | _, _ => False

/-- No half of a pair stands alone in the names of the outermost members. -/
def IsPaired : Phrase → Prop
  | .record _ members => ∀ m ∈ members, ∃ name, Glyph.Denotes m.1.value name
  | _ => True

end Phrase

/-! ## Members -/

theorem field_injective {s t : Setting} (h : s.field.toList = t.field.toList) : s = t := by
  have hs := Setting.ofField?_field s
  rw [h, Setting.ofField?_field] at hs
  exact (Option.some.inj hs).symm

theorem field_of_ofField? {name : List Char} {s : Setting} (h : Setting.ofField? (String.ofList name) = some s) :
    name = s.field.toList := by
  have hfield := List.find?_some h
  rw [beq_iff_eq] at hfield
  rw [hfield, String.toList_ofList]

/-- A member gives its value to the setting that its name denotes. -/
theorem valuesOf_cons {m : Member} {name : List Char} (h : Glyph.Denotes m.1.value name)
    (s : Setting) (members : List Member) : Phrase.valuesOf s (m :: members)
      = (if name = s.field.toList then [m.2.value.meaning] else []) ++ Phrase.valuesOf s members := by
  have hname : Glyph.Denotes m.1.value s.field.toList ↔ name = s.field.toList := by
    rw [Glyph.Denotes, h]
    exact ⟨flatMap_utf16_inj, congrArg _⟩
  by_cases hs : name = s.field.toList
  · simp [Phrase.valuesOf, hname.2 hs, hs]
  · simp [Phrase.valuesOf, mt hname.1 hs, hs]

theorem readColon_gap (gap : Gap) (cs : List Char) : readColon (gap.val ++ ':' :: cs) = .ok cs := by
  rw [readColon, dropBlank_append gap.isBlank]
  rfl

/-- The name of a member is read as the text that it denotes. -/
theorem nextName_member (isFirst : Bool) (gap gap' : Gap) {glyphs : List Glyph} {name : List Char}
    (h : Glyph.Denotes glyphs name) (rest : List Char) :
    nextName isFirst (gap.val ++ (comma isFirst ++ (gap'.val ++ (Glyph.quoted glyphs ++ rest))))
      = .ok (some name, rest) := by
  have hquoted : Glyph.quoted glyphs ++ rest = '"' :: (glyphs.flatMap Glyph.spelling ++ '"' :: rest) := by
    simp [Glyph.quoted]
  have hname : readName (Glyph.quoted glyphs ++ rest) = .ok (some name, rest) := by
    rw [hquoted, readName, (readString_glyphs glyphs rest name rest).2 ⟨h, rfl⟩]
  have hblank : dropBlank (gap'.val ++ (Glyph.quoted glyphs ++ rest)) = Glyph.quoted glyphs ++ rest :=
    gap'.dropBlank_cons rfl _
  cases isFirst with
  | true =>
    have hfirst : dropBlank (gap.val ++ (gap'.val ++ (Glyph.quoted glyphs ++ rest))) = Glyph.quoted glyphs ++ rest := by
      rw [dropBlank_append gap.isBlank, hblank]
    rw [comma, if_pos rfl, List.nil_append, nextName, hfirst, ← hname]
    simp [hquoted]
  | false =>
    have hcomma : dropBlank (gap.val ++ ',' :: (gap'.val ++ (Glyph.quoted glyphs ++ rest)))
        = ',' :: (gap'.val ++ (Glyph.quoted glyphs ++ rest)) := gap.dropBlank_cons rfl _
    rw [comma, if_neg (by decide), List.singleton_append, nextName, hcomma]
    simp [hblank, hname]

/-- A member of no setting is passed over. -/
theorem readMember_other {name : List Char} (hname : Setting.ofField? (String.ofList name) = none) (d : Draft)
    (gap gap' : Gap) (p : Phrase) (hrest : EndsInteger rest) :
    readMember name d (gap.val ++ ':' :: (gap'.val ++ (p.spelling ++ rest))) = .ok (d, rest) := by
  simp only [readMember, hname, readColon_gap, Except.bind, skipValue_spelling gap' p hrest]

section Field

variable {s : Setting} {d d' : Draft} {p : Phrase} {rest rest' : List Char}

theorem readMember_field (s : Setting) (d : Draft) (gap : Gap) (cs : List Char) :
    readMember s.field.toList d (gap.val ++ ':' :: cs) =
      if d.has s then .error (inRecord (.repeatedField s.field) (gap.val ++ ':' :: cs)) else readSetting s d cs := by
  simp only [readMember, Setting.ofField?_field, readColon_gap, Except.bind]

/-- A member of a setting is read only into a draft that lacks the setting, and then the draft has what it means. -/
theorem ofDraft_of_readMember (gap gap' : Gap) (hrest : EndsInteger rest)
    (h : readMember s.field.toList d (gap.val ++ ':' :: (gap'.val ++ (p.spelling ++ rest))) = .ok (d', rest')) :
    rest' = rest ∧ Meaning.ofDraft d s = [] ∧
      ∀ t, Meaning.ofDraft d' t = if s = t then [p.meaning] else Meaning.ofDraft d t := by
  rw [readMember_field] at h
  cases hd : d.has s with
  | true => simp [hd] at h
  | false =>
    rw [hd, if_neg (by decide)] at h
    obtain ⟨hrest', hgiven⟩ := ofDraft_of_readSetting gap' hrest h
    exact ⟨hrest', ofDraft_eq_nil.2 hd, hgiven⟩

/-- A member that means the value of a record is read into a draft that lacks it. -/
theorem readMember_of_meaning {r : Record} (hp : p.meaning = Meaning.ofRecord r s) (hd : Meaning.ofDraft d s = [])
    (gap gap' : Gap) (hrest : EndsInteger rest) :
    readMember s.field.toList d (gap.val ++ ':' :: (gap'.val ++ (p.spelling ++ rest))) = .ok (d.fill r s, rest) := by
  rw [readMember_field, ofDraft_eq_nil.1 hd, if_neg (by decide)]
  exact readSetting_of_meaning hp d gap' hrest

end Field

/-- The members that are left are read as a record exactly if they add to what the draft has the one value of each
setting that it lacks. -/
def ReadsRecord (members : List Member) : Prop :=
  ∀ (isFirst : Bool) (d : Draft) (gap : Gap) (rest : List Char) (r : Record) (rest' : List Char),
    readMembers isFirst d (gap.val ++ (row isFirst (Phrase.memberSpellings members) ++ '}' :: rest)) = .ok (r, rest') ↔
      (∀ s, Meaning.ofDraft d s ++ Phrase.valuesOf s members = [Meaning.ofRecord r s]) ∧ rest' = rest

theorem readsRecord_nil : ReadsRecord [] := by
  intro isFirst d gap rest r rest'
  have hend := nextName_end gap.isBlank isFirst rest
  simp only [Phrase.memberSpellings, row_nil, List.nil_append, Phrase.valuesOf, List.filter_nil, List.map_nil,
    List.append_nil]
  rw [← complete_iff, readMembers_end hend]
  cases d.complete with
  | ok r' => simp [eq_comm]
  | error s => simp

theorem readsRecord_other {m : Member} {members : List Member} {name : List Char}
    (hm : Glyph.Denotes m.1.value name) (hname : Setting.ofField? (String.ofList name) = none)
    (h : ReadsRecord members) : ReadsRecord (m :: members) := by
  intro isFirst d gap rest r rest'
  have hvalues (s : Setting) : Phrase.valuesOf s (m :: members) = Phrase.valuesOf s members := by
    rw [valuesOf_cons hm, if_neg, List.nil_append]
    rintro rfl
    rw [Setting.ofField?_field] at hname
    exact absurd hname (by simp)
  simp only [hvalues]
  obtain ⟨⟨before, glyphs, behind⟩, ⟨before', p, after⟩⟩ := m
  have hends := endsInteger_row (.inr rfl) after (Phrase.memberSpellings members) rest
  simp only [Phrase.memberSpellings, row_cons, List.append_assoc, List.cons_append]
  rw [readMembers_name (nextName_member isFirst gap before hm _), readMember_other hname d behind before' p hends]
  exact h false d after rest r rest'

/-- A member of a setting must be the only one, and mean a value that a record can have there. -/
theorem readsRecord_field {m : Member} {members : List Member} {s : Setting}
    (hm : Glyph.Denotes m.1.value s.field.toList) (h : ReadsRecord members) : ReadsRecord (m :: members) := by
  intro isFirst d gap rest r rest'
  have hvalues (t : Setting) : Phrase.valuesOf t (m :: members)
      = (if s = t then [m.2.value.meaning] else []) ++ Phrase.valuesOf t members := by
    have hst : s.field.toList = t.field.toList ↔ s = t := ⟨field_injective, fun hst => hst ▸ rfl⟩
    rw [valuesOf_cons hm]
    simp only [hst]
  simp only [hvalues]
  obtain ⟨⟨before, glyphs, behind⟩, ⟨before', p, after⟩⟩ := m
  have hends := endsInteger_row (.inr rfl) after (Phrase.memberSpellings members) rest
  have hothers (d : Draft) := h false d after rest r rest'
  simp only [Phrase.memberSpellings, row_cons, List.append_assoc, List.cons_append]
  -- The member is read before the rest is looked at, and what it leaves is the rest as it was.
  generalize after.val ++ (row false (Phrase.memberSpellings members) ++ '}' :: rest) = more at hends hothers ⊢
  rw [readMembers_name (nextName_member isFirst gap before hm _)]
  constructor
  · intro hread
    cases hmember : readMember s.field.toList d (behind.val ++ ':' :: (before'.val ++ (p.spelling ++ more))) with
    | error e => simp [hmember, Except.bind] at hread
    | ok read =>
      obtain ⟨d', more'⟩ := read
      obtain ⟨rfl, hnone, hgiven⟩ := ofDraft_of_readMember behind before' hends hmember
      rw [hmember, Except.bind, hothers] at hread
      refine ⟨fun t => ?_, hread.2⟩
      rw [← hread.1 t, hgiven t]
      by_cases hst : s = t
      · obtain rfl := hst
        simp [hnone]
      · simp [hst]
  · rintro ⟨hgiven, hrest⟩
    obtain ⟨hnone, hmeaning, hlater⟩ : Meaning.ofDraft d s = [] ∧ p.meaning = Meaning.ofRecord r s
        ∧ Phrase.valuesOf s members = [] := by
      have hself := hgiven s
      rw [if_pos rfl, List.append_eq_singleton_iff] at hself
      simpa using hself
    rw [readMember_of_meaning hmeaning hnone behind before' hends, Except.bind, hothers]
    refine ⟨fun t => ?_, hrest⟩
    rw [ofDraft_fill]
    by_cases hst : s = t
    · obtain rfl := hst
      simp [hlater]
    · simpa [hst] using hgiven t

/-- Members with meaningful names are read as the records that they give. -/
theorem readsRecord {members : List Member} (h : ∀ m ∈ members, ∃ name, Glyph.Denotes m.1.value name) :
    ReadsRecord members := by
  induction members with
  | nil => exact readsRecord_nil
  | cons m members ih =>
    have hmembers := ih fun m' hm' => h m' (by simp [hm'])
    obtain ⟨name, hname⟩ := h m (by simp)
    cases hsetting : Setting.ofField? (String.ofList name) with
    | none => exact readsRecord_other hname hsetting hmembers
    | some s => exact readsRecord_field (field_of_ofField? hsetting ▸ hname) hmembers

/-! ## Items -/

section Items

variable {role : Role} {ss : List Setting} {s : Setting} {d d' : Draft} {p : Phrase} {items : List (Placed Phrase)}
  {rest rest' : List Char}

theorem nextItem_phrase (isFirst : Bool) (gap gap' : Gap) (p : Phrase) (rest : List Char) :
    nextItem isFirst (gap.val ++ (comma isFirst ++ (gap'.val ++ (p.spelling ++ rest))))
      = .ok (true, p.spelling ++ rest) := by
  obtain ⟨c, cs, hc, hbegins⟩ := p.exists_spelling
  obtain ⟨hblank, hclose⟩ := hbegins.not_blank
  have hitem := dropBlank_phrase gap' hc hbegins rest
  rw [hc, List.cons_append] at hitem ⊢
  cases isFirst with
  | true =>
    rw [comma, if_pos rfl, List.nil_append, nextItem, dropBlank_append gap.isBlank, hitem]
    simp
  | false =>
    rw [comma, if_neg (by decide), List.singleton_append, nextItem, gap.dropBlank_cons rfl]
    simp [hitem, hclose]

/-- Is the first setting read next? -/
def isStart (ss : List Setting) : Bool := Setting.all.length - ss.length == 0

/-- What is left of a list where some settings are still to be read. -/
def restOf (ss : List Setting) (items : List (Placed Phrase)) (rest : List Char) : List Char :=
  row (isStart ss) (Phrase.itemSpellings items) ++ ']' :: rest

theorem isStart_tail (h : (s :: ss).length ≤ Setting.all.length) : isStart ss = false := by
  simp only [List.length_cons, isStart, beq_eq_false_iff_ne] at h ⊢
  omega

theorem restOf_nil (ss : List Setting) (rest : List Char) : restOf ss [] rest = ']' :: rest := by
  rw [restOf, Phrase.itemSpellings, row_nil, List.nil_append]

theorem restOf_cons (h : (s :: ss).length ≤ Setting.all.length) (before after : Gap) (p : Phrase)
    (items : List (Placed Phrase)) (rest : List Char) : restOf (s :: ss) (⟨before, p, after⟩ :: items) rest
      = comma (isStart (s :: ss)) ++ (before.val ++ (p.spelling ++ (after.val ++ restOf ss items rest))) := by
  simp only [restOf, Phrase.itemSpellings, row_cons, isStart_tail h, List.append_assoc]

theorem endsInteger_restOf (h : (s :: ss).length ≤ Setting.all.length) (gap : Gap) (items : List (Placed Phrase))
    (rest : List Char) : EndsInteger (gap.val ++ restOf ss items rest) := by
  rw [restOf, isStart_tail h]
  exact endsInteger_row (.inl rfl) gap (Phrase.itemSpellings items) rest

/-- An item is read as the value of the setting whose turn it is. -/
theorem readItems_item (role : Role) (h : (s :: ss).length ≤ Setting.all.length) (d : Draft) (gap before after : Gap)
    (p : Phrase) (items : List (Placed Phrase)) (rest : List Char) :
    readItems role (s :: ss) d (gap.val ++ restOf (s :: ss) (⟨before, p, after⟩ :: items) rest)
      = (readSetting s d (p.spelling ++ (after.val ++ restOf ss items rest))).bind
        fun read => readItems role ss read.1 read.2 := by
  have hnext := nextItem_phrase (isStart (s :: ss)) gap before p (after.val ++ restOf ss items rest)
  rw [← restOf_cons h] at hnext
  rw [readItems]
  unfold isStart at hnext
  simp only [hnext]
  cases readSetting s d (p.spelling ++ (after.val ++ restOf ss items rest)) <;> rfl

/-- A list may not end before its last setting. -/
theorem readItems_end (role : Role) (s : Setting) (ss : List Setting) (d : Draft) (gap : Gap) (rest : List Char) :
    ∃ e, readItems role (s :: ss) d (gap.val ++ ']' :: rest) = .error e := by
  rw [readItems]
  simp [nextItem_end gap.isBlank]

theorem endList_end (gap : Gap) (rest : List Char) : endList (gap.val ++ ']' :: rest) = .ok rest := by
  rw [endList, dropBlank_append gap.isBlank]
  rfl

/-- Nor may it go on behind that. -/
theorem endList_item (gap : Gap) (i : Placed Phrase) (items : List (Placed Phrase)) (rest : List Char) :
    ∃ e, endList (gap.val ++ restOf [] (i :: items) rest) = .error e := by
  have hcomma : restOf [] (i :: items) rest = ',' :: (i.before.val ++ (i.value.spelling ++ i.after.val)
      ++ (Phrase.itemSpellings items).flatMap (',' :: ·) ++ ']' :: rest) := rfl
  rw [hcomma, endList, gap.dropBlank_cons rfl]
  simp only
  split <;> simp

/-- What is read from the items is what they mean, one for each setting. -/
theorem ofDraft_of_readItems (hss : ss.Nodup) (hlength : ss.length ≤ Setting.all.length) (gap : Gap)
    (h : readItems role ss d (gap.val ++ restOf ss items rest) = .ok (d', rest')) :
    rest' = rest ∧ ss.flatMap (Meaning.ofDraft d') = items.map (fun i => i.value.meaning) ∧
      ∀ t ∉ ss, Meaning.ofDraft d' t = Meaning.ofDraft d t := by
  induction ss generalizing d gap items with
  | nil =>
    cases items with
    | nil =>
      obtain ⟨rfl, rfl⟩ : d = d' ∧ rest = rest' := by simpa [readItems, restOf_nil, endList_end] using h
      simp
    | cons i items =>
      obtain ⟨e, he⟩ := endList_item gap i items rest
      rw [readItems, he] at h
      simp at h
  | cons s ss ih =>
    obtain ⟨hs, hss⟩ := List.nodup_cons.1 hss
    cases items with
    | nil =>
      obtain ⟨e, he⟩ := readItems_end role s ss d gap rest
      rw [restOf_nil, he] at h
      simp at h
    | cons i items =>
      obtain ⟨before, p, after⟩ := i
      have hends := endsInteger_restOf hlength after items rest
      rw [readItems_item role hlength] at h
      cases hread : readSetting s d (p.spelling ++ (after.val ++ restOf ss items rest)) with
      | error e => simp [hread, Except.bind] at h
      | ok read =>
        obtain ⟨d₁, rest₁⟩ := read
        obtain ⟨rfl, hgiven⟩ := ofDraft_of_readSetting ⟨[], rfl⟩ hends hread
        rw [hread, Except.bind] at h
        obtain ⟨hrest, hitems, hothers⟩ := ih hss (Nat.le_of_succ_le hlength) after h
        refine ⟨hrest, ?_, ?_⟩
        · rw [List.flatMap_cons, List.map_cons, hitems, hothers s hs, hgiven s, if_pos rfl, List.singleton_append]
        · intro t ht
          rw [List.mem_cons, not_or] at ht
          rw [hothers t ht.2, hgiven t, if_neg (Ne.symm ht.1)]

/-- Items that mean the values of a record are read as them. -/
theorem readItems_of_meaning {r : Record} (hlength : ss.length ≤ Setting.all.length)
    (h : items.map (fun i => i.value.meaning) = ss.map (Meaning.ofRecord r)) (d : Draft) (gap : Gap)
    (rest : List Char) :
    readItems role ss d (gap.val ++ restOf ss items rest) = .ok (ss.foldl (Draft.fill r) d, rest) := by
  induction ss generalizing d gap items with
  | nil =>
    obtain rfl : items = [] := by simpa using h
    simp [readItems, restOf_nil, endList_end]
  | cons s ss ih =>
    cases items with
    | nil => simp at h
    | cons i items =>
      obtain ⟨before, p, after⟩ := i
      obtain ⟨hp, hitems⟩ : p.meaning = Meaning.ofRecord r s ∧ _ := List.cons.inj h
      have hends := endsInteger_restOf hlength after items rest
      have hread := readSetting_of_meaning hp d ⟨[], rfl⟩ hends
      rw [List.nil_append] at hread
      rw [readItems_item role hlength, hread, Except.bind, List.foldl_cons]
      exact ih (Nat.le_of_succ_le hlength) hitems (d.fill r s) after

end Items

/-! ## Texts -/

/-- A list is read as the record whose values its items mean. -/
theorem readRecord_list (role : Role) (gap gap' : Gap) (items : List (Placed Phrase)) (rest : List Char) (r : Record)
    (rest' : List Char) : readRecord role (gap.val ++ ((Phrase.list gap' items).spelling ++ rest)) = .ok (r, rest') ↔
      (Phrase.list gap' items).Holds r ∧ rest' = rest := by
  have hspelling : (Phrase.list gap' items).spelling ++ rest
      = '[' :: (gap'.val ++ restOf Setting.all items rest) := by
    simp [Phrase.spelling, restOf, row, isStart]
  rw [hspelling, readRecord, gap.dropBlank_cons rfl]
  simp only
  constructor
  · intro h
    cases hread : readItems role Setting.all .empty (gap'.val ++ restOf Setting.all items rest) with
    | error e => simp [hread] at h
    | ok read =>
      obtain ⟨d, rest₁⟩ := read
      obtain ⟨rfl, hitems, -⟩ := ofDraft_of_readItems (by decide) (Nat.le_refl _) gap' hread
      cases hd : d.complete with
      | error s => simp [hread, hd] at h
      | ok r' =>
        obtain ⟨rfl, rfl⟩ : r' = r ∧ rest₁ = rest' := by simpa [hread, hd] using h
        refine ⟨?_, rfl⟩
        rw [funext (complete_iff.1 hd)] at hitems
        exact hitems.symm
  · rintro ⟨hitems, rfl⟩
    rw [readItems_of_meaning (Nat.le_refl _) hitems]
    simp only [Draft.complete_fill]

/-- A record is read as the record that its members give. -/
theorem readRecord_record (role : Role) (gap gap' : Gap) {members : List Member}
    (h : (Phrase.record gap' members).IsPaired) (rest : List Char) (r : Record) (rest' : List Char) :
    readRecord role (gap.val ++ ((Phrase.record gap' members).spelling ++ rest)) = .ok (r, rest') ↔
      (Phrase.record gap' members).Holds r ∧ rest' = rest := by
  have hspelling : (Phrase.record gap' members).spelling ++ rest
      = '{' :: (gap'.val ++ (row true (Phrase.memberSpellings members) ++ '}' :: rest)) := by
    simp [Phrase.spelling, row]
  rw [hspelling, readRecord, gap.dropBlank_cons rfl]
  have hnone (s : Setting) : Meaning.ofDraft .empty s = [] := by cases s <;> rfl
  have hmembers := readsRecord h true .empty gap' rest r rest'
  simp only [hnone, List.nil_append] at hmembers
  exact hmembers

/-- Nothing else is read as a record. -/
theorem readRecord_other (role : Role) (gap : Gap) {p : Phrase} (hlist : ¬p.Begins '[') (hrecord : ¬p.Begins '{')
    (rest : List Char) : ∃ e, readRecord role (gap.val ++ (p.spelling ++ rest)) = .error e := by
  obtain ⟨c, cs, hc, hbegins⟩ := p.exists_spelling
  rw [readRecord, dropBlank_phrase gap hc hbegins]
  split
  · simp
  · next heq => exact absurd ((List.cons.inj heq).1 ▸ hbegins) hlist
  · next heq => exact absurd ((List.cons.inj heq).1 ▸ hbegins) hrecord
  · simp

theorem readRecord_phrase (role : Role) (gap : Gap) {p : Phrase} (hp : p.IsPaired) (rest : List Char) (r : Record)
    (rest' : List Char) :
    readRecord role (gap.val ++ (p.spelling ++ rest)) = .ok (r, rest') ↔ p.Holds r ∧ rest' = rest := by
  have hother (hlist : ¬p.Begins '[') (hrecord : ¬p.Begins '{') (hholds : ¬p.Holds r) :
      readRecord role (gap.val ++ (p.spelling ++ rest)) = .ok (r, rest') ↔ p.Holds r ∧ rest' = rest := by
    obtain ⟨e, he⟩ := readRecord_other role gap hlist hrecord rest
    simp [he, hholds]
  cases p with
  | list gap' items => exact readRecord_list role gap gap' items rest r rest'
  | record gap' members => exact readRecord_record role gap gap' hp rest r rest'
  | flag value => exact hother (by cases value <;> simp [Phrase.Begins]) (by cases value <;> simp [Phrase.Begins]) id
  | _ => exact hother (by simp [Phrase.Begins]) (by simp [Phrase.Begins]) id

theorem decode_eq_ok_iff {α : Type} {read : List Char → Except Stop (α × List Char)} {text : String} {a : α} :
    decode read text = .ok a ↔ readWhole read text.toList = .ok a := by
  rw [decode]
  cases readWhole read text.toList with
  | error e => constructor <;> (intro h; cases h)
  | ok b => exact ⟨fun h => congrArg Except.ok (Except.ok.inj h), fun h => congrArg Except.ok (Except.ok.inj h)⟩

/-- Whatever is refused is refused as JSON. -/
theorem decode_error {α : Type} {read : List Char → Except Stop (α × List Char)} {text : String} {fault : Fault}
    (h : decode read text = .error fault) : ∃ cause, fault = .json cause := by
  rw [decode] at h
  cases hread : readWhole read text.toList with
  | error e =>
    rw [hread] at h
    exact ⟨_, (Except.error.inj h).symm⟩
  | ok a =>
    rw [hread] at h
    cases h

/-- A text of the grammar is decoded as a record exactly if it holds the record. -/
theorem decodeRecord_iff (role : Role) {t : Placed Phrase} (h : t.value.IsPaired) (r : Record) :
    decodeRecord role t.text = .ok r ↔ t.value.Holds r := by
  have hread := readRecord_phrase role t.before h t.after.val
  have hend : dropBlank t.after.val = [] := by
    rw [← List.append_nil t.after.val, dropBlank_append t.after.isBlank]
    rfl
  rw [decodeRecord, decode_eq_ok_iff, Placed.text, String.toList_ofList, readWhole]
  cases hr : readRecord role (t.before.val ++ (t.value.spelling ++ t.after.val)) with
  | error e =>
    refine iff_of_false (by simp) fun hholds => ?_
    rw [(hread r t.after.val).2 ⟨hholds, rfl⟩] at hr
    simp at hr
  | ok read =>
    obtain ⟨r', rest'⟩ := read
    obtain ⟨hholds, rfl⟩ := (hread r' rest').1 hr
    simp only [hend, Except.ok.injEq]
    constructor
    · rintro rfl
      exact hholds
    · intro hholds'
      rw [(hread r t.after.val).2 ⟨hholds', rfl⟩] at hr
      exact (Prod.mk.inj (Except.ok.inj hr)).1.symm

namespace Phrase

theorem Agrees.symm {p p' : Phrase} (h : p.Agrees p') : p'.Agrees p := by
  unfold Agrees at h
  split at h
  · exact fun s => (h s).symm
  · exact h.symm
  · exact h.elim

theorem Agrees.holds {p p' : Phrase} (h : p.Agrees p') {r : Record} (hholds : p.Holds r) : p'.Holds r := by
  unfold Agrees at h
  split at h
  · exact fun s => List.perm_singleton.1 (hholds s ▸ (h s).symm)
  · exact h.symm.trans hholds
  · exact h.elim

end Phrase

/-- A text of the grammar whose outermost names are meaningful is accepted exactly if it holds a record, in either role,
and is decoded as that record; any other is refused as JSON. What it is decoded as rests on the settings alone. -/
theorem decodeRecord_accepts_exactly (role : Role) (t : Placed Phrase) (h : t.value.IsPaired) :
    (∀ r, decodeRecord role t.text = .ok r ↔ t.value.Holds r) ∧
    ((¬∃ r, t.value.Holds r) →
      ∃ cause, decodeRecord role t.text = .error (.json cause) ∧ (Fault.json cause).exitCode.toNat = 2) ∧
    ∀ (role' : Role) (t' : Placed Phrase), t'.value.IsPaired → t.value.Agrees t'.value →
      ∀ r, decodeRecord role t.text = .ok r ↔ decodeRecord role' t'.text = .ok r := by
  refine ⟨decodeRecord_iff role h, ?_, ?_⟩
  · intro hnone
    cases hdecode : decodeRecord role t.text with
    | ok r => exact absurd ⟨r, (decodeRecord_iff role h r).1 hdecode⟩ hnone
    | error fault =>
      obtain ⟨cause, rfl⟩ := decode_error hdecode
      exact ⟨cause, rfl, rfl⟩
  · intro role' t' h' hagrees r
    rw [decodeRecord_iff role h, decodeRecord_iff role' h']
    exact ⟨hagrees.holds, hagrees.symm.holds⟩

/-- Members are out of order, with escapes in a name and a value and the least integer, and between them stand others
that are repeated and nested. -/
theorem decodeRecord_accepts_exactly_shuffled :
    let tight (p : Phrase) : Placed Phrase := ⟨⟨[], rfl⟩, p, ⟨[], rfl⟩⟩
    let spaced (p : Phrase) : Placed Phrase := ⟨⟨[' '], rfl⟩, p, ⟨['\n'], rfl⟩⟩
    let name (gs : List Glyph) : Placed (List Glyph) := ⟨⟨[], rfl⟩, gs, ⟨[' '], rfl⟩⟩
    let unit (w x y z : Fin 16) : Glyph := .unit ⟨w, false⟩ ⟨x, false⟩ ⟨y, false⟩ ⟨z, false⟩
    let half : Phrase := .number ⟨true, 0, some ⟨['0', '5'], by decide⟩, some ⟨true, some false, ⟨['1'], by decide⟩⟩⟩
    let a : Placed (List Glyph) := name (Glyph.ofText "a")
    let nested : Phrase := .record ⟨[], rfl⟩ [(a, tight half), (a, tight (.list ⟨[' '], rfl⟩ [tight .null]))]
    let t : Placed Phrase := spaced (.record ⟨[], rfl⟩
      [(name (Glyph.ofText "pytorch_init_container_" ++ unit 0 0 6 9 :: Glyph.ofText "mage"),
          tight (.text [unit 13 8 3 13, unit 13 14 0 0, .short .slash, .short .tab])),
        (a, spaced (.list ⟨[], rfl⟩ [tight nested, tight nested])),
        (name (Glyph.ofText "pytorch_init_container_max_tries"),
          tight (.number ⟨true, 9223372036854775808, none, none⟩)),
        (name (Glyph.ofText "mpi_kubectl_delivery_image"), tight (.text [])),
        (a, tight (.text [unit 13 8 0 0])),
        (name (Glyph.ofText "pytorch_init_container_template_file"), tight (.text (Glyph.ofText "t")))])
    t.text = " \x7b\"pytorch_init_container_\\u0069mage\" :\"\\ud83d\\ude00\\/\\t\","
      ++ "\"a\" : [\x7b\"a\" :-0.05E+1,\"a\" :[ null]\x7d,\x7b\"a\" :-0.05E+1,\"a\" :[ null]\x7d]\n,"
      ++ "\"pytorch_init_container_max_tries\" :-9223372036854775808,\"mpi_kubectl_delivery_image\" :\"\","
      ++ "\"a\" :\"\\ud800\",\"pytorch_init_container_template_file\" :\"t\"\x7d\n" ∧
    t.value.IsPaired ∧
    decodeRecord .defaults t.text = .ok ⟨"t", "😀/\t", "", ⟨-9223372036854775808, by decide⟩⟩ := by
  intro tight spaced name unit half a nested t
  have hpaired : t.value.IsPaired := by
    have hplain (text : String) : ∃ name, Glyph.Denotes (Glyph.ofText text) name :=
      ⟨text.toList, Glyph.denotes_ofText text⟩
    simp only [t, spaced, name, a, Phrase.IsPaired, List.forall_mem_cons, hplain, true_and]
    exact ⟨⟨Setting.initImage.field.toList, by decide +kernel⟩, List.forall_mem_nil _⟩
  refine ⟨by decide +kernel, hpaired, ((decodeRecord_accepts_exactly .defaults t hpaired).1 _).2 ?_⟩
  intro s
  cases s <;> decide +kernel

end StartupConfig.Json
