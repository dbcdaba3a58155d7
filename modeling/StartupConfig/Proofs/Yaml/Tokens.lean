import StartupConfig.Proofs.Yaml.Layout
import StartupConfig.Yaml.Printer

/-!
# The tokens of written trees

A written tree has the tokens that its shape tells. The end of a record is not written: the reader finds it on
the line of the next token. So a run may end with ends that are still owed, one for each collection that is open
behind the margin of the next line.
-/
namespace StartupConfig.Yaml

/-! ## Trees -/

mutual

/-- The signs of the tokens of a value. A list stands at the margin of its record, so nothing tells where it begins
and ends. -/
def valueSigns : Tree → List Sign
  | .text value => [.scalar (Scalar.style value.toList).form value.toList]
  | .integer value => [.scalar .plain (Decimal.render value)]
  | .flag value => [.scalar .plain (if value then "true" else "false").toList]
  | .list [] => [.flowList, .flowListEnd]
  | .list (t :: ts) => itemSigns (t :: ts)
  | .record ms => .blockRecord :: memberSigns ms ++ [.blockEnd]

/-- The signs of the tokens of items. -/
def itemSigns : List Tree → List Sign
  | [] => []
  | t :: ts => .item :: valueSigns t ++ itemSigns ts

/-- The signs of the tokens of members. -/
def memberSigns : List (String × Tree) → List Sign
  | [] => []
  | (name, t) :: ms => .key :: .scalar .plain name.toList :: .value :: valueSigns t ++ memberSigns ms

end

instance (s : List Char) : Decidable (Scalar.IsName s) :=
  decidable_of_iff (s ≠ [] ∧ s.all isWord ∧ s.head? ≠ some '-' ∧ s.length ≤ Candidate.reach)
    ⟨fun h => ⟨h.1, List.all_eq_true.1 h.2.1, h.2.2.1, h.2.2.2⟩,
      fun h => ⟨h.ne_nil, List.all_eq_true.2 h.isWord, h.head_ne, h.length_le⟩⟩

mutual

/-- The trees that are written here: records have members, whose names are words, and items are records. -/
def IsWritten : Tree → Prop
  | .text _ => True
  | .integer _ => True
  | .flag _ => True
  | .list ts => AreItems ts
  | .record ms => ms ≠ [] ∧ AreMembers ms

/-- Items are records. -/
def AreItems : List Tree → Prop
  | [] => True
  | .record ms :: ts => IsWritten (.record ms) ∧ AreItems ts
  | _ :: _ => False

/-- Names are words. -/
def AreMembers : List (String × Tree) → Prop
  | [] => True
  | (name, t) :: ms => Scalar.IsName name.toList ∧ IsWritten t ∧ AreMembers ms

end

/-! ## Written characters -/

theorem all_plain {s : List Char} (h : Scalar.IsPlain s) : s.all isPrintable := List.all_eq_true.2 h.printable

mutual

theorem all_writeValue (column : Nat) : (t : Tree) → IsWritten t → (writeValue column t).all isPrintable
  | .text value, _ => by
    have hspace : isPrintable ' ' := rfl
    simp only [writeValue, List.all_cons, hspace, Scalar.all_writeLine, Bool.and_self]
  | .integer value, _ => by
    have hspace : isPrintable ' ' ∧ isPrintable '\n' := ⟨rfl, rfl⟩
    simp [writeValue, hspace, all_plain (Scalar.isPlain_render value)]
  | .flag value, _ => by cases value <;> rfl
  | .list [], _ => rfl
  | .list (t :: ts), h => by
    have hitems := all_writeItems column (t :: ts) h
    have hbreak : isPrintable '\n' := rfl
    simp_all [writeValue, writeItems]
  | .record [], h => absurd rfl h.1
  | .record ((name, t) :: ms), h => by
    have hmembers := all_writeMembers (column + 2) ((name, t) :: ms) h.2
    have hbreak : isPrintable '\n' := rfl
    simp_all [writeValue, writeMembers]

theorem all_writeItems (column : Nat) : (ts : List Tree) → AreItems ts → (writeItems column ts).all isPrintable
  | [], _ => rfl
  | .record [] :: _, h => absurd rfl h.1.1
  | .record ((name, t) :: ms) :: ts, h => by
    have hvalue := all_writeValue (column + 2) t h.1.2.2.1
    have hmembers := all_writeMembers (column + 2) ms h.1.2.2.2
    have hitems := all_writeItems column ts h.2
    have hsigns : isPrintable '-' ∧ isPrintable ' ' ∧ isPrintable ':' := ⟨rfl, rfl, rfl⟩
    simp [writeItems, writeItem, Scalar.all_margin, all_plain h.1.2.1.isPlain, hsigns, hvalue, hmembers, hitems]

theorem all_writeMembers (column : Nat) : (ms : List (String × Tree)) → AreMembers ms →
    (writeMembers column ms).all isPrintable
  | [], _ => rfl
  | (name, t) :: ms, h => by
    have hvalue := all_writeValue column t h.2.1
    have hmembers := all_writeMembers column ms h.2.2
    have hcolon : isPrintable ':' := rfl
    simp [writeMembers, Scalar.all_margin, all_plain h.1.isPlain, hcolon, hvalue, hmembers]

end

/-! ## Runs that owe ends -/

namespace Layout

/-- A run from one reader to another, where the tokens that are handed on come to the given ones when the ends
that are owed are counted: `owed` of them before and `owed'` behind. -/
def Owes (s : Layout) (owed : Nat) (signs : List Sign) (s' : Layout) (owed' : Nat) : Prop :=
  ∃ emitted, Leads s emitted s' ∧
    emitted ++ List.replicate owed' .blockEnd = List.replicate owed .blockEnd ++ signs

theorem Owes.refl (s : Layout) (owed : Nat) : Owes s owed [] s owed := ⟨[], Leads.refl s, by simp⟩

theorem Owes.trans {s₁ s₂ s₃ : Layout} {o₁ o₂ o₃ : Nat} {as bs : List Sign} (h : Owes s₁ o₁ as s₂ o₂)
    (h' : Owes s₂ o₂ bs s₃ o₃) : Owes s₁ o₁ (as ++ bs) s₃ o₃ := by
  obtain ⟨emitted, hleads, heq⟩ := h
  obtain ⟨emitted', hleads', heq'⟩ := h'
  refine ⟨emitted ++ emitted', hleads.trans hleads', ?_⟩
  rw [List.append_assoc, heq', ← List.append_assoc, heq, List.append_assoc]

/-- The ends are handed on first, and none is owed behind them. -/
theorem Owes.of_leads {s s' : Layout} {owed : Nat} {signs : List Sign}
    (h : Leads s (List.replicate owed .blockEnd ++ signs) s') : Owes s owed signs s' 0 :=
  ⟨_, h, by simp⟩

/-- The end of a record is owed. -/
theorem Owes.close {s s' : Layout} {owed owed' : Nat} {signs : List Sign} (h : Owes s owed signs s' owed') :
    Owes s owed (signs ++ [.blockEnd]) s' (owed' + 1) := by
  obtain ⟨emitted, hleads, heq⟩ := h
  refine ⟨emitted, hleads, ?_⟩
  rw [List.replicate_succ', ← List.append_assoc, heq, List.append_assoc]

end Layout

/-! ## Lines -/

theorem isSolid_head_of_isName {name : List Char} (h : Scalar.IsName name) (rest : List Char) :
    ∀ c ∈ (name ++ rest).head?, isSolid c := by
  obtain ⟨c, cs, rfl⟩ := List.exists_cons_of_ne_nil h.ne_nil
  simpa using isSolid_of_isWord (h.isWord c (by simp))

/-- The line of the first of some members; without any, the line behind them. -/
def membersLine (column : Nat) (l : Line) : (ms : List (String × Tree)) → AreMembers ms → Line
  | [], _ => l
  | (name, t) :: ms, h =>
    { column
      rest := name.toList ++ ':' :: (writeValue column t ++ (writeMembers column ms ++ l.text))
      solid := isSolid_head_of_isName h.1 _
      column_eq_zero := by simp }

theorem membersLine_text (column : Nat) (l : Line) (ms : List (String × Tree)) (h : AreMembers ms) :
    (membersLine column l ms h).text = writeMembers column ms ++ l.text := by
  cases ms with
  | nil => rfl
  | cons m ms => simp [membersLine, Line.text, writeMembers]

theorem membersLine_column_le {column : Nat} {l : Line} (hl : l.column ≤ column) (ms : List (String × Tree))
    (h : AreMembers ms) : (membersLine column l ms h).column ≤ column := by
  cases ms with
  | nil => exact hl
  | cons m ms => exact Nat.le_refl column

/-- The line of the first of some items; without any, the line behind them. -/
def itemsLine (column : Nat) (l : Line) : List Tree → Line
  | [] => l
  | t :: ts =>
    { column
      rest := '-' :: ' ' :: (writeItem [] (column + 2) t ++ (writeItems column ts ++ l.text))
      solid := by simp [show isSolid '-' = true from rfl]
      column_eq_zero := by simp }

/-- A record begins behind the dash of its item as on a line of its own. -/
theorem writeItem_record (lead : List Char) (column : Nat) (l : Line) {ms : List (String × Tree)} (hne : ms ≠ [])
    (h : AreMembers ms) :
    writeItem lead column (.record ms) ++ l.text = lead ++ (membersLine column l ms h).rest := by
  obtain ⟨m, ms, rfl⟩ := List.exists_cons_of_ne_nil hne
  simp [membersLine, writeItem]

theorem itemsLine_text (column : Nat) (l : Line) {ts : List Tree} (h : AreItems ts) :
    (itemsLine column l ts).text = writeItems column ts ++ l.text := by
  match ts, h with
  | [], _ => rfl
  | .record ((name, t) :: ms) :: ts, h => simp [itemsLine, Line.text, writeItems, writeItem]

theorem itemsLine_column_le {column : Nat} {l : Line} (hl : l.column ≤ column) (ts : List Tree) :
    (itemsLine column l ts).column ≤ column := by
  cases ts with
  | nil => exact hl
  | cons t ts => exact Nat.le_refl column

/-! ## Runs over trees -/

namespace Layout

/-- Behind a dash and a space the reader is on the line of a record. -/
theorem comesTo_space (l : Line) {m : Mark} (h : m.column + 1 = l.column) :
    Cursor.ComesTo ⟨m, ' ' :: l.rest⟩ true l := by
  refine ⟨m.next, h, ?_⟩
  rw [← l.passSpace_rest m.next]
  simp [passSpace, isBreak, Mark.after, Mark.next]
  rfl

/-- A reader stands before a line. Inside the collections at `columns` others may be open, all further to the
right than `column`, whose ends are owed. -/
def Stands (column : Nat) (columns : List Nat) (l : Line) (owed : Nat) (s : Layout) : Prop :=
  ∃ (inner : List Nat) (c : Cursor) (keyAllowed : Bool) (n : Nat), s = resting c (inner ++ columns) keyAllowed n ∧
    owed = inner.length ∧ (∀ i ∈ inner, column < i) ∧ c.ComesTo keyAllowed l

theorem Stands.of_comesTo {c : Cursor} {keyAllowed : Bool} {l : Line} (h : c.ComesTo keyAllowed l)
    (column : Nat) (columns : List Nat) (n : Nat) : Stands column columns l 0 (resting c columns keyAllowed n) :=
  ⟨[], c, keyAllowed, n, rfl, rfl, by simp, h⟩

/-- Seen from further to the left the end of a collection is owed too. -/
theorem Stands.close {column column' : Nat} {columns : List Nat} {l : Line} {owed : Nat} {s : Layout}
    (h : Stands column (column :: columns) l owed s) (hlt : column' < column) :
    Stands column' columns l (owed + 1) s := by
  obtain ⟨inner, c, keyAllowed, n, rfl, rfl, hinner, hc⟩ := h
  refine ⟨inner ++ [column], c, keyAllowed, n, by simp, by simp, fun i hi => ?_, hc⟩
  rcases List.mem_append.1 hi with hi | hi
  · exact Nat.lt_trans hlt (hinner i hi)
  · obtain rfl : i = column := by simpa using hi
    exact hlt

/-- A run comes to a line, with the tokens of the given signs. -/
def Comes (s : Layout) (owed : Nat) (signs : List Sign) (column : Nat) (columns : List Nat) (l : Line) : Prop :=
  ∃ (s' : Layout) (owed' : Nat), Stands column columns l owed' s' ∧ Owes s owed signs s' owed'

/-- The reader goes over a value, up to the line behind it. -/
def ReadsValue (column : Nat) (t : Tree) : Prop :=
  ∀ {m : Mark} {l : Line}, column < m.column → l.column ≤ column → ∀ (outer : List Nat) (n : Nat),
    Comes (resting ⟨m, writeValue column t ++ l.text⟩ (column :: outer) false n) 0 (valueSigns t) column
      (column :: outer) l

/-- The reader goes over the members of a record after the first. -/
def ReadsMembers (column : Nat) (ms : List (String × Tree)) : Prop :=
  ∀ (h : AreMembers ms) {l : Line}, l.column ≤ column → ∀ {outer : List Nat} {s : Layout} {owed : Nat},
    Stands column (column :: outer) (membersLine column l ms h) owed s →
    Comes s owed (memberSigns ms) column (column :: outer) l

/-- The reader goes over the items of a list. -/
def ReadsItems (column : Nat) (ts : List Tree) : Prop :=
  ∀ {l : Line}, l.column ≤ column → ∀ {outer : List Nat} {s : Layout} {owed : Nat},
    Stands column (column :: outer) (itemsLine column l ts) owed s →
    Comes s owed (itemSigns ts) column (column :: outer) l

theorem isBlankOrEnd_writeValue (column : Nat) (t : Tree) (rest : List Char) :
    isBlankOrEnd (writeValue column t ++ rest).head? := by
  match t with
  | .text value => rfl
  | .integer value => rfl
  | .flag value => cases value <;> rfl
  | .list [] => rfl
  | .list (t :: ts) => rfl
  | .record [] => rfl
  | .record ((name, t) :: ms) => rfl

theorem exists_openColumns (column : Nat) (columns : List Nat) :
    ∃ outer, openColumns column columns = column :: outer := by
  by_cases h : columns.head? = some column
  · obtain ⟨outer, rfl⟩ := List.head?_eq_some_iff.1 h
    exact ⟨outer, if_pos h⟩
  · exact ⟨columns, if_neg h⟩

/-- The reader goes over the members of a record, the first of which may begin it. -/
theorem comes_members {column : Nat} {name : String} {t : Tree} {ms : List (String × Tree)}
    (ht : ReadsValue column t) (hms : ReadsMembers column ms) (h : AreMembers ((name, t) :: ms)) {l : Line}
    (hl : l.column ≤ column) {columns : List Nat} (houter : ∀ i ∈ columns.head?, i ≤ column) {s : Layout}
    {owed : Nat} (hs : Stands column columns (membersLine column l ((name, t) :: ms) h) owed s) :
    Comes s owed (openSigns column columns ++ memberSigns ((name, t) :: ms)) column (openColumns column columns)
      l := by
  obtain ⟨inner, c, keyAllowed, n, rfl, rfl, hinner, hc⟩ := hs
  obtain ⟨m, n', hm, hkey⟩ := leads_key h.1 (isBlankOrEnd_writeValue column t _) rfl hc hinner houter n
  obtain ⟨outer, hopen⟩ := exists_openColumns column columns
  have hline : (membersLine column l ((name, t) :: ms) h).column = column := rfl
  rw [hline, hopen, ← membersLine_text column l ms h.2.2] at hkey
  rw [hopen]
  obtain ⟨s₁, owed₁, hs₁, hvalue⟩ := ht hm (membersLine_column_le hl ms h.2.2) outer n'
  obtain ⟨s₂, owed₂, hs₂, hmembers⟩ := hms h.2.2 hl hs₁
  refine ⟨s₂, owed₂, hs₂, ?_⟩
  have howes := ((Owes.of_leads hkey).trans hvalue).trans hmembers
  simpa [memberSigns] using howes

theorem readsMembers_nil (column : Nat) : ReadsMembers column [] :=
  fun _ _ _ _ s owed hs => ⟨s, owed, hs, Owes.refl s owed⟩

theorem readsMembers_cons {column : Nat} {name : String} {t : Tree} {ms : List (String × Tree)}
    (ht : ReadsValue column t) (hms : ReadsMembers column ms) : ReadsMembers column ((name, t) :: ms) := by
  intro h l hl outer s owed hs
  have hcomes := comes_members ht hms h hl (show ∀ i ∈ (column :: outer).head?, i ≤ column by simp) hs
  simpa [openSigns, openColumns] using hcomes

/-- The reader goes over a record that begins further to the right than what is around it. -/
theorem comes_record {column column' : Nat} {name : String} {t : Tree} {ms : List (String × Tree)}
    (ht : ReadsValue column t) (hms : ReadsMembers column ms) (h : AreMembers ((name, t) :: ms)) {l : Line}
    (hl : l.column ≤ column) (hlt : column' < column) {outer : List Nat} {s : Layout} {owed : Nat}
    (hs : Stands column (column' :: outer) (membersLine column l ((name, t) :: ms) h) owed s) :
    Comes s owed (valueSigns (.record ((name, t) :: ms))) column' (column' :: outer) l := by
  have hne : column' ≠ column := Nat.ne_of_lt hlt
  obtain ⟨s', owed', hs', howes⟩ := comes_members ht hms h hl (by simpa using Nat.le_of_lt hlt) hs
  simp only [openSigns, openColumns, List.head?_cons, Option.some.injEq, hne, if_false] at hs' howes
  exact ⟨s', owed' + 1, hs'.close hlt, by simpa [valueSigns] using howes.close⟩

theorem readsItems_nil (column : Nat) : ReadsItems column [] :=
  fun _ _ s owed hs => ⟨s, owed, hs, Owes.refl s owed⟩

theorem readsItems_cons {column : Nat} {name : String} {t : Tree} {ms : List (String × Tree)} {ts : List Tree}
    (ht : ReadsValue (column + 2) t) (hms : ReadsMembers (column + 2) ms)
    (h : AreMembers ((name, t) :: ms)) (hitems : AreItems ts) (hts : ReadsItems column ts) :
    ReadsItems column (.record ((name, t) :: ms) :: ts) := by
  intro l hl outer s owed hs
  obtain ⟨inner, c, keyAllowed, n, rfl, rfl, hinner, hc⟩ := hs
  have hl' := itemsLine_column_le hl ts
  have hrest : (itemsLine column l (.record ((name, t) :: ms) :: ts)).rest
      = '-' :: ' ' :: (membersLine (column + 2) (itemsLine column l ts) ((name, t) :: ms) h).rest := by
    have hitem := writeItem_record [] (column + 2) (itemsLine column l ts) (List.cons_ne_nil _ _) h
    rw [List.nil_append] at hitem
    rw [← hitem, itemsLine_text column l hitems]
    rfl
  obtain ⟨m, n', hm, hdash⟩ := leads_item hrest hc hinner outer n
  have hline : (itemsLine column l (.record ((name, t) :: ms) :: ts)).column = column := rfl
  rw [hline] at hdash
  have hstands := Stands.of_comesTo (comesTo_space (membersLine (column + 2) (itemsLine column l ts) _ h)
    (congrArg (· + 1) hm)) (column + 2) (column :: outer) n'
  have hlt : column < column + 2 := by omega
  obtain ⟨s₁, owed₁, hs₁, hrecord⟩ := comes_record ht hms h (Nat.le_add_right_of_le hl') hlt hstands
  obtain ⟨s₂, owed₂, hs₂, hothers⟩ := hts hl hs₁
  refine ⟨s₂, owed₂, hs₂, ?_⟩
  have howes := ((Owes.of_leads hdash).trans hrecord).trans hothers
  simpa [itemSigns] using howes

theorem readsValue_text (column : Nat) (value : String) : ReadsValue column (.text value) := by
  intro m l hm hl outer n
  obtain ⟨c, keyAllowed, n', hc, h⟩ := leads_text outer hm value.toList hl n
  exact ⟨_, 0, .of_comesTo hc column (column :: outer) n', .of_leads h⟩

theorem readsValue_plain {column : Nat} {t : Tree} {text : List Char} (htext : Scalar.IsPlain text)
    (hwrite : writeValue column t = ' ' :: text ++ ['\n']) (hsigns : valueSigns t = [.scalar .plain text]) :
    ReadsValue column t := by
  intro m l hm hl outer n
  obtain ⟨c, n', hc, h⟩ := leads_plain outer hm htext hl n
  refine ⟨_, 0, .of_comesTo hc column (column :: outer) n', ?_⟩
  rw [hwrite, hsigns]
  exact .of_leads (by simpa using h)

theorem readsValue_emptyList (column : Nat) : ReadsValue column (.list []) := by
  intro m l hm hl outer n
  obtain ⟨c, n', hc, h⟩ := leads_emptyList outer hm l n
  exact ⟨_, 0, .of_comesTo hc column (column :: outer) n', .of_leads h⟩

theorem readsValue_list {column : Nat} {t : Tree} {ts : List Tree} (h : AreItems (t :: ts))
    (hts : ReadsItems column (t :: ts)) : ReadsValue column (.list (t :: ts)) := by
  intro m l hm hl outer n
  have hwrite : writeValue column (.list (t :: ts)) ++ l.text = '\n' :: (itemsLine column l (t :: ts)).text := by
    rw [itemsLine_text column l h]
    simp [writeValue, writeItems]
  rw [hwrite]
  exact hts hl (.of_comesTo ((itemsLine column l (t :: ts)).comesTo_newline m false) column (column :: outer) n)

theorem readsValue_record {column : Nat} {name : String} {t : Tree} {ms : List (String × Tree)}
    (ht : ReadsValue (column + 2) t) (hms : ReadsMembers (column + 2) ms) (h : AreMembers ((name, t) :: ms)) :
    ReadsValue column (.record ((name, t) :: ms)) := by
  intro m l hm hl outer n
  have hwrite : writeValue column (.record ((name, t) :: ms)) ++ l.text
      = '\n' :: (membersLine (column + 2) l ((name, t) :: ms) h).text := by
    rw [membersLine_text]
    simp [writeValue, writeMembers]
  have hlt : column < column + 2 := by omega
  rw [hwrite]
  exact comes_record ht hms h (Nat.le_add_right_of_le hl) hlt
    (.of_comesTo (Line.comesTo_newline _ m false) (column + 2) (column :: outer) n)

mutual

theorem readsValue (column : Nat) : (t : Tree) → IsWritten t → ReadsValue column t
  | .text value, _ => readsValue_text column value
  | .integer value, _ => readsValue_plain (Scalar.isPlain_render value) rfl rfl
  | .flag true, _ => readsValue_plain (Scalar.IsName.isPlain (by decide)) rfl rfl
  | .flag false, _ => readsValue_plain (Scalar.IsName.isPlain (by decide)) rfl rfl
  | .list [], _ => readsValue_emptyList column
  | .list (t :: ts), h => readsValue_list h (readsItems column (t :: ts) h)
  | .record [], h => absurd rfl h.1
  | .record ((_, t) :: ms), h =>
    readsValue_record (readsValue (column + 2) t h.2.2.1) (readsMembers (column + 2) ms h.2.2.2) h.2

theorem readsItems (column : Nat) : (ts : List Tree) → AreItems ts → ReadsItems column ts
  | [], _ => readsItems_nil column
  | .record [] :: _, h => absurd rfl h.1.1
  | .record ((_, t) :: ms) :: ts, h =>
    readsItems_cons (readsValue (column + 2) t h.1.2.2.1) (readsMembers (column + 2) ms h.1.2.2.2) h.1.2 h.2
      (readsItems column ts h.2)

theorem readsMembers (column : Nat) : (ms : List (String × Tree)) → AreMembers ms → ReadsMembers column ms
  | [], _ => readsMembers_nil column
  | (_, t) :: ms, h => readsMembers_cons (readsValue column t h.2.1) (readsMembers column ms h.2.2)

end

end Layout

/-! ## Documents -/

theorem all_render {ms : List (String × Tree)} (h : IsWritten (.record ms)) :
    (render (.record ms)).all isPrintable := by
  obtain ⟨⟨name, t⟩, ms, rfl⟩ := List.exists_cons_of_ne_nil h.1
  have hmembers := all_writeMembers 0 ((name, t) :: ms) h.2
  simpa [render, writeItem, writeMembers, Scalar.margin] using hmembers

/-- A written record has the tokens that its shape tells, and the text ends behind them. -/
theorem signs_render {ms : List (String × Tree)} (h : IsWritten (.record ms)) :
    ∃ more : List Sign,
      (Tokens.of (render (.record ms))).list.map Token.sign = valueSigns (.record ms) ++ .streamEnd :: more := by
  have hprintable := List.all_eq_true.1 (all_render h)
  have hunreadable := unreadable_eq_none (fun c hc => isAllowed_of_isPrintable (hprintable c hc))
    (render (.record ms)) pieceSize
  rw [Tokens.of, hunreadable, unifyBreaks_eq_self hprintable]
  obtain ⟨⟨name, t⟩, ms, rfl⟩ := List.exists_cons_of_ne_nil h.1
  have hrest := writeItem_record [] 0 .finish h.1 h.2
  have hfinish : Line.finish.text = [] := rfl
  rw [hfinish, List.append_nil, List.nil_append] at hrest
  rw [render, hrest]
  have hstart := Layout.Stands.of_comesTo (Line.comesTo_rest (membersLine 0 .finish ((name, t) :: ms) h.2)
    (show Mark.origin.column = _ from rfl)) 0 [] 0
  obtain ⟨s, owed, ⟨inner, c, keyAllowed, n, rfl, rfl, hinner, hc⟩, emitted, ⟨ready, hready, hof⟩, hemitted⟩ :=
    Layout.comes_members (Layout.readsValue 0 t h.2.2.1) (Layout.readsMembers 0 ms h.2.2.2) h.2 (Nat.le_refl 0)
      (by simp) hstart
  obtain ⟨more, hmore⟩ := Layout.signs_finish hc hinner n
  refine ⟨more, ?_⟩
  change (Tokens.ofLayout none (Layout.resting _ [] true 0)).list.map Token.sign = _
  rw [hof]
  simp only [Tokens.after, List.map_append, hready]
  rw [show Layout.openColumns 0 [] = [0] from rfl, hmore, List.replicate_succ', ← List.append_assoc,
    ← List.append_assoc, hemitted]
  simp [Layout.openSigns, valueSigns]

end StartupConfig.Yaml
