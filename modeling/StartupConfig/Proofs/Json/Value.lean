import StartupConfig.Json.Value
import StartupConfig.Proofs.Json.Tree

/-!
# Reading back any written tree

Each layout writes a tree so that the value of the tree is read back from it, whatever is open around it. The items
and members that were read wait on the stack, the last of them first, so the invariant of a list or a record is stated
with what waits in front of what is still written.
-/
namespace StartupConfig

namespace Tree

mutual

/-- The value of JSON that a tree stands for. -/
def value : Tree → Json.Value
  | .text s => .text s
  | .integer z => .number (.integer z)
  | .flag b => .flag b
  | .list ts => .list (itemValues ts)
  | .record ms => .record (memberValues ms)

/-- The values of items. -/
def itemValues : List Tree → List Json.Value
  | [] => []
  | t :: ts => t.value :: itemValues ts

/-- The values of members, with their names. -/
def memberValues : List (String × Tree) → List (String × Json.Value)
  | [] => []
  | (name, t) :: ms => (name, t.value) :: memberValues ms

end

theorem memberValues_eq (ms : List (String × Tree)) : memberValues ms = ms.map fun m => (m.1, m.2.value) := by
  induction ms with
  | nil => rfl
  | cons m ms ih => rw [memberValues, ih, List.map_cons]

end Tree

namespace Json

mutual

/-- The integers of a tree are read as integers. -/
def IsExact : Tree → Prop
  | .text _ => True
  | .integer z => HasRoom z
  | .flag _ => True
  | .list ts => AreExact ts
  | .record ms => HoldExact ms

/-- So are those of items. -/
def AreExact : List Tree → Prop
  | [] => True
  | t :: ts => IsExact t ∧ AreExact ts

/-- So are those of members. -/
def HoldExact : List (String × Tree) → Prop
  | [] => True
  | (_, t) :: ms => IsExact t ∧ HoldExact ms

end

theorem holdExact_iff (ms : List (String × Tree)) : HoldExact ms ↔ ∀ m ∈ ms, IsExact m.2 := by
  induction ms with
  | nil => simp [HoldExact]
  | cons m ms ih => simp [HoldExact, ih]

/-! ## What one step reads -/

section Steps

variable {stack : List Open} {v : Value} {cs rest rest' : List Char}

/-- A value begins at the next character that is not blank. -/
theorem readValue_congr {cs' : List Char} (h : dropBlank cs = dropBlank cs') :
    readValue .value stack cs = readValue .value stack cs' := by
  rw [readValue.eq_def, readValue.eq_def .value stack cs']
  grind

theorem readValue_gap {gap : List Char} (hgap : ∀ c ∈ gap, isBlank c) :
    readValue .value stack (gap ++ cs) = readValue .value stack cs :=
  readValue_congr (dropBlank_append hgap cs)

theorem readValue_scalar {c : Char} (h : dropBlank cs = c :: rest) (hlist : c ≠ '[') (hrecord : c ≠ '{')
    (hscalar : readScalar (c :: rest) = .ok (v, rest')) :
    readValue .value stack cs = readValue (.behind v) stack rest' := by
  rw [readValue.eq_def]
  grind

theorem readValue_emptyList (h : dropBlank cs = '[' :: rest) (hend : dropBlank rest = ']' :: rest') :
    readValue .value stack cs = readValue (.behind (.list [])) stack rest' := by
  rw [readValue.eq_def]
  grind

theorem readValue_list {c : Char} (h : dropBlank cs = '[' :: rest) (hitem : dropBlank rest = c :: rest')
    (hc : c ≠ ']') : readValue .value stack cs = readValue .value (.list [] :: stack) (c :: rest') := by
  rw [readValue.eq_def]
  grind

theorem readValue_emptyRecord (h : dropBlank cs = '{' :: rest) (hend : nextMember true rest = .ok (none, rest')) :
    readValue .value stack cs = readValue (.behind (.record [])) stack rest' := by
  rw [readValue.eq_def]
  grind

theorem readValue_record {name : String} (h : dropBlank cs = '{' :: rest)
    (hname : nextMember true rest = .ok (some name, rest')) :
    readValue .value stack cs = readValue .value (.record [] name :: stack) rest' := by
  rw [readValue.eq_def]
  grind

theorem readValue_item {vs : List Value} (h : nextItem false cs = .ok (true, rest)) :
    readValue (.behind v) (.list vs :: stack) cs = readValue .value (.list (v :: vs) :: stack) rest := by
  rw [readValue.eq_def]
  grind

theorem readValue_listEnd {vs : List Value} (h : nextItem false cs = .ok (false, ']' :: rest)) :
    readValue (.behind v) (.list vs :: stack) cs = readValue (.behind (.list (v :: vs).reverse)) stack rest := by
  rw [readValue.eq_def]
  grind

theorem readValue_member {ms : List (String × Value)} {name next : String}
    (h : nextMember false cs = .ok (some next, rest)) :
    readValue (.behind v) (.record ms name :: stack) cs
      = readValue .value (.record ((name, v) :: ms) next :: stack) rest := by
  rw [readValue.eq_def]
  grind

theorem readValue_recordEnd {ms : List (String × Value)} {name : String}
    (h : nextMember false cs = .ok (none, rest)) :
    readValue (.behind v) (.record ms name :: stack) cs
      = readValue (.behind (.record ((name, v) :: ms).reverse)) stack rest := by
  rw [readValue.eq_def]
  grind

end Steps

/-! ## Parts as they are written -/

theorem readScalar_quote (s : String) (rest : List Char) :
    readScalar (quote s.toList ++ rest) = .ok (.text s, rest) := by
  rw [quote_append, readScalar]
  simp [readString_flatMap_escape, Except.map]

theorem readScalar_flag (b : Bool) (l : Layout) (depth : Nat) (rest : List Char) :
    readScalar (write l depth (.flag b) ++ rest) = .ok (.flag b, rest) := by
  cases b <;> rfl

theorem readScalar_render {z : Int} (hz : HasRoom z) {rest : List Char} (h : EndsInteger rest) :
    readScalar (Decimal.render z ++ rest) = .ok (.number (.integer z), rest) := by
  have hread := readNumber_natAbs hz h
  rw [Decimal.render]
  by_cases hneg : z < 0
  · rw [decide_eq_true hneg] at hread
    rw [if_pos hneg, List.cons_append, readScalar]
    simp [hread, Except.map]
  · rw [decide_eq_false hneg] at hread
    obtain ⟨d, ds, hd, hdigit, -⟩ := Decimal.exists_renderNat z.natAbs
    rw [hd, List.cons_append] at hread
    have hn : d ≠ 'n' := Decimal.ne_of_isDigit hdigit rfl
    have ht : d ≠ 't' := Decimal.ne_of_isDigit hdigit rfl
    have hf : d ≠ 'f' := Decimal.ne_of_isDigit hdigit rfl
    have hsign : d ≠ '-' := Decimal.ne_of_isDigit hdigit rfl
    rw [if_neg hneg, hd, List.cons_append, readScalar]
    simp [hn, ht, hf, hsign, hdigit, hread, Except.map]

/-- A member is read up to the blanks behind its colon. -/
theorem nextMember_quote {l : Layout} (hl : l.IsSpaced) (isFirst : Bool) (depth : Nat) (name : String)
    (rest : List Char) : ∃ gap, (∀ c ∈ gap, isBlank c) ∧
      nextMember isFirst ((if isFirst then [] else [',']) ++ l.lineBreak depth ++ quote name.toList
        ++ (l.colon ++ rest)) = .ok (some name, gap ++ rest) := by
  obtain ⟨gap, hcolon, hgap⟩ := hl.colon
  refine ⟨gap, hgap, ?_⟩
  rw [nextMember, nextName_quote isFirst (hl.lineBreak depth), hcolon]
  simp [readColon_colon, Except.map]

theorem nextMember_end {gap : List Char} (hgap : ∀ c ∈ gap, isBlank c) (isFirst : Bool) (rest : List Char) :
    nextMember isFirst (gap ++ '}' :: rest) = .ok (none, rest) := by
  rw [nextMember, nextName_end hgap]

theorem nextItem_comma {gap : List Char} (hgap : ∀ c ∈ gap, isBlank c) {c : Char} (hblank : isBlank c = false)
    (hc : c ≠ ']') (rest : List Char) : nextItem false (',' :: (gap ++ c :: rest)) = .ok (true, c :: rest) := by
  have hitem : dropBlank (gap ++ c :: rest) = c :: rest := by rw [dropBlank_append hgap, dropBlank_cons hblank]
  rw [nextItem, dropBlank_cons rfl]
  simp [hitem, hc]

theorem nextItem_end {gap : List Char} (hgap : ∀ c ∈ gap, isBlank c) (isFirst : Bool) (rest : List Char) :
    nextItem isFirst (gap ++ ']' :: rest) = .ok (false, ']' :: rest) := by
  rw [nextItem, dropBlank_append hgap]
  rfl

/-! ## Trees -/

variable {l : Layout} {depth : Nat}

/-- The value of a tree is read from its text, in front of anything that does not go on with an integer. -/
def Reads (l : Layout) (depth : Nat) (t : Tree) : Prop :=
  ∀ (stack : List Open) (rest : List Char), EndsInteger rest →
    readValue .value stack (write l depth t ++ rest) = readValue (.behind t.value) stack rest

/-- Behind an item the other items are read up to the end of their list. -/
def ReadsItems (l : Layout) (depth : Nat) (ts : List Tree) : Prop :=
  ∀ (v : Value) (vs : List Value) (outer : Nat) (stack : List Open) (rest : List Char),
    readValue (.behind v) (.list vs :: stack) (writeItems l depth ts ++ (l.lineBreak outer ++ ']' :: rest))
      = readValue (.behind (.list ((v :: vs).reverse ++ Tree.itemValues ts))) stack rest

/-- Behind a member the other members are read up to the end of their record. -/
def ReadsMembers (l : Layout) (depth : Nat) (ms : List (String × Tree)) : Prop :=
  ∀ (v : Value) (vs : List (String × Value)) (name : String) (outer : Nat) (stack : List Open) (rest : List Char),
    readValue (.behind v) (.record vs name :: stack) (writeMembers l depth ms ++ (l.lineBreak outer ++ '}' :: rest))
      = readValue (.behind (.record (((name, v) :: vs).reverse ++ Tree.memberValues ms))) stack rest

theorem reads_text (value : String) : Reads l depth (.text value) := by
  intro stack rest _
  have hscalar := readScalar_quote value rest
  rw [quote_append] at hscalar
  rw [write, quote_append]
  exact readValue_scalar (dropBlank_cons rfl _) (by decide) (by decide) hscalar

theorem reads_integer {value : Int} (hvalue : HasRoom value) : Reads l depth (.integer value) := by
  intro stack rest hrest
  have hscalar := readScalar_render hvalue hrest
  obtain ⟨c, cs, hc, hshape, hblank, -⟩ := exists_render value
  rw [hc, List.cons_append] at hscalar
  rw [write, hc, List.cons_append]
  apply readValue_scalar (dropBlank_cons hblank _) _ _ hscalar
  · rintro rfl
    exact absurd hshape (by decide)
  · rintro rfl
    exact absurd hshape (by decide)

theorem reads_flag (value : Bool) : Reads l depth (.flag value) := by
  intro stack rest _
  have hscalar := readScalar_flag value l depth rest
  cases value with
  | true => exact readValue_scalar (dropBlank_cons rfl _) (by decide) (by decide) hscalar
  | false => exact readValue_scalar (dropBlank_cons rfl _) (by decide) (by decide) hscalar

theorem reads_emptyList : Reads l depth (.list []) := by
  intro stack rest _
  exact readValue_emptyList (dropBlank_cons rfl _) (dropBlank_cons rfl _)

theorem reads_list (hl : l.IsSpaced) {t : Tree} {ts : List Tree} (ht : Reads l (depth + 1) t)
    (hts : ReadsItems l (depth + 1) ts) : Reads l depth (.list (t :: ts)) := by
  intro stack rest _
  have hends := endsInteger_writeItems hl ts (depth + 1) depth rest
  obtain ⟨c, cs, hc, -, hblank, hend⟩ := exists_write l (depth + 1) t
  have hitem := ht (.list [] :: stack) _ hends
  have hitems := hts t.value [] depth stack rest
  rw [hc, List.cons_append] at hitem
  simp only [write, hc, List.cons_append, List.append_assoc, List.nil_append]
  have hfirst (ds : List Char) : dropBlank (l.lineBreak (depth + 1) ++ c :: ds) = c :: ds := by
    rw [dropBlank_append (hl.lineBreak _), dropBlank_cons hblank]
  rw [readValue_list (dropBlank_cons rfl _) (hfirst _) hend, hitem, hitems]
  rfl

theorem readsItems_nil (hl : l.IsSpaced) : ReadsItems l depth [] := by
  intro v vs outer stack rest
  rw [writeItems, List.nil_append, readValue_listEnd (nextItem_end (hl.lineBreak outer) false rest), Tree.itemValues,
    List.append_nil]

theorem readsItems_cons (hl : l.IsSpaced) {t : Tree} {ts : List Tree} (ht : Reads l depth t)
    (hts : ReadsItems l depth ts) : ReadsItems l depth (t :: ts) := by
  intro v vs outer stack rest
  have hends := endsInteger_writeItems hl ts depth outer rest
  obtain ⟨c, cs, hc, -, hblank, hend⟩ := exists_write l depth t
  have hitem := ht (.list (v :: vs) :: stack) _ hends
  have hitems := hts t.value (v :: vs) outer stack rest
  rw [hc, List.cons_append] at hitem
  simp only [writeItems, hc, List.cons_append, List.append_assoc]
  rw [readValue_item (nextItem_comma (hl.lineBreak depth) hblank hend _), hitem, hitems, Tree.itemValues]
  simp

theorem reads_emptyRecord : Reads l depth (.record []) := by
  intro stack rest _
  have hend : nextMember true ([] ++ '}' :: rest) = .ok (none, rest) := nextMember_end (by simp) true rest
  exact readValue_emptyRecord (dropBlank_cons rfl _) hend

theorem reads_record (hl : l.IsSpaced) {m : String × Tree} {ms : List (String × Tree)}
    (ht : Reads l (depth + 1) m.2) (hms : ReadsMembers l (depth + 1) ms) : Reads l depth (.record (m :: ms)) := by
  intro stack rest _
  have hends := endsInteger_writeMembers hl ms (depth + 1) depth rest
  have hmembers := hms m.2.value [] m.1 depth stack rest
  obtain ⟨gap, hgap, hname⟩ := nextMember_quote hl true (depth + 1) m.1
    (write l (depth + 1) m.2 ++ (writeMembers l (depth + 1) ms ++ (l.lineBreak depth ++ '}' :: rest)))
  simp only [if_true, List.nil_append, List.append_assoc] at hname
  simp only [write, List.cons_append, List.append_assoc, List.nil_append]
  rw [readValue_record (dropBlank_cons rfl _) hname, readValue_gap hgap, ht _ _ hends, hmembers]
  rfl

theorem readsMembers_nil (hl : l.IsSpaced) : ReadsMembers l depth [] := by
  intro v vs name outer stack rest
  rw [writeMembers, List.nil_append, readValue_recordEnd (nextMember_end (hl.lineBreak outer) false rest),
    Tree.memberValues, List.append_nil]

theorem readsMembers_cons (hl : l.IsSpaced) {m : String × Tree} {ms : List (String × Tree)}
    (ht : Reads l depth m.2) (hms : ReadsMembers l depth ms) : ReadsMembers l depth (m :: ms) := by
  intro v vs name outer stack rest
  have hends := endsInteger_writeMembers hl ms depth outer rest
  have hmembers := hms m.2.value ((name, v) :: vs) m.1 outer stack rest
  obtain ⟨gap, hgap, hname⟩ := nextMember_quote hl false depth m.1
    (write l depth m.2 ++ (writeMembers l depth ms ++ (l.lineBreak outer ++ '}' :: rest)))
  simp only [Bool.false_eq_true, if_false, List.cons_append, List.nil_append, List.append_assoc] at hname
  simp only [writeMembers, List.cons_append, List.append_assoc]
  rw [readValue_member hname, readValue_gap hgap, ht _ _ hends, hmembers, Tree.memberValues]
  simp

mutual

/-- The value of any tree is read from its text, at any depth. -/
theorem reads (hl : l.IsSpaced) (depth : Nat) : (t : Tree) → IsExact t → Reads l depth t
  | .text value, _ => reads_text value
  | .integer _, h => reads_integer h
  | .flag value, _ => reads_flag value
  | .list [], _ => reads_emptyList
  | .list (t :: ts), h => reads_list hl (reads hl (depth + 1) t h.1) (readsItems hl (depth + 1) ts h.2)
  | .record [], _ => reads_emptyRecord
  | .record ((_, t) :: ms), h => reads_record hl (reads hl (depth + 1) t h.1) (readsMembers hl (depth + 1) ms h.2)

theorem readsItems (hl : l.IsSpaced) (depth : Nat) : (ts : List Tree) → AreExact ts → ReadsItems l depth ts
  | [], _ => readsItems_nil hl
  | t :: ts, h => readsItems_cons hl (reads hl depth t h.1) (readsItems hl depth ts h.2)

theorem readsMembers (hl : l.IsSpaced) (depth : Nat) :
    (ms : List (String × Tree)) → HoldExact ms → ReadsMembers l depth ms
  | [], _ => readsMembers_nil hl
  | (_, t) :: ms, h => readsMembers_cons hl (reads hl depth t h.1) (readsMembers hl depth ms h.2)

end

/-- A text holds the value of the tree that is written there. -/
theorem read?_write (hl : l.IsSpaced) (depth : Nat) {t : Tree} (h : IsExact t) :
    Value.read? (write l depth t) = some t.value := by
  have hread := reads hl depth t h [] [] (by simp [EndsInteger])
  rw [List.append_nil] at hread
  rw [Value.read?, readWhole, hread, readValue.eq_def]
  rfl

end Json

end StartupConfig
