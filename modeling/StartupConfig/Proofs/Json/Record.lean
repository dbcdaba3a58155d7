import StartupConfig.Proofs.Delivery
import StartupConfig.Proofs.Json.Scalar
import StartupConfig.Proofs.Utf8

/-!
# Reading back the JSON form of a record

Members are read one by one into a draft. The invariant is that the draft has exactly the settings that were
read, with the values of the record, so the whole record is read back.
-/
namespace StartupConfig

namespace Record

/-- The tree of the member of a setting. -/
def memberTree (r : Record) : Setting → Tree
  | .maxTries => .integer r.maxTries.val
  | s => .text (r.text s)

/-- The written record has a member for each setting, in order. -/
theorem tree_eq (r : Record) : r.tree = .record (Setting.all.map fun s => (s.field, r.memberTree s)) := rfl

end Record

namespace Draft

/-- A draft that also has a setting of a record. -/
def fill (r : Record) (d : Draft) : Setting → Draft
  | .templateFile => { d with templateFile := some r.templateFile }
  | .initImage => { d with initImage := some r.initImage }
  | .deliveryImage => { d with deliveryImage := some r.deliveryImage }
  | .maxTries => { d with maxTries := some r.maxTries }

@[simp] theorem has_fill (r : Record) (d : Draft) (s t : Setting) :
    (d.fill r s).has t = (s == t || d.has t) := by
  cases s <;> cases t <;> simp [fill, has]

/-- A draft that was filled with all settings is complete. -/
theorem complete_fill (r : Record) : (Setting.all.foldl (fill r) empty).complete = .ok r := rfl

end Draft

@[simp] theorem Setting.ofField?_field (s : Setting) : Setting.ofField? (String.ofList s.field.toList) = some s := by
  cases s <;> decide

namespace Json

/-- A layout that has nothing but blanks around values, apart from the colon. -/
structure Layout.IsSpaced (l : Layout) : Prop where
  lineBreak : ∀ depth, ∀ c ∈ l.lineBreak depth, isBlank c
  colon : ∃ gap, l.colon = ':' :: gap ∧ ∀ c ∈ gap, isBlank c

theorem Layout.isSpaced_indented : Layout.indented.IsSpaced where
  lineBreak depth c hc := by
    rcases List.mem_cons.1 hc with rfl | hc
    · rfl
    · rw [List.eq_of_mem_replicate hc]
      rfl
  colon := ⟨[' '], rfl, by simp [isBlank]⟩

theorem Layout.isSpaced_compact : Layout.compact.IsSpaced where
  lineBreak _ _ hc := absurd hc List.not_mem_nil
  colon := ⟨[], rfl, List.forall_mem_nil _⟩

/-- The value of a setting is read into the draft. -/
theorem readSetting_write (r : Record) (d : Draft) (s : Setting) (l : Layout) (depth : Nat)
    {rest : List Char} (h : EndsInteger rest) :
    readSetting s d (' ' :: write l depth (r.memberTree s) ++ rest) = .ok (d.fill r s, rest) := by
  have htext (t : String) : readText "a string" (' ' :: quote t.toList ++ rest) = .ok (t.toList, rest) :=
    readText_quote "a string" t.toList rest
  have hlong : readLong (' ' :: Decimal.render r.maxTries.val ++ rest) = .ok (r.maxTries, rest) :=
    readLong_render r.maxTries h
  cases s with
  | maxTries => simp only [readSetting, Record.memberTree, write, hlong, Draft.fill]
  | _ => simp only [readSetting, Record.memberTree, Record.text, write, htext, String.ofList_toList, Draft.fill]

theorem readColon_colon (l : List Char) : readColon (':' :: l) = .ok l := rfl

theorem readMember_setting (r : Record) {d : Draft} {s : Setting} (hd : d.has s = false) (depth : Nat)
    {rest : List Char} (h : EndsInteger rest) :
    readMember s.field.toList d (':' :: ' ' :: write .indented depth (r.memberTree s) ++ rest)
      = .ok (d.fill r s, rest) := by
  simp only [readMember, Setting.ofField?_field, hd, Bool.false_eq_true, if_false, List.cons_append,
    readColon_colon, Except.bind]
  exact readSetting_write r d s .indented depth h

/-- The name of the next member stands behind blanks, and behind a comma unless it is the first. -/
theorem nextName_quote (isFirst : Bool) {gap : List Char} (hgap : ∀ c ∈ gap, isBlank c) (name rest : List Char) :
    nextName isFirst ((if isFirst then [] else [',']) ++ gap ++ quote name ++ rest) = .ok (some name, rest) := by
  have hblank : dropBlank (gap ++ quote name ++ rest) = quote name ++ rest := by
    rw [List.append_assoc, dropBlank_append hgap]
    rfl
  have hname : readName (quote name ++ rest) = .ok (some name, rest) := by
    rw [quote_append, readName, readString_flatMap_escape]
  cases isFirst with
  | true =>
    simp only [if_true, List.nil_append, nextName, hblank]
    exact hname
  | false =>
    have hcomma : dropBlank ([','] ++ gap ++ quote name ++ rest) = ',' :: (gap ++ quote name ++ rest) := rfl
    simp only [Bool.false_eq_true, if_false, nextName, hcomma]
    change (if ',' = ',' then readName _ else _) = _
    rw [if_pos rfl, hblank, hname]

/-- A record ends behind blanks. -/
theorem nextName_end {gap : List Char} (hgap : ∀ c ∈ gap, isBlank c) (isFirst : Bool) (rest : List Char) :
    nextName isFirst (gap ++ '}' :: rest) = .ok (none, rest) := by
  rw [nextName, dropBlank_append hgap]
  rfl

/-- Behind a name the member is read, and then the members behind it. -/
theorem readMembers_name {isFirst : Bool} {cs rest name : List Char} (h : nextName isFirst cs = .ok (some name, rest))
    (d : Draft) :
    readMembers isFirst d cs = (readMember name d rest).bind fun read => readMembers false read.1 read.2 := by
  rw [readMembers.eq_def]
  split
  · simp_all
  · simp_all
  · next heq =>
    obtain ⟨rfl, rfl⟩ : _ = name ∧ _ = rest := by simpa [heq] using h
    split
    · next hm => rw [hm, Except.bind]
    · next hm => rw [hm, Except.bind]

/-- At the end of a record the draft must be complete. -/
theorem readMembers_end {isFirst : Bool} {cs rest : List Char} (h : nextName isFirst cs = .ok (none, rest))
    (d : Draft) : readMembers isFirst d cs =
      match d.complete with
      | .ok r => .ok (r, rest)
      | .error s => .error (.here (.missingField s.field) rest) := by
  rw [readMembers.eq_def]
  split
  · simp_all
  · next heq =>
    obtain rfl : _ = rest := by simpa [heq] using h
    rfl
  · simp_all

/-- One member of a written record is read. -/
theorem readMembers_step (isFirst : Bool) (r : Record) {d : Draft} {s : Setting} (hd : d.has s = false)
    (depth : Nat) {rest : List Char} (h : EndsInteger rest) :
    readMembers isFirst d ((if isFirst then [] else [',']) ++ Layout.indented.lineBreak depth
      ++ quote s.field.toList ++ (Layout.indented.colon ++ write .indented depth (r.memberTree s) ++ rest))
      = readMembers false (d.fill r s) rest := by
  have hmember : readMember s.field.toList d (Layout.indented.colon ++ write .indented depth (r.memberTree s) ++ rest)
      = .ok (d.fill r s, rest) := readMember_setting r hd depth h
  rw [readMembers_name (nextName_quote isFirst (Layout.isSpaced_indented.lineBreak depth) s.field.toList _), hmember,
    Except.bind]

/-- What follows a member begins with a comma or ends the record. -/
theorem endsInteger_writeMembers {l : Layout} (hl : l.IsSpaced) (ms : List (String × Tree)) (depth outer : Nat)
    (rest : List Char) : EndsInteger (writeMembers l depth ms ++ (l.lineBreak outer ++ '}' :: rest)) := by
  have hend : EndsInteger ('}' :: rest) := EndsInteger.cons (by decide) rest
  cases ms with
  | nil =>
    rw [writeMembers, List.nil_append]
    exact hend.append (hl.lineBreak outer)
  | cons m ms => exact EndsInteger.cons (c := ',') (by decide) _

/-- The members after the first are read until the record ends. -/
theorem readMembers_writeMembers (r : Record) {d : Draft} (ss : List Setting) (hss : ss.Nodup)
    (hd : ∀ s ∈ ss, d.has s = false) (hc : (ss.foldl (Draft.fill r) d).complete = .ok r) (depth : Nat)
    (rest : List Char) :
    readMembers false d (writeMembers .indented (depth + 1) (ss.map fun s => (s.field, r.memberTree s))
      ++ (Layout.indented.lineBreak depth ++ '}' :: rest)) = .ok (r, rest) := by
  induction ss generalizing d with
  | nil =>
    rw [List.map_nil, writeMembers, List.nil_append,
      readMembers_end (nextName_end (Layout.isSpaced_indented.lineBreak depth) false rest)]
    simp only [List.foldl_nil] at hc
    rw [hc]
  | cons s ss ih =>
    obtain ⟨hs, hss⟩ := List.nodup_cons.1 hss
    have hstep := readMembers_step false r (hd s (by simp)) (depth + 1)
      (endsInteger_writeMembers Layout.isSpaced_indented (ss.map fun s => (s.field, r.memberTree s)) (depth + 1) depth
        rest)
    simp only [List.map_cons, writeMembers, List.cons_append, List.append_assoc] at hstep ⊢
    refine hstep.trans (ih hss (fun t ht => ?_) hc)
    have hne : s ≠ t := fun h => hs (h ▸ ht)
    simp [hne, hd t (by simp [ht])]

/-- A written record is read back, and nothing of what follows it is taken. -/
theorem readRecord_render (role : Role) (r : Record) (rest : List Char) :
    readRecord role (render r.tree ++ rest) = .ok (r, rest) := by
  have hfirst := readMembers_step true r (d := .empty) (s := .templateFile) rfl 1
    (endsInteger_writeMembers Layout.isSpaced_indented (Setting.all.tail.map fun s => (s.field, r.memberTree s)) 1 0
      rest)
  have hothers := readMembers_writeMembers r (d := Draft.empty.fill r .templateFile) Setting.all.tail
    (by decide) (by intro s; cases s <;> simp [Setting.all] <;> rfl) (Draft.complete_fill r) 0 rest
  have hmembers := hfirst.trans hothers
  simp only [if_true, List.nil_append, List.append_assoc] at hmembers
  rw [render, Record.tree_eq]
  simp only [Setting.all, List.map_cons, write, List.cons_append, List.append_assoc, List.nil_append]
  exact hmembers

/-- The text that is printed for a record holds the record, in either role. -/
theorem decodeRecord_render (role : Role) (r : Record) :
    decodeRecord role (String.ofList (render r.tree ++ ['\n'])) = .ok r := by
  have hblank : dropBlank ['\n'] = [] := rfl
  simp only [decodeRecord, decode, readWhole, String.toList_ofList, readRecord_render, hblank]
  rfl

end Json

/-- The JSON that is shown for a report without sources is text. Read back it is the record of the report,
and so is a load from an empty environment with the text read as defaults. -/
theorem Report.decodeRecord_json (report : Report) :
    let printed := deliver (report.output .json false) .endless
    printed.1 = none ∧ ∃ text, Utf8.strict? printed.2.taken = some text ∧
      Json.decodeRecord .configuration text = .ok report.record ∧
      ∃ defaults, Json.decodeRecord .defaults text = .ok defaults ∧
        (Loader.mk Environment.empty.lookup defaults).load = report.record := by
  intro printed
  have hprinted : printed = (none, ⟨Utf8.encode (Json.render report.record.tree ++ ['\n']), none, ""⟩) := by
    simp only [printed, output, Format.output, Bool.false_eq_true, if_false, Output.ofJson, Sink.endless,
      deliver_endless, Output.bytes]
    simp [Utf8.encode]
  rw [hprinted]
  refine ⟨rfl, _, Utf8.strict?_encode _, Json.decodeRecord_render _ _, _, Json.decodeRecord_render _ _, ?_⟩
  rfl

end StartupConfig
