import StartupConfig.Proofs.Integer
import StartupConfig.Proofs.Json.Record
import StartupConfig.Proofs.Yaml.Events
import StartupConfig.Yaml.Reader

/-!
# Reading back the YAML form of a record

The events of a written record name its settings one after the other, each with its value. As for JSON the draft
has exactly the settings that were read.
-/
namespace StartupConfig

namespace Yaml

/-! ## Integers -/

namespace Untagged

/-- Without a leading zero there is neither a radix mark nor padding, and digits are read as decimal ones. -/
theorem signed?_digits (t : IntegerType) {d : Char} (hd : d.isDigit) (hzero : d ≠ '0') (ds : List Char) :
    signed? t (d :: ds) = decimal? t (d :: ds) ∧ signed? t ('-' :: d :: ds) = decimal? t ('-' :: d :: ds) := by
  have hplus : d ≠ '+' := Decimal.ne_of_isDigit hd rfl
  have hminus : d ≠ '-' := Decimal.ne_of_isDigit hd rfl
  have hmarked : marked? t (d :: ds) = none ∧ marked? t ('-' :: d :: ds) = none := by
    simp [marked?, radixMarks, after?, hzero.symm]
  have hnegative : markedNegative? t (d :: ds) = none ∧ markedNegative? t ('-' :: d :: ds) = none := by
    simp [markedNegative?, radixMarks, after?, hzero.symm, hminus.symm]
  have hpadded : isPadded (d :: ds) = false ∧ isPadded ('-' :: d :: ds) = false := by
    simp [isPadded, dropSign, hplus, hminus, hzero]
  simp [signed?, hplus, hmarked, hnegative, hpadded]

/-- A written integer is read as the integer that it denotes. -/
theorem signed?_render {t : IntegerType} (hleast : t.least ≤ 0) (hgreatest : 0 ≤ t.greatest) (z : t.Value) :
    signed? t (Decimal.render z.val) = some z.val := by
  have hdecimal : decimal? t (Decimal.render z.val) = some z.val := by
    rw [decimal?, IntegerType.read_render t hleast hgreatest z]
    rfl
  obtain ⟨d, ds, h, hd, hzero⟩ := Decimal.exists_renderNat z.val.natAbs
  rw [← hdecimal, Decimal.render, h]
  by_cases hd0 : d = '0'
  · have hz : z.val = 0 := Int.natAbs_eq_zero.1 (hzero hd0)
    rw [hz] at h ⊢
    obtain ⟨rfl, rfl⟩ := List.cons.inj h
    rfl
  · by_cases hneg : z.val < 0
    · rw [if_pos hneg, (signed?_digits t hd hd0 ds).2]
    · rw [if_neg hneg, (signed?_digits t hd hd0 ds).1]

end Untagged

/-! ## Records -/

/-- An event that is a node stands for it. -/
theorem node?_of_part? {e : Event Node} {c : Content} (h : e.part? = some (.content c)) :
    ∃ m : Mark, e = .node none ⟨none, c, m⟩ := by
  match e, h with
  | .node none ⟨none, c', m⟩, h =>
    obtain rfl : c' = c := by simpa [Event.part?] using h
    exact ⟨m, rfl⟩

/-- The value of a setting is one scalar, which holds the setting's text. -/
theorem valueParts_memberTree (r : Record) (s : Setting) :
    ∃ form : Form, valueParts (r.memberTree s) = [.content (.scalar form (r.text s).toList)] ∧
      (s = .maxTries → form = .plain) := by
  cases s with
  | maxTries => exact ⟨.plain, by simp [Record.memberTree, Record.text, valueParts], fun _ => rfl⟩
  | _ => exact ⟨_, rfl, by simp⟩

/-- The value of a setting is read into the draft. -/
theorem readSetting_scalar (r : Record) (s : Setting) {form : Form} (hform : s = .maxTries → form = .plain)
    (path : List Char) (d : Draft) (m : Mark) :
    readSetting s path d ⟨none, .scalar form (r.text s).toList, m⟩ = .ok (d.fill r s) := by
  cases s with
  | maxTries =>
    obtain rfl := hform rfl
    have hsigned := Untagged.signed?_render (t := .signed 64) (by decide) (by decide) r.maxTries
    have hlong : Node.long ⟨none, .scalar .plain (r.text .maxTries).toList, m⟩ path = .ok r.maxTries := by
      simp only [Node.long, Node.holdsInteger, if_true, Record.text, String.toList_ofList, hsigned]
      exact dif_pos r.maxTries.property
    simp only [readSetting, hlong, Draft.fill]
    rfl
  | _ =>
    simp only [readSetting, Node.text, Draft.fill, Record.text, bind, Except.bind, String.ofList_toList]
    rfl

/-- One member of a written record is read. -/
theorem readMembers_cons (r : Record) {s : Setting} {d : Draft} (hd : d.has s = false) {form : Form}
    (hform : s = .maxTries → form = .plain) (stop : Stop) (start m m' : Mark) (es : List (Event Node)) :
    readMembers stop start d (.node none ⟨none, .scalar .plain s.field.toList, m⟩
      :: .node none ⟨none, .scalar form (r.text s).toList, m'⟩ :: es) = readMembers stop start (d.fill r s) es := by
  rw [readMembers]
  simp only [Event.node?, Node.text, Setting.ofField?_field, hd, Bool.false_eq_true, if_false,
    readSetting_scalar r s hform]

/-- The members of a written record are read up to its end. -/
theorem readMembers_of_parts (r : Record) {ss : List Setting} (hss : ss.Nodup) {d : Draft}
    (hd : ∀ s ∈ ss, d.has s = false) (hc : (ss.foldl (Draft.fill r) d).complete = .ok r) {es : List (Event Node)}
    (hes : es.map Event.part?
      = (memberParts (ss.map fun s => (s.field, r.memberTree s)) ++ [Part.recordEnd]).map some)
    (stop : Stop) (start : Mark) : readMembers stop start d es = .ok r := by
  induction ss generalizing d es with
  | nil =>
    obtain ⟨e, he, hpart⟩ := List.map_eq_singleton_iff.1 hes
    have hnone : e.node? = none := by
      cases e with
      | node anchor n => simp only [Event.part?] at hpart; split at hpart <;> simp_all
      | _ => simp_all [Event.part?, Event.node?]
    rw [he, readMembers, hnone]
    simp only [List.foldl_nil] at hc
    simp only [hc]
  | cons s ss ih =>
    obtain ⟨hs, hss⟩ := List.nodup_cons.1 hss
    obtain ⟨form, hparts, hform⟩ := valueParts_memberTree r s
    simp only [List.map_cons, memberParts, hparts, List.cons_append, List.nil_append] at hes
    obtain ⟨key, rest, rfl, hkey, hrest⟩ := List.map_eq_cons_iff.1 hes
    obtain ⟨value, others, rfl, hvalue, hothers⟩ := List.map_eq_cons_iff.1 hrest
    obtain ⟨m, rfl⟩ := node?_of_part? hkey
    obtain ⟨m', rfl⟩ := node?_of_part? hvalue
    rw [readMembers_cons r (hd s (by simp)) hform]
    refine ih hss (fun t ht => ?_) hc hothers
    have hne : s ≠ t := fun h => hs (h ▸ ht)
    simp [hne, hd t (by simp [ht])]

/-- The events of a written record are read as the record, in either role. -/
theorem readRecord_of_parts (role : Role) (stop : Stop) (r : Record) {es : List (Event Node)}
    (hes : es.map Event.part? = (valueParts r.tree).map some) : readRecord role stop es = .ok r := by
  rw [Record.tree_eq, valueParts, List.cons_append] at hes
  obtain ⟨e, others, rfl, he, hothers⟩ := List.map_eq_cons_iff.1 hes
  obtain ⟨m, rfl⟩ := node?_of_part? he
  simp only [readRecord, Event.node?]
  exact readMembers_of_parts r (by decide) (by intro s; cases s <;> simp [Setting.all] <;> rfl)
    (Draft.complete_fill r) hothers stop m

/-- The written form of a record is one that can be read back. -/
theorem isWritten_tree (r : Record) : IsWritten r.tree := by
  refine ⟨List.cons_ne_nil _ _, ?_, trivial, ?_, trivial, ?_, trivial, ?_, trivial, trivial⟩ <;> decide

/-- The text that is printed for a record holds the record, in either role. -/
theorem decodeRecord_render (role : Role) (r : Record) :
    decodeRecord role (String.ofList (render r.tree)) = .ok r := by
  obtain ⟨es, hes, hparts⟩ := Document.of_render (isWritten_tree r)
  have hes : Document.of (render r.tree) = .present es .end := hes
  simp only [decodeRecord, decode, readWhole, String.toList_ofList, hes,
    readRecord_of_parts role .endOfValue r hparts]
  rfl

end Yaml

/-- The YAML that is shown for a report without sources is text, and read back in either role it is the record of
the report. -/
theorem Report.decodeRecord_yaml (report : Report) :
    let printed := deliver (report.output .yaml false) .endless
    printed.1 = none ∧ ∃ text, Utf8.strict? printed.2.taken = some text ∧
      ∀ role : Role, Yaml.decodeRecord role text = .ok report.record := by
  intro printed
  have hprinted : printed = (none, ⟨Utf8.encode (Yaml.render report.record.tree), none, ""⟩) := by
    simp only [printed, output, Format.output, Bool.false_eq_true, if_false, Output.ofYaml, Output.plain, Sink.endless,
      deliver_endless, Output.bytes]
    simp [Utf8.encode]
  rw [hprinted]
  exact ⟨rfl, _, Utf8.strict?_encode _, fun role => Yaml.decodeRecord_render role _⟩

end StartupConfig
