import Mathlib.Data.List.Forall2
import StartupConfig.Proofs.Structured

/-!
# Texts stay texts in YAML

A reader that asks for no type takes a plain scalar for what it looks like and any other for a text. In a document that
is written here every text is so written that it is taken for a text, also one that looks like a number, a truth value
or null, and every integer so that it is taken for itself. Scalars are compared with those of the written tree one by
one, in the order in which they stand.
-/
namespace StartupConfig

namespace Yaml

/-! ## Scalars -/

/-- A scalar as it stands in a document. -/
structure Standing where
  tag : Option Utf8.Bytes
  form : Form
  text : List Char
  deriving DecidableEq

/-- The scalar that a node is, if it is one. -/
def Node.standing? (n : Node) : Option Standing :=
  match n.content with
  | .scalar form text => some ⟨n.tag, form, text⟩
  | _ => none

/-- The scalars of a document in order, the names of members among them. -/
def standings (es : List (Event Node)) : List Standing := es.filterMap fun e => e.node?.bind Node.standing?

/-- A scalar of a tree is written so that a reader that asks for no type takes it for what it is: a text is between
quotation marks or in a block, or else it looks like nothing but a text; anything else is plain and looks like
itself. -/
inductive Keeps : Tree → Standing → Prop
  | text {value : String} {form : Form} : (form = .plain → Untagged.resolve value.toList = .text) →
      Keeps (.text value) ⟨none, form, value.toList⟩
  | integer {value : Int} {text : List Char} : Untagged.resolve text = .integer value →
      Keeps (.integer value) ⟨none, .plain, text⟩
  | flag {value : Bool} {text : List Char} : Untagged.resolve text = .boolean value →
      Keeps (.flag value) ⟨none, .plain, text⟩

end Yaml

namespace Tree

mutual

/-- The scalars of a tree in order, with the names of members as texts. -/
def scalars : Tree → List Tree
  | .text value => [.text value]
  | .integer value => [.integer value]
  | .flag value => [.flag value]
  | .list ts => itemScalars ts
  | .record ms => memberScalars ms

/-- The scalars of items. -/
def itemScalars : List Tree → List Tree
  | [] => []
  | t :: ts => t.scalars ++ itemScalars ts

/-- The scalars of members. -/
def memberScalars : List (String × Tree) → List Tree
  | [] => []
  | (name, t) :: ms => .text name :: t.scalars ++ memberScalars ms

end

end Tree

namespace Yaml

mutual

/-- The names in a tree look like texts and its integers like themselves. -/
def IsTyped : Tree → Prop
  | .text _ => True
  | .integer value => Untagged.resolve (Decimal.render value) = .integer value
  | .flag _ => True
  | .list ts => AreTyped ts
  | .record ms => HoldTyped ms

/-- So they do in items. -/
def AreTyped : List Tree → Prop
  | [] => True
  | t :: ts => IsTyped t ∧ AreTyped ts

/-- So they do in members. -/
def HoldTyped : List (String × Tree) → Prop
  | [] => True
  | (name, t) :: ms => Untagged.resolve name.toList = .text ∧ IsTyped t ∧ HoldTyped ms

end

/-! ## Integers -/

namespace Untagged

/-- Digits without a leading zero are decimal ones, with and without a minus sign. -/
theorem integer?_digits {d : Char} (hd : d.isDigit) (hzero : d ≠ '0') (ds : List Char) :
    natural? (.unsigned 64) (d :: ds) = decimal? (.unsigned 64) (d :: ds) ∧
      natural? (.unsigned 64) ('-' :: d :: ds) = none ∧
      negative? (.signed 64) ('-' :: d :: ds) = decimal? (.signed 64) ('-' :: d :: ds) := by
  have hplus : d ≠ '+' := Decimal.ne_of_isDigit hd rfl
  have hminus : d ≠ '-' := Decimal.ne_of_isDigit hd rfl
  have hmarked (t : IntegerType) : marked? t (d :: ds) = none ∧ marked? t ('-' :: d :: ds) = none := by
    simp [marked?, radixMarks, after?, hzero.symm]
  have hnegative (t : IntegerType) : markedNegative? t ('-' :: d :: ds) = none := by
    simp [markedNegative?, radixMarks, after?, hzero.symm]
  have hpadded : isPadded (d :: ds) = false ∧ isPadded ('-' :: d :: ds) = false := by
    simp [isPadded, dropSign, hplus, hminus, hzero]
  simp [natural?, negative?, dropPlus, isSigned, hplus, hminus, hmarked, hnegative, hpadded]

/-- Neither null nor a truth value begins with a digit or a minus sign. -/
theorem resolve_of_integer? {c : Char} {cs : List Char} (hc : c.isDigit ∨ c = '-') {z : Int}
    (h : integer? (c :: cs) = some z) : resolve (c :: cs) = .integer z := by
  have hwords : 'n' ≠ c ∧ 'N' ≠ c ∧ '~' ≠ c ∧ 't' ≠ c ∧ 'T' ≠ c ∧ 'f' ≠ c ∧ 'F' ≠ c := by
    refine ⟨?_, ?_, ?_, ?_, ?_, ?_, ?_⟩ <;> rintro rfl <;> exact absurd hc (by decide)
  have hnull : isNull (c :: cs) = false := by simp [isNull, isNullWord, hwords]
  have hboolean : boolean? (c :: cs) = none := by simp [boolean?, hwords]
  simp [resolve, hnull, hboolean, h]

/-- The digits of an integer of the record are taken for the integer. -/
theorem resolve_render (z : Long) : resolve (Decimal.render z.val) = .integer z.val := by
  obtain ⟨d, ds, hds, hd, hzero⟩ := Decimal.exists_renderNat z.val.natAbs
  by_cases hd0 : d = '0'
  · have hz : z.val = 0 := Int.natAbs_eq_zero.1 (hzero hd0)
    rw [hz]
    rfl
  obtain ⟨hnatural, hnone, hnegative⟩ := integer?_digits hd hd0 ds
  -- Integers without a sign are tried first, in the type that has room for more of them.
  by_cases hneg : z.val < 0
  · have hread : decimal? (.signed 64) (Decimal.render z.val) = some z.val := by
      rw [decimal?, IntegerType.read_render _ (by decide) (by decide) z]
      rfl
    rw [Decimal.render, if_pos hneg, hds] at hread ⊢
    apply resolve_of_integer? (.inr rfl)
    rw [integer?, hnone, hnegative, hread]
    rfl
  · have hcontains : (IntegerType.unsigned 64).Contains z.val := by
      obtain ⟨_, hle, _⟩ := z.property
      have hgreatest : (IntegerType.signed 64).greatest ≤ (IntegerType.unsigned 64).greatest := by decide
      exact ⟨by simpa [IntegerType.unsigned] using hneg, Int.le_trans hle hgreatest, fun _ => rfl⟩
    have hread : decimal? (.unsigned 64) (Decimal.render z.val) = some z.val := by
      rw [decimal?, IntegerType.read_render _ (by decide) (by decide) ⟨z.val, hcontains⟩]
      rfl
    rw [Decimal.render, if_neg hneg, hds] at hread ⊢
    apply resolve_of_integer? (.inl hd)
    rw [integer?, hnatural, hread]
    rfl

end Untagged

/-! ## Trees -/

/-- The scalar that a part is, if it is one. -/
def Part.standing? : Part → Option Standing
  | .content (.scalar form text) => some ⟨none, form, text⟩
  | _ => none

theorem standing?_of_part? {e : Event Node} {p : Part} (h : e.part? = some p) :
    e.node?.bind Node.standing? = p.standing? := by
  match e, h with
  | .node none ⟨none, c, m⟩, h =>
    obtain rfl : Part.content c = p := by simpa [Event.part?] using h
    cases c <;> rfl
  | .listEnd, h =>
    obtain rfl : Part.listEnd = p := by simpa [Event.part?] using h
    rfl
  | .recordEnd, h =>
    obtain rfl : Part.recordEnd = p := by simpa [Event.part?] using h
    rfl

theorem standings_of_parts {es : List (Event Node)} {ps : List Part} (h : es.map Event.part? = ps.map some) :
    standings es = ps.filterMap Part.standing? := by
  induction es generalizing ps with
  | nil =>
    obtain rfl : ps = [] := by simpa using h
    rfl
  | cons e es ih =>
    obtain ⟨p, ps, rfl, hp, hps⟩ := List.map_eq_cons_iff.1 h.symm
    rw [standings, List.filterMap_cons, standing?_of_part? hp.symm, List.filterMap_cons]
    rw [standings] at ih
    rw [ih hps.symm]

/-- A text whose style is plain looks like a text. -/
theorem keeps_text (value : String) :
    Keeps (.text value) ⟨none, (Scalar.style value.toList).form, value.toList⟩ := by
  refine .text fun hform => ?_
  have hholds := Scalar.holds_style value.toList
  have hstyle : Scalar.style value.toList = .plain := by
    cases hs : Scalar.style value.toList <;> rw [hs] at hform <;> first | rfl | cases hform
  rw [hstyle] at hholds
  simpa [Untagged.isAmbiguous] using (Bool.or_eq_false_iff.1 hholds.2).2

theorem standings_list (ts : List Tree) :
    (valueParts (.list ts)).filterMap Part.standing? = (itemParts ts).filterMap Part.standing? := by
  simp [valueParts, List.filterMap_cons, Part.standing?]

theorem standings_record (ms : List (String × Tree)) :
    (valueParts (.record ms)).filterMap Part.standing? = (memberParts ms).filterMap Part.standing? := by
  simp [valueParts, List.filterMap_cons, Part.standing?]

mutual

/-- The scalars of a tree stand in its parts, one by one. -/
theorem keeps_scalars : (t : Tree) → IsTyped t →
    List.Forall₂ Keeps t.scalars ((valueParts t).filterMap Part.standing?)
  | .text value, _ => .cons (keeps_text value) .nil
  | .integer _, h => .cons (.integer h) .nil
  | .flag value, _ => .cons (.flag (by cases value <;> rfl)) .nil
  | .list ts, h => by
    rw [Tree.scalars, standings_list]
    exact keeps_itemScalars ts h
  | .record ms, h => by
    rw [Tree.scalars, standings_record]
    exact keeps_memberScalars ms h

theorem keeps_itemScalars : (ts : List Tree) → AreTyped ts →
    List.Forall₂ Keeps (Tree.itemScalars ts) ((itemParts ts).filterMap Part.standing?)
  | [], _ => .nil
  | t :: ts, h => by
    rw [Tree.itemScalars, itemParts, List.filterMap_append]
    exact List.rel_append (keeps_scalars t h.1) (keeps_itemScalars ts h.2)

theorem keeps_memberScalars : (ms : List (String × Tree)) → HoldTyped ms →
    List.Forall₂ Keeps (Tree.memberScalars ms) ((memberParts ms).filterMap Part.standing?)
  | [], _ => .nil
  | (name, t) :: ms, h => by
    have hname : Keeps (.text name) ⟨none, .plain, name.toList⟩ := .text fun _ => h.1
    rw [Tree.memberScalars, memberParts, List.cons_append, List.cons_append, List.filterMap_cons, List.filterMap_append]
    exact .cons hname (List.rel_append (keeps_scalars t h.2.1) (keeps_memberScalars ms h.2.2))

end

end Yaml

/-! ## Reports -/

theorem Record.isTyped_tree (r : Record) : Yaml.IsTyped r.tree := by
  refine ⟨?_, trivial, ?_, trivial, ?_, trivial, ?_, Yaml.Untagged.resolve_render r.maxTries, trivial⟩ <;> decide

theorem Source.isTyped_tree (s : Source) : Yaml.IsTyped s.tree := by
  cases s with
  | rejected raw => exact ⟨by decide, trivial, by decide, trivial, trivial⟩
  | _ => exact ⟨by decide, trivial, trivial⟩

theorem Resolution.isTyped_tree (r : Resolution) : Yaml.IsTyped r.tree := by
  refine ⟨?_, trivial, ?_, trivial, ?_, trivial, ?_, trivial, ?_, r.source.isTyped_tree, trivial⟩ <;> decide

theorem Resolution.areTyped_trees (rs : List Resolution) : Yaml.AreTyped (rs.map Resolution.tree) := by
  induction rs with
  | nil => trivial
  | cons r rs ih => exact ⟨r.isTyped_tree, ih⟩

theorem Report.isTyped_tree (r : Report) : Yaml.IsTyped r.tree := by
  refine ⟨?_, r.record.isTyped_tree, ?_, Resolution.areTyped_trees r.resolutions, trivial⟩ <;> decide

/-- The scalars of a record that is written, in order: names and values. -/
def Record.scalars (r : Record) : List Tree :=
  [.text "pytorch_init_container_template_file", .text r.templateFile,
    .text "pytorch_init_container_image", .text r.initImage,
    .text "mpi_kubectl_delivery_image", .text r.deliveryImage,
    .text "pytorch_init_container_max_tries", .integer r.maxTries.val]

/-- The scalars of a resolution that is written; a text that was rejected is the last one. -/
def Resolution.scalars (r : Resolution) : List Tree :=
  [.text "env", .text r.setting.variableName, .text "field", .text r.setting.field,
    .text "kind", .text r.setting.kind.name, .text "value", .text r.value,
    .text "source", .text "kind", .text r.source.tag]
    ++ match r.source with
      | .rejected raw => [.text "raw", .text raw]
      | _ => []

/-- The scalars of a report that is written. -/
def Report.scalars (r : Report) : List Tree :=
  .text "config" :: r.record.scalars ++ .text "settings" :: r.resolutions.flatMap Resolution.scalars

theorem Record.scalars_tree (r : Record) : r.tree.scalars = r.scalars := rfl

theorem Resolution.scalars_tree (r : Resolution) : r.tree.scalars = r.scalars := by
  obtain ⟨setting, value, source⟩ := r
  cases source <;> rfl

theorem Resolution.itemScalars_trees (rs : List Resolution) :
    Tree.itemScalars (rs.map tree) = rs.flatMap scalars := by
  induction rs with
  | nil => rfl
  | cons r rs ih => rw [List.map_cons, Tree.itemScalars, scalars_tree, ih, List.flatMap_cons]

theorem Report.scalars_tree (r : Report) : r.tree.scalars = r.scalars := by
  have hsettings : Tree.memberScalars [("settings", .list (r.resolutions.map Resolution.tree))]
      = .text "settings" :: r.resolutions.flatMap Resolution.scalars := by
    rw [Tree.memberScalars, Tree.scalars, Resolution.itemScalars_trees, Tree.memberScalars, List.append_nil]
  rw [tree, Tree.scalars, Tree.memberScalars, hsettings, Record.scalars_tree]
  rfl

/-- The YAML that is shown for a report, with and without sources, is one document. Its scalars are those of the record
or of the whole report, in order, and each of them is taken for what it is by a reader that asks for no type. -/
theorem Report.yaml_keeps_types (report : Report) (sources : Bool) :
    let printed := deliver (report.output .yaml sources) .endless
    printed.1 = none ∧ ∃ text es, Utf8.strict? printed.2.taken = some text ∧
      Yaml.Document.of text.toList = .present es .end ∧
      List.Forall₂ Yaml.Keeps (if sources then report.scalars else report.record.scalars) (Yaml.standings es) := by
  intro printed
  let tree := if sources then report.tree else report.record.tree
  have hprinted : printed = (none, ⟨Utf8.encode (Yaml.render tree), none, ""⟩) := deliver_ofYaml tree
  have hscalars : (if sources then report.scalars else report.record.scalars) = tree.scalars := by
    cases sources with
    | false => exact report.record.scalars_tree.symm
    | true => exact report.scalars_tree.symm
  have hshape : ∃ ms, tree = .record ms ∧ Yaml.IsWritten (.record ms) ∧ Yaml.IsTyped (.record ms) := by
    cases sources with
    | false => exact ⟨_, rfl, Yaml.isWritten_tree report.record, report.record.isTyped_tree⟩
    | true => exact ⟨_, rfl, report.isWritten_tree, report.isTyped_tree⟩
  obtain ⟨ms, htree, hwritten, htyped⟩ := hshape
  obtain ⟨es, hes, hparts⟩ := Yaml.Document.of_render hwritten
  rw [hprinted, hscalars, htree]
  refine ⟨rfl, _, es, Utf8.strict?_encode _, ?_, ?_⟩
  · rw [String.toList_ofList]
    exact hes
  · rw [Yaml.standings_of_parts hparts]
    exact Yaml.keeps_scalars _ htyped

end StartupConfig
