import StartupConfig.Proofs.Json.Tree
import StartupConfig.Proofs.Provenance
import StartupConfig.Proofs.Yaml.Record
import StartupConfig.Proofs.Yaml.Tree

/-!
# Structured reports lose nothing

A report is determined by its tree, even if scalars are only texts in it, and the tree is determined by what is
written. So the bytes that are shown with sources determine the report, with every rejected text.
-/
namespace StartupConfig

/-! ## Trees of reports -/

theorem Source.tree_injective {s s' : Source} (h : s.tree = s'.tree) : s = s' := by
  cases s <;> cases s' <;> simp_all [tree, tag, rejected?]

theorem Resolution.tree_injective {r r' : Resolution} (h : r.tree = r'.tree) : r = r' := by
  obtain ⟨setting, value, source⟩ := r
  obtain ⟨setting', value', source'⟩ := r'
  simp only [tree, Tree.record.injEq, List.cons.injEq, Prod.mk.injEq, Tree.text.injEq, true_and, and_true] at h
  obtain ⟨hname, -, -, hvalue, hsource⟩ := h
  rw [Setting.variableName_injective hname, hvalue, Source.tree_injective hsource]

/-- A source has no scalars but texts. -/
theorem Source.untyped_tree (s : Source) : s.tree.untyped = s.tree := by
  cases s <;> rfl

/-- Nor has a resolution. -/
theorem Resolution.untyped_tree (r : Resolution) : r.tree.untyped = r.tree := by
  simp [tree, Tree.untyped, Tree.untypedMembers, Source.untyped_tree]

theorem Record.untyped_tree_injective {r r' : Record} (h : r.tree.untyped = r'.tree.untyped) : r = r' := by
  obtain ⟨templateFile, initImage, deliveryImage, maxTries⟩ := r
  obtain ⟨templateFile', initImage', deliveryImage', maxTries'⟩ := r'
  simp only [tree, Tree.untyped, Tree.untypedMembers, Tree.record.injEq, List.cons.injEq, Prod.mk.injEq,
    Tree.text.injEq, true_and, and_true, String.ofList_inj] at h
  obtain ⟨rfl, rfl, rfl, htries⟩ := h
  have hval : maxTries.val = maxTries'.val := Decimal.render_injective htries
  rw [Subtype.ext hval]

/-- Reports differ in more than the types of scalars in their trees. -/
theorem Report.untyped_tree_injective {r r' : Report} (h : r.tree.untyped = r'.tree.untyped) : r = r' := by
  obtain ⟨record, resolutions⟩ := r
  obtain ⟨record', resolutions'⟩ := r'
  simp only [tree, Tree.untyped, Tree.untypedMembers, Tree.untypedItems_eq, Tree.record.injEq, List.cons.injEq,
    Prod.mk.injEq, Tree.list.injEq, List.map_map, true_and, and_true] at h
  obtain ⟨hrecord, hresolutions⟩ := h
  have hinjective (s s' : Resolution)
      (h : (Tree.untyped ∘ Resolution.tree) s = (Tree.untyped ∘ Resolution.tree) s') : s = s' := by
    simp only [Function.comp_apply, Resolution.untyped_tree] at h
    exact Resolution.tree_injective h
  rw [Record.untyped_tree_injective hrecord, (List.map_inj_right hinjective).1 hresolutions]

/-! ## Written reports -/

theorem Source.isWritten_tree (s : Source) : Yaml.IsWritten s.tree := by
  cases s with
  | rejected raw =>
    refine ⟨List.cons_ne_nil _ _, ?_, trivial, ?_, trivial, trivial⟩ <;> decide
  | _ =>
    refine ⟨List.cons_ne_nil _ _, ?_, trivial, trivial⟩
    decide

theorem Resolution.isWritten_tree (r : Resolution) : Yaml.IsWritten r.tree := by
  refine ⟨List.cons_ne_nil _ _, ?_, trivial, ?_, trivial, ?_, trivial, ?_, trivial, ?_, r.source.isWritten_tree,
    trivial⟩ <;> decide

theorem Resolution.areItems_trees (rs : List Resolution) : Yaml.AreItems (rs.map Resolution.tree) := by
  induction rs with
  | nil => trivial
  | cons r rs ih => exact ⟨r.isWritten_tree, ih⟩

namespace Report

theorem isWritten_tree (r : Report) : Yaml.IsWritten r.tree := by
  refine ⟨List.cons_ne_nil _ _, ?_, Yaml.isWritten_tree r.record, ?_, Resolution.areItems_trees r.resolutions,
    trivial⟩ <;> decide

/-- In both formats a report is shown as a text that tells the report. -/
theorem exists_text {f : Format} (hf : f ≠ .human) : ∃ text : Report → List Char,
    (∀ r : Report, deliver (r.output f true) .endless = (none, ⟨Utf8.encode (text r), none, ""⟩)) ∧
      ∀ r r' : Report, text r = text r' → r = r' := by
  cases f with
  | human => exact absurd rfl hf
  | json =>
    refine ⟨fun r => Json.render r.tree ++ ['\n'], fun r => deliver_ofJson r.tree, ?_⟩
    intro r r' h
    apply untyped_tree_injective
    rw [Json.render_injective (List.append_cancel_right h)]
  | yaml =>
    refine ⟨fun r => Yaml.render r.tree, fun r => deliver_ofYaml r.tree, ?_⟩
    intro r r' h
    apply untyped_tree_injective
    exact Yaml.untyped_eq_of_render r.isWritten_tree r'.isWritten_tree h

end Report

/-- Showing a report with its sources in a structured format succeeds, and different reports, whatever record and
resolutions they hold, are shown as different bytes. -/
theorem Report.structured_eq_iff {f : Format} (hf : f ≠ .human) (r r' : Report) :
    let shown (r : Report) := deliver (r.output f true) .endless
    (shown r).1 = none ∧ ((shown r).2.taken = (shown r').2.taken ↔ r = r') := by
  intro shown
  obtain ⟨text, htext, hinjective⟩ := exists_text hf
  have hshown (r : Report) : shown r = (none, ⟨Utf8.encode (text r), none, ""⟩) := htext r
  refine ⟨by rw [hshown], ?_⟩
  constructor
  · intro h
    rw [hshown, hshown] at h
    apply hinjective
    exact Utf8.encode_injective h
  · rintro rfl
    rfl

/-- A blank at the end of a rejected text shows in YAML. -/
theorem Report.structured_eq_iff_blank :
    let report (raw : String) := (Loader.reading
      (Environment.ofList [("PYTORCH_INIT_CONTAINER_MAX_TRIES", raw)]).lookup).report
    (deliver ((report "1 ").output .yaml true) .endless).2.taken
      ≠ (deliver ((report "1  ").output .yaml true) .endless).2.taken := by
  intro report h
  have heq := (Report.structured_eq_iff (by decide : Format.yaml ≠ .human) _ _).2.1 h
  exact absurd heq (by decide)

end StartupConfig
