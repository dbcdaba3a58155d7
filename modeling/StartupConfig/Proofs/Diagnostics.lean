import StartupConfig.Proofs.Dependence

/-!
# What is told of a load

A load tells first of a text that it refused, then of each setting, then of the whole. Only the integer variable can
be refused. So one value, the refused text with its fault, says what is told first and which resolutions are rejected.
-/
namespace StartupConfig

namespace Loader

/-- The text of the integer variable and what is wrong with it, if it cannot be read. -/
def refused? (l : Loader) : Option (String × ReadFault) :=
  (l.source Setting.maxTries.variableName).bind fun raw =>
    match readInteger (.signed 64) raw with
    | .ok _ => none
    | .error fault => some (raw, fault)

/-- The variable is absent, or its text is read, or the text is refused. -/
theorem refused?_cases (l : Loader) :
    (l.source Setting.maxTries.variableName = none ∧ l.refused? = none) ∨
    ∃ raw, l.source Setting.maxTries.variableName = some raw ∧
      ((∃ n, readInteger (.signed 64) raw = .ok n) ∧ l.refused? = none ∨
        ∃ fault, readInteger (.signed 64) raw = .error fault ∧ l.refused? = some (raw, fault)) := by
  cases hsource : l.source Setting.maxTries.variableName with
  | none => simp [refused?, hsource]
  | some raw =>
    refine Or.inr ⟨raw, rfl, ?_⟩
    cases hread : readInteger (.signed 64) raw with
    | ok n => exact Or.inl ⟨⟨n, rfl⟩, by simp [refused?, hsource, hread]⟩
    | error fault => exact Or.inr ⟨fault, rfl, by simp [refused?, hsource, hread]⟩

theorem refused?_eq_some_iff (l : Loader) (raw : String) (fault : ReadFault) :
    l.refused? = some (raw, fault) ↔
      l.source Setting.maxTries.variableName = some raw ∧ readInteger (.signed 64) raw = .error fault := by
  rcases l.refused?_cases with ⟨hsource, hrefused⟩ | ⟨text, hsource, ⟨⟨n, hread⟩, hrefused⟩ | ⟨cause, hread, hrefused⟩⟩
  · simp [hsource, hrefused]
  · simp only [hsource, hrefused, reduceCtorEq, Option.some.injEq, false_iff, not_and]
    rintro rfl
    simp [hread]
  · simp only [hsource, hrefused, Option.some.injEq, Prod.mk.injEq]
    refine and_congr_right ?_
    rintro rfl
    simp [hread]

theorem refused?_eq_none_iff (l : Loader) :
    l.refused? = none ↔ ∀ raw, l.source Setting.maxTries.variableName = some raw → IsLong raw := by
  rcases l.refused?_cases with ⟨hsource, hrefused⟩ | ⟨text, hsource, ⟨hread, hrefused⟩ | ⟨cause, hread, hrefused⟩⟩
  · simp [hsource, hrefused]
  · have hlong : IsLong text := hread
    simp [hsource, hrefused, hlong]
  · simp [hsource, hrefused, IsLong, hread]

theorem diagnostics_resolveLong (l : Loader) :
    (resolveLong l.source Setting.maxTries.variableName l.defaults.maxTries).diagnostics
      = l.refused?.toList.map fun p => .ignoring Setting.maxTries.variableName p.1 p.2 := by
  rcases l.refused?_cases with ⟨hsource, hrefused⟩ | ⟨text, hsource, ⟨⟨n, hread⟩, hrefused⟩ | ⟨cause, hread, hrefused⟩⟩
  · simp [resolveLong, resolveRead, hsource, hrefused]
  · simp [resolveLong, resolveRead, hsource, hread, hrefused]
  · simp [resolveLong, resolveRead, hsource, hread, hrefused]

theorem isSome_rejected?_sourceOf (l : Loader) (s : Setting) :
    (l.sourceOf s).rejected?.isSome ↔ s = .maxTries ∧ l.refused?.isSome := by
  rw [Option.isSome_iff_ne_none (o := l.refused?), Ne, refused?_eq_none_iff]
  rcases l.sourceOf_cases s with ⟨hnone, hs⟩ | ⟨raw, hraw, ⟨hadmits, hs⟩ | ⟨hadmits, hs⟩⟩
  · simp only [hs, Source.rejected?, Option.isSome_none, Bool.false_eq_true, false_iff]
    rintro ⟨rfl, h⟩
    simp [hnone] at h
  · simp only [hs, Source.rejected?, Option.isSome_none, Bool.false_eq_true, false_iff]
    rintro ⟨rfl, h⟩
    simp [hraw, hadmits rfl] at h
  · obtain ⟨rfl, hlong⟩ := (s.not_admits_iff raw).1 hadmits
    simp [hs, Source.rejected?, hraw, hlong]

theorem length_rejected (l : Loader) : l.report.rejected.length = l.refused?.toList.length := by
  have hcount : l.report.rejected.length
      = Setting.all.countP fun s => decide (s = .maxTries ∧ l.refused?.isSome) := by
    rw [Report.rejected, ← List.countP_eq_length_filter, resolutions_eq, List.countP_map]
    refine List.countP_congr fun s _ => ?_
    simpa using l.isSome_rejected?_sourceOf s
  rw [hcount]
  cases l.refused? <;> rfl

/-- What is refused is told as a warning, and no other warning is told. -/
theorem countP_warn (l : Loader) :
    l.run.diagnostics.countP (fun t => t.level = .warn) = l.refused?.toList.length := by
  rw [diagnostics_eq, diagnostics_resolveLong]
  simp [List.countP_append, List.countP_map, Function.comp_def, Diagnostic.ignoring, Diagnostic.resolved,
    Diagnostic.initialized]

end Loader

/-- A load tells one warning with text and fault if the integer variable has a text that cannot be read, then one
diagnostic for each setting in order with the source that the report names, then one with the counts of the report,
and nothing else. There are as many warnings as rejected resolutions. -/
theorem Loader.diagnostics_spec (l : Loader) :
    let r := l.run.value
    (l.report = r ∧ l.load = r.record) ∧
    (∃ refused : Option (String × ReadFault),
      (∀ raw fault, refused = some (raw, fault) ↔
        l.source "PYTORCH_INIT_CONTAINER_MAX_TRIES" = some raw ∧ readInteger (.signed 64) raw = .error fault) ∧
      l.run.diagnostics =
        refused.toList.map (fun p =>
          { level := .warn
            target := "training_operator_config::config::env"
            message := "ignoring unparsable environment value, using default"
            details := [("variable", .quoted "PYTORCH_INIT_CONTAINER_MAX_TRIES"), ("value", .shown p.1),
              ("error", .shown p.2.message)] })
        ++ r.resolutions.map (fun s =>
          { level := .debug
            target := "training_operator_config::config::loader"
            message := "resolved setting"
            details := [("variable", .quoted s.setting.variableName), ("source", .quoted s.source.label)] })
        ++ [{ level := .info
              target := "training_operator_config::config::loader"
              message := "operator configuration initialized"
              details := [("from_env", .count r.fromEnvironmentCount), ("invalid", .count r.rejected.length),
                ("total", .count r.resolutions.length)] }]) ∧
    r.resolutions.map Resolution.setting = Setting.all ∧
    l.run.diagnostics.countP (fun t => t.level = .warn) = r.rejected.length := by
  intro r
  refine ⟨⟨rfl, rfl⟩, ⟨l.refused?, l.refused?_eq_some_iff, ?_⟩, ?_, ?_⟩
  · rw [diagnostics_eq, diagnostics_resolveLong]
    rfl
  · change l.report.resolutions.map Resolution.setting = Setting.all
    rw [resolutions_eq, List.map_map]
    rfl
  · exact l.countP_warn.trans l.length_rejected.symm

end StartupConfig
