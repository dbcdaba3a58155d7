import StartupConfig.Proofs.Integer
import StartupConfig.Proofs.Diagnostics
import StartupConfig.Proofs.Layering

/-!
# Records put back into an environment

A record is written into an environment by binding each variable to the text of its setting. A load from there gives
the record back whatever the defaults are: texts pass through as they are, and the integer is read back from its digits.
-/
namespace StartupConfig

namespace Record

theorem readInteger_text (c : Record) : readInteger (.signed 64) (c.text .maxTries) = .ok c.maxTries := by
  rw [readInteger, text, String.toList_ofList,
    IntegerType.read_render _ (by decide) (by decide) c.maxTries]
  rfl

/-- A setting admits the text that a record has for it. -/
theorem admits_text (c : Record) (s : Setting) : s.Admits (c.text s) := by
  rintro rfl
  exact ⟨c.maxTries, c.readInteger_text⟩

/-- The environment that binds each variable to the text of its setting. -/
def environment (c : Record) : Environment :=
  .ofList (Setting.all.map fun s => (s.variableName, c.text s))

theorem lookup_environment (c : Record) (name : String) : c.environment.lookup name = c.textFor? name := by
  by_cases h : ∃ s : Setting, name = s.variableName
  · obtain ⟨s, rfl⟩ := h
    rw [textFor?_variableName, environment, Environment.lookup_ofList]
    cases s <;> rfl
  · have hname (s : Setting) : name ≠ s.variableName := fun hs => h ⟨s, hs⟩
    rw [textFor?_eq, Setting.ofVariable?_eq_none hname, environment, Environment.lookup_ofList]
    simp [Setting.all, Environment.lookup_binding, hname]

end Record

/-! ## A lookup that answers with the texts of a record -/

namespace Loader

variable {e : Lookup} {c : Record} (h : ∀ s : Setting, e s.variableName = some (c.text s)) (d : Record)

include h

theorem load_of_texts : (Loader.mk e d).load = c := by
  have hlong : long? (c.text .maxTries) = some c.maxTries := by
    rw [long?, c.readInteger_text]
    rfl
  simp only [load_eq, h, Option.getD_some, Option.bind_some, hlong]
  rfl

theorem sourceOf_of_texts (s : Setting) : (Loader.mk e d).sourceOf s = .environment :=
  (sourceOf_eq_environment_iff _ s).2 ⟨c.text s, h s, c.admits_text s⟩

theorem refused?_of_texts : (Loader.mk e d).refused? = none := by
  rw [refused?_eq_none_iff]
  intro raw hraw
  obtain rfl : c.text .maxTries = raw := Option.some.inj ((h .maxTries).symm.trans hraw)
  exact ⟨c.maxTries, c.readInteger_text⟩

end Loader

/-- A loaded record is a fixed point. Put into an environment it is loaded again with any defaults, every setting comes
from the environment, nothing is rejected and nothing is warned of. -/
theorem Loader.load_environment (e : Lookup) (d : Record) :
    let c := (Loader.mk e d).load
    (∀ name, c.environment.lookup name = c.textFor? name) ∧
    ∀ (e' : Lookup) (d' : Record), (∀ name ∈ recognizedNames, e' name = c.textFor? name) →
      let l := Loader.mk e' d'
      l.load = c ∧
      (∀ r ∈ l.report.resolutions, r.source = .environment) ∧
      l.report.fromEnvironmentCount = 4 ∧
      l.report.rejected = [] ∧
      ∀ t ∈ l.run.diagnostics, t.level ≠ .warn := by
  intro c
  refine ⟨c.lookup_environment, ?_⟩
  intro e' d' h l
  have htexts (s : Setting) : e' s.variableName = some (c.text s) := by
    rw [h _ s.variableName_mem, Record.textFor?_variableName]
  have hrefused : l.refused? = none := refused?_of_texts htexts d'
  have hrejected : l.report.rejected = [] := by
    rw [← List.length_eq_zero_iff, length_rejected, hrefused]
    rfl
  have hsources : ∀ r ∈ l.report.resolutions, r.source = .environment := by
    intro r hr
    rw [(l.mem_resolutions hr).2]
    exact sourceOf_of_texts htexts d' r.setting
  refine ⟨load_of_texts htexts d', hsources, ?_, hrejected, ?_⟩
  · rw [Report.fromEnvironmentCount, List.countP_eq_length.2, resolutions_eq, List.length_map]
    · rfl
    · intro r hr
      exact decide_eq_true (hsources r hr)
  · have hcount := l.countP_warn
    rw [hrefused] at hcount
    simpa using List.countP_eq_zero.1 hcount

/-- An integer with a sign and zeros in front becomes its digits, and an empty image stays empty; a name that is not
recognized may be there besides. -/
theorem Loader.load_environment_signed :
    let e : Lookup := (Environment.ofList [("PYTORCH_INIT_CONTAINER_IMAGE", ""),
      ("PYTORCH_INIT_CONTAINER_MAX_TRIES", "-0007")]).lookup
    let c := (Loader.mk e .documented).load
    let e' : Environment := c.environment.set "HOME" "/root"
    let d' : Record := ⟨"", "busybox", "", ⟨1, by decide⟩⟩
    e'.lookup "PYTORCH_INIT_CONTAINER_MAX_TRIES" = some "-7" ∧
    (Loader.mk e'.lookup d').load
      = { Record.documented with initImage := "", maxTries := ⟨-7, by decide⟩ } ∧
    (Loader.mk e'.lookup d').report.fromEnvironmentCount = 4 := by
  intro e c e' d'
  have hnames : ∀ name ∈ recognizedNames, e'.lookup name = c.textFor? name := by decide
  obtain ⟨hload, -, hcount, -⟩ := (Loader.load_environment e .documented).2 e'.lookup d' hnames
  refine ⟨by decide, ?_, hcount⟩
  rw [hload]
  decide

end StartupConfig
