import StartupConfig.Listing
import StartupConfig.Proofs.Provenance

/-!
# What a load depends on

Of an environment a load and a listing see the recognized variables only, and what they make of a setting comes
from the setting's own variable. So names that are not recognized change nothing, whatever they look like, and a
change of one variable stays with its own member of the record and its own resolution.
-/
namespace StartupConfig

/-- The names of the recognized variables. -/
def recognizedNames : List String :=
  ["PYTORCH_INIT_CONTAINER_TEMPLATE_FILE", "PYTORCH_INIT_CONTAINER_IMAGE", "MPI_KUBECTL_DELIVERY_IMAGE",
    "PYTORCH_INIT_CONTAINER_MAX_TRIES"]

theorem Setting.variableName_mem (s : Setting) : s.variableName ∈ recognizedNames := by
  cases s <;> decide

/-- Two records have the same value for a setting. -/
def Record.AgreeOn (a b : Record) : Setting → Prop
  | .templateFile => a.templateFile = b.templateFile
  | .initImage => a.initImage = b.initImage
  | .deliveryImage => a.deliveryImage = b.deliveryImage
  | .maxTries => a.maxTries = b.maxTries

theorem Record.eq_of_agreeOn {a b : Record} (h : ∀ s, a.AgreeOn b s) : a = b := by
  cases a
  cases b
  rw [Record.mk.injEq]
  exact ⟨h .templateFile, h .initImage, h .deliveryImage, h .maxTries⟩

theorem Record.AgreeOn.text {a b : Record} {s : Setting} (h : a.AgreeOn b s) : a.text s = b.text s := by
  cases s <;> simp_all [AgreeOn, Record.text]

/-! ## One variable -/

section

variable {e₁ e₂ : Lookup} {name : String}

theorem resolveText_congr (h : e₁ name = e₂ name) (default : String) :
    resolveText e₁ name default = resolveText e₂ name default := by
  rw [resolveText, resolveText, h]

theorem resolveLong_congr (h : e₁ name = e₂ name) (default : Long) :
    resolveLong e₁ name default = resolveLong e₂ name default := by
  rw [resolveLong, resolveLong, resolveRead, resolveRead, h]

end

namespace Loader

variable {e₁ e₂ : Lookup} (d : Record) {s : Setting}

/-- The member of a setting comes from the setting's own variable. -/
theorem agreeOn_load (h : e₁ s.variableName = e₂ s.variableName) :
    (Loader.mk e₁ d).load.AgreeOn (Loader.mk e₂ d).load s := by
  cases s with
  | maxTries => exact congrArg (fun r => r.value.value) (resolveLong_congr h d.maxTries)
  | _ => exact congrArg Resolved.value (resolveText_congr h _)

/-- So does the source of its resolution. -/
theorem sourceOf_congr (h : e₁ s.variableName = e₂ s.variableName) :
    (Loader.mk e₁ d).sourceOf s = (Loader.mk e₂ d).sourceOf s := by
  cases s with
  | maxTries => exact congrArg (fun r => r.value.source) (resolveLong_congr h d.maxTries)
  | _ => exact congrArg Resolved.source (resolveText_congr h _)

/-- So the resolution of a setting depends on nothing else of the environment. -/
theorem resolution_congr (h : e₁ s.variableName = e₂ s.variableName) :
    Resolution.mk s ((Loader.mk e₁ d).load.text s) ((Loader.mk e₁ d).sourceOf s)
      = Resolution.mk s ((Loader.mk e₂ d).load.text s) ((Loader.mk e₂ d).sourceOf s) := by
  rw [(agreeOn_load d h).text, sourceOf_congr d h]

theorem report_congr (h : ∀ s : Setting, e₁ s.variableName = e₂ s.variableName) :
    (Loader.mk e₁ d).report = (Loader.mk e₂ d).report := by
  have hrecord : (Loader.mk e₁ d).load = (Loader.mk e₂ d).load := Record.eq_of_agreeOn fun s => agreeOn_load d (h s)
  have hresolutions : (Loader.mk e₁ d).report.resolutions = (Loader.mk e₂ d).report.resolutions := by
    rw [resolutions_eq, resolutions_eq]
    exact List.map_congr_left fun s _ => resolution_congr d (h s)
  change Report.mk _ _ = Report.mk _ _
  rw [Report.mk.injEq]
  exact ⟨hrecord, hresolutions⟩

/-- What is told of a load follows from its report, but for the fault of an integer that cannot be read. -/
theorem diagnostics_eq (l : Loader) : l.run.diagnostics =
    (resolveLong l.source Setting.maxTries.variableName l.defaults.maxTries).diagnostics
      ++ l.report.resolutions.map (fun s => .resolved s.setting.variableName s.source)
      ++ [.initialized l.report.fromEnvironmentCount l.report.rejected.length l.report.resolutions.length] := rfl

/-- Loads from lookups that answer every variable alike tell the same. -/
theorem diagnostics_congr (h : ∀ s : Setting, e₁ s.variableName = e₂ s.variableName) :
    (Loader.mk e₁ d).run.diagnostics = (Loader.mk e₂ d).run.diagnostics := by
  rw [diagnostics_eq, diagnostics_eq, report_congr d h, resolveLong_congr (h .maxTries)]

end Loader

theorem listingOutput_congr {e₁ e₂ : Lookup} (h : ∀ s : Setting, e₁ s.variableName = e₂ s.variableName)
    (f : Format) : listingOutput e₁ f = listingOutput e₂ f := by
  have hrows : listing e₁ = listing e₂ := List.map_congr_left fun s _ => by rw [h s]
  rw [listingOutput, listingOutput, hrows]

/-- Loads and listings see the recognized variables only: from environments that agree on these, reports and what
is told are equal, and every sink takes the same of what is shown. If only one variable differs, the record differs
in the member of its setting at most, and so do the resolutions in that of its setting. -/
theorem Loader.depends_on_recognized (e₁ e₂ : Lookup) (d : Record) :
    ((∀ name ∈ recognizedNames, e₁ name = e₂ name) →
      (Loader.mk e₁ d).report = (Loader.mk e₂ d).report ∧
      (Loader.mk e₁ d).run.diagnostics = (Loader.mk e₂ d).run.diagnostics ∧
      ∀ (f : Format) (sink : Sink),
        (∀ sources, deliver ((Loader.mk e₁ d).report.output f sources) sink
          = deliver ((Loader.mk e₂ d).report.output f sources) sink) ∧
        deliver (listingOutput e₁ f) sink = deliver (listingOutput e₂ f) sink) ∧
    ∀ s : Setting, (∀ name ∈ recognizedNames, name ≠ s.variableName → e₁ name = e₂ name) →
      (∀ t, t ≠ s → (Loader.mk e₁ d).report.record.AgreeOn (Loader.mk e₂ d).report.record t) ∧
      (Loader.mk e₁ d).report.resolutions.map Resolution.setting
        = (Loader.mk e₂ d).report.resolutions.map Resolution.setting ∧
      (Loader.mk e₁ d).report.resolutions.filter (fun r => r.setting ≠ s)
        = (Loader.mk e₂ d).report.resolutions.filter fun r => r.setting ≠ s := by
  constructor
  · intro h
    have hnames (s : Setting) : e₁ s.variableName = e₂ s.variableName := h _ s.variableName_mem
    refine ⟨report_congr d hnames, diagnostics_congr d hnames, ?_⟩
    intro f sink
    constructor
    · intro sources
      rw [report_congr d hnames]
    · rw [listingOutput_congr hnames]
  · intro s h
    have hnames (t : Setting) (ht : t ≠ s) : e₁ t.variableName = e₂ t.variableName := by
      apply h _ t.variableName_mem
      intro he
      exact ht (Setting.variableName_injective he)
    refine ⟨?_, ?_, ?_⟩
    · intro t ht
      exact agreeOn_load d (hnames t ht)
    · rw [resolutions_eq, resolutions_eq, List.map_map, List.map_map]
      rfl
    · rw [resolutions_eq, resolutions_eq, List.filter_map, List.filter_map]
      apply List.map_congr_left
      intro t ht
      apply resolution_congr d (hnames t _)
      simpa using (List.mem_filter.1 ht).2

/-- A name in lower case and a longer name are not recognized; the image that the last environment has besides
stays with its own setting. -/
theorem Loader.depends_on_recognized_spellings :
    let e₁ : Lookup := (Environment.ofList [("PYTORCH_INIT_CONTAINER_MAX_TRIES", "many"),
      ("pytorch_init_container_image", "busybox")]).lookup
    let e₂ : Lookup := (Environment.ofList [("PYTORCH_INIT_CONTAINER_MAX_TRIES", "many"),
      ("PYTORCH_INIT_CONTAINER_IMAGES", "busybox")]).lookup
    let e₃ : Lookup := (Environment.ofList [("PYTORCH_INIT_CONTAINER_MAX_TRIES", "many"),
      ("PYTORCH_INIT_CONTAINER_IMAGE", "busybox")]).lookup
    (Loader.mk e₁ .documented).report = (Loader.mk e₂ .documented).report ∧
    (Loader.mk e₁ .documented).report ≠ (Loader.mk e₃ .documented).report ∧
    (Loader.mk e₁ .documented).report.record.AgreeOn (Loader.mk e₃ .documented).report.record .maxTries := by
  intro e₁ e₂ e₃
  refine ⟨?_, by decide, ?_⟩
  · exact ((Loader.depends_on_recognized e₁ e₂ .documented).1 (by decide)).1
  · exact ((Loader.depends_on_recognized e₁ e₃ .documented).2 .initImage (by decide)).1 .maxTries (by decide)

end StartupConfig
