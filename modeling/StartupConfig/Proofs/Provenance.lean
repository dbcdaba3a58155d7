import StartupConfig.Loading
import StartupConfig.Show

/-!
# Where loaded values come from

A report is compared with a reference that treats the settings alike: the text of the variable where it can be
read, else the default. The main statement ties the record, its written form, the resolutions and the counts
of a report to that reference, for every lookup and all defaults.
-/
namespace StartupConfig

/-- The member of a written record that has a name. -/
def Tree.member? : Tree → String → Option Tree
  | .record members, name => members.lookup name
  | _, _ => none

/-- A text, or an integer in decimal digits. -/
def Tree.scalarText? : Tree → Option String
  | .text value => some value
  | .integer value => some (String.ofList (Decimal.render value))
  | _ => none

/-- A text that is read as an integer of the record. -/
def IsLong (raw : String) : Prop := ∃ n : Long, readInteger (.signed 64) raw = .ok n

namespace Setting

/-- Every text can be the value of a text setting; the integer setting wants an integer. -/
def Admits (s : Setting) (raw : String) : Prop := s = .maxTries → IsLong raw

theorem not_admits_iff (s : Setting) (raw : String) : ¬s.Admits raw ↔ s = .maxTries ∧ ¬IsLong raw := by
  simp [Admits]

@[simp] theorem ofVariable?_variableName (s : Setting) : ofVariable? s.variableName = some s := by
  cases s <;> decide

theorem ofVariable?_eq_none {name : String} (h : ∀ s : Setting, name ≠ s.variableName) : ofVariable? name = none := by
  rw [ofVariable?, List.find?_eq_none]
  intro s _
  simpa using (h s).symm

/-- The table has one row for an integer. -/
theorem kind_eq_integer_iff (s : Setting) : s.kind = .integer ↔ s = .maxTries := by
  cases s <;> decide

theorem variableName_injective {s t : Setting} (h : s.variableName = t.variableName) : s = t := by
  have hs := ofVariable?_variableName s
  rw [h, ofVariable?_variableName] at hs
  exact (Option.some.inj hs).symm

end Setting

/-- The field of a setting holds the setting's text in the written record. -/
theorem Record.member?_tree (r : Record) (s : Setting) :
    (r.tree.member? s.field).bind Tree.scalarText? = some (r.text s) := by
  cases s <;> rfl

/-- The names that stand for a value are those of the table. -/
theorem Record.textFor?_eq (r : Record) (name : String) :
    r.textFor? name = (Setting.ofVariable? name).map r.text := by
  unfold textFor?
  split
  case h_5 hfile himage hdelivery htries =>
    have hname (s : Setting) : name ≠ s.variableName := by cases s <;> assumption
    rw [Setting.ofVariable?_eq_none hname]
    rfl
  all_goals rfl

@[simp] theorem Record.textFor?_variableName (r : Record) (s : Setting) :
    r.textFor? s.variableName = some (r.text s) := by
  rw [textFor?_eq, Setting.ofVariable?_variableName]
  rfl

theorem resolveText_value (lookup : Lookup) (name default : String) :
    (resolveText lookup name default).value = (lookup name).getD default := by
  unfold resolveText
  split <;> simp_all

theorem resolveLong_value (lookup : Lookup) (name : String) (default : Long) :
    (resolveLong lookup name default).value.value =
      ((lookup name).bind fun raw => (readInteger _ raw).toOption).getD default := by
  unfold resolveLong resolveRead
  cases h : lookup name with
  | none => rfl
  | some raw => cases hr : readInteger (.signed 64) raw <;> simp [hr, Except.toOption]

namespace Loader

/-- What the setting's own loading function returns for its variable and its default. -/
def loadedAlone (l : Loader) : Setting → String
  | .maxTries =>
    let tries := resolveLong l.source Setting.maxTries.variableName l.defaults.maxTries
    String.ofList (Decimal.render tries.value.value.val)
  | s => (resolveText l.source s.variableName (l.defaults.text s)).value

/-- The source that a setting's resolution names. -/
def sourceOf (l : Loader) : Setting → Source
  | .maxTries =>
    (resolveLong l.source Setting.maxTries.variableName l.defaults.maxTries).value.source
  | s => (resolveText l.source s.variableName (l.defaults.text s)).source

/-- A report has one resolution for each setting, in order: the sources are listed in the order of the table, and the
record answers the name of each row with the value of its setting. -/
theorem resolutions_eq (l : Loader) :
    l.report.resolutions = Setting.all.map fun s => ⟨s, l.load.text s, l.sourceOf s⟩ := rfl

theorem text_load (l : Loader) (s : Setting) : l.load.text s = l.loadedAlone s := by
  cases s <;> rfl

/-- All settings are classified alike; only what they admit differs. -/
theorem sourceOf_cases (l : Loader) (s : Setting) :
    (l.source s.variableName = none ∧ l.sourceOf s = .fallback) ∨
    ∃ raw, l.source s.variableName = some raw ∧
      (s.Admits raw ∧ l.sourceOf s = .environment ∨ ¬s.Admits raw ∧ l.sourceOf s = .rejected raw) := by
  cases h : l.source s.variableName with
  | none => cases s <;> simp_all [sourceOf, resolveText, resolveLong, resolveRead]
  | some raw =>
    refine Or.inr ⟨raw, rfl, ?_⟩
    cases s with
    | maxTries =>
      cases hr : readInteger (.signed 64) raw with
      | ok n =>
        exact Or.inl ⟨fun _ => ⟨n, hr⟩, by simp [sourceOf, resolveLong, resolveRead, h, hr]⟩
      | error fault =>
        refine Or.inr ⟨fun ha => ?_, by simp [sourceOf, resolveLong, resolveRead, h, hr]⟩
        obtain ⟨n, hn⟩ := ha rfl
        simp [hn] at hr
    | _ => exact Or.inl ⟨(by cases ·), by simp [sourceOf, resolveText, h]⟩

theorem sourceOf_eq_fallback_iff (l : Loader) (s : Setting) :
    l.sourceOf s = .fallback ↔ l.source s.variableName = none := by
  rcases l.sourceOf_cases s with ⟨hn, hs⟩ | ⟨raw, hr, ⟨-, hs⟩ | ⟨-, hs⟩⟩ <;> simp [*]

theorem sourceOf_eq_rejected_iff (l : Loader) (s : Setting) (raw : String) :
    l.sourceOf s = .rejected raw ↔ l.source s.variableName = some raw ∧ ¬s.Admits raw := by
  rcases l.sourceOf_cases s with ⟨hn, hs⟩ | ⟨raw', hr, ⟨ha, hs⟩ | ⟨ha, hs⟩⟩
  · simp [hn, hs]
  · simp only [hs, hr, Option.some.injEq, reduceCtorEq, false_iff]
    rintro ⟨rfl, hna⟩
    exact hna ha
  · simp only [hs, hr, Source.rejected.injEq, Option.some.injEq]
    exact ⟨fun h => ⟨h, h ▸ ha⟩, And.left⟩

theorem sourceOf_eq_environment_iff (l : Loader) (s : Setting) :
    l.sourceOf s = .environment ↔ ∃ raw, l.source s.variableName = some raw ∧ s.Admits raw := by
  rcases l.sourceOf_cases s with ⟨hn, hs⟩ | ⟨raw, hr, ⟨ha, hs⟩ | ⟨ha, hs⟩⟩ <;> simp [*]

/-- The number of variables that the lookup knows. -/
def presentCount (l : Loader) : Nat := Setting.all.countP fun s => (l.source s.variableName).isSome

/-- A resolution belongs to a report exactly if it is the one of its setting. -/
theorem mem_resolutions (l : Loader) {r : Resolution} (h : r ∈ l.report.resolutions) :
    r.value = l.report.record.text r.setting ∧ r.source = l.sourceOf r.setting := by
  rw [resolutions_eq] at h
  obtain ⟨s, -, rfl⟩ := List.mem_map.1 h
  exact ⟨rfl, rfl⟩

end Loader

/-- Each resolution has one of three sources. -/
theorem Report.count_sources (r : Report) :
    r.fromEnvironmentCount + r.rejected.length
      + r.resolutions.countP (fun s => s.source = .fallback) = r.resolutions.length := by
  obtain ⟨record, resolutions⟩ := r
  simp only [fromEnvironmentCount, rejected, ← List.countP_eq_length_filter]
  induction resolutions with
  | nil => rfl
  | cons s ss ih =>
    simp only [List.countP_cons, List.length_cons]
    have hs : (if s.source = .environment then 1 else 0) + (if s.source.rejected?.isSome then 1 else 0)
        + (if s.source = .fallback then 1 else 0) = 1 := by
      cases s.source <;> simp [Source.rejected?]
    simp only [decide_eq_true_eq]
    omega

theorem Loader.count_fallback (l : Loader) :
    l.report.resolutions.countP (fun s => s.source = .fallback) + l.presentCount
      = Setting.all.length := by
  have h : l.presentCount = Setting.all.countP fun s => ¬l.sourceOf s = .fallback := by
    refine List.countP_congr fun s _ => ?_
    simp [sourceOf_eq_fallback_iff, Option.isSome_iff_ne_none]
  rw [h, resolutions_eq, List.countP_map]
  have hall := List.length_eq_countP_add_countP (fun s => decide (l.sourceOf s = .fallback)) (l := Setting.all)
  simp only [decide_eq_true_eq] at hall
  exact hall.symm

/-- A report is what the lookup and the defaults make it: the record has the text that was found or else the
default, the resolutions show the members of the written record in order and where each came from, and the
counts are those of the variables that are present. -/
theorem Loader.report_spec (l : Loader) :
    let r := l.report
    (r.record.templateFile = (l.source "PYTORCH_INIT_CONTAINER_TEMPLATE_FILE").getD l.defaults.templateFile ∧
      r.record.initImage = (l.source "PYTORCH_INIT_CONTAINER_IMAGE").getD l.defaults.initImage ∧
      r.record.deliveryImage = (l.source "MPI_KUBECTL_DELIVERY_IMAGE").getD l.defaults.deliveryImage ∧
      r.record.maxTries = ((l.source "PYTORCH_INIT_CONTAINER_MAX_TRIES").bind fun raw =>
        (readInteger (.signed 64) raw).toOption).getD l.defaults.maxTries) ∧
    (r.resolutions.map Resolution.setting = Setting.all ∧
      ∀ s ∈ r.resolutions,
        (r.record.tree.member? s.setting.field).bind Tree.scalarText? = some s.value ∧
        r.record.textFor? s.setting.variableName = some s.value ∧
        s.value = l.loadedAlone s.setting) ∧
    (∀ s ∈ r.resolutions,
      (s.source = .fallback ↔ l.source s.setting.variableName = none) ∧
      (∀ raw, s.source = .rejected raw ↔
        s.setting = .maxTries ∧ l.source s.setting.variableName = some raw ∧ ¬IsLong raw) ∧
      (s.source = .environment ↔ ∃ raw, l.source s.setting.variableName = some raw ∧
        (s.setting = .maxTries → IsLong raw))) ∧
    r.fromEnvironmentCount + r.rejected.length = l.presentCount ∧
    r.fromEnvironmentCount + r.rejected.length
      + r.resolutions.countP (fun s => s.source = .fallback) = Setting.all.length := by
  intro r
  have hcount := r.count_sources
  have hsettings : r.resolutions.map Resolution.setting = Setting.all := by
    simp only [r, resolutions_eq, List.map_map]
    rfl
  have hlength : r.resolutions.length = Setting.all.length := by rw [← hsettings, List.length_map]
  have hfallback := l.count_fallback
  refine ⟨⟨resolveText_value .., resolveText_value .., resolveText_value .., resolveLong_value ..⟩,
    ⟨hsettings, fun s hs => ?_⟩, fun s hs => ?_, ?_, by rw [hcount, hlength]⟩
  · obtain ⟨hvalue, -⟩ := l.mem_resolutions hs
    rw [hvalue]
    exact ⟨Record.member?_tree .., Record.textFor?_variableName .., l.text_load _⟩
  · obtain ⟨-, hsource⟩ := l.mem_resolutions hs
    rw [hsource]
    refine ⟨l.sourceOf_eq_fallback_iff _, fun raw => ?_, l.sourceOf_eq_environment_iff _⟩
    rw [sourceOf_eq_rejected_iff, Setting.not_admits_iff]
    exact and_left_comm
  · change r.resolutions.countP _ + _ = _ at hfallback
    omega

end StartupConfig
