import StartupConfig.Proofs.Provenance

/-!
# Loads over loads

A record that was loaded can stand in as the defaults of another load. The two loads amount to one, from a lookup
in which the later environment stands over the earlier one. A text of the later environment hides the earlier one
only if the load takes it: an unreadable integer is looked through, as the load falls back from it.
-/
namespace StartupConfig

/-- The integer that a text is read as, if it is one. -/
def long? (raw : String) : Option Long := (readInteger (.signed 64) raw).toOption

theorem isSome_long?_iff (raw : String) : (long? raw).isSome ↔ IsLong raw := by
  cases h : readInteger (.signed 64) raw <;> simp [long?, IsLong, h, Except.toOption]

/-- A lookup stands for an upper and a lower one: of a text variable it has the upper text if there is one, of the
integer variable it has the upper text if that can be read. -/
structure Lookup.Merges (upper lower merged : Lookup) : Prop where
  text : ∀ s : Setting, s ≠ .maxTries →
    merged s.variableName = (upper s.variableName).or (lower s.variableName)
  readable : ∀ raw, upper Setting.maxTries.variableName = some raw → IsLong raw →
    merged Setting.maxTries.variableName = some raw
  unreadable : (∀ raw, upper Setting.maxTries.variableName = some raw → ¬IsLong raw) →
    merged Setting.maxTries.variableName = lower Setting.maxTries.variableName

/-- The integer is read from the upper text if that can be read, and else from the lower one. -/
theorem Lookup.Merges.integer {upper lower merged : Lookup} (h : Merges upper lower merged) :
    (merged Setting.maxTries.variableName).bind long?
      = ((upper Setting.maxTries.variableName).bind long?).or ((lower Setting.maxTries.variableName).bind long?) := by
  cases hu : (upper Setting.maxTries.variableName).bind long? with
  | none =>
    rw [h.unreadable, Option.none_or]
    intro raw hraw hlong
    simp [hraw, Option.isSome_iff_ne_none.1 ((isSome_long?_iff raw).2 hlong)] at hu
  | some n =>
    obtain ⟨raw, hraw, hn⟩ := Option.bind_eq_some_iff.1 hu
    rw [h.readable raw hraw ((isSome_long?_iff raw).1 (by simp [hn])), Option.some_or, Option.bind_some, hn]

namespace Loader

/-- A load, member by member. -/
theorem load_eq (l : Loader) : l.load =
    { templateFile := (l.source Setting.templateFile.variableName).getD l.defaults.templateFile
      initImage := (l.source Setting.initImage.variableName).getD l.defaults.initImage
      deliveryImage := (l.source Setting.deliveryImage.variableName).getD l.defaults.deliveryImage
      maxTries := ((l.source Setting.maxTries.variableName).bind long?).getD l.defaults.maxTries } := by
  change Record.mk _ _ _ _ = _
  rw [Record.mk.injEq]
  exact ⟨resolveText_value .., resolveText_value .., resolveText_value .., resolveLong_value ..⟩

/-- Loading over a loaded record is loading once. -/
theorem load_of_merges {upper lower merged : Lookup} (h : Lookup.Merges upper lower merged) (d : Record) :
    (Loader.mk upper (Loader.mk lower d).load).load = (Loader.mk merged d).load := by
  simp [load_eq, h.text, h.integer, Option.getD_or]

end Loader

/-! ## Any number of environments -/

namespace Lookup

/-- Does a variable take a text? The integer variable wants an integer, every other variable takes all texts. -/
def takes (name raw : String) : Bool := name != Setting.maxTries.variableName || (long? raw).isSome

/-- One lookup over another: the text of the upper one if its variable takes it, else that of the lower one. -/
def above (upper lower : Lookup) : Lookup := fun name => ((upper name).filter (takes name)).or (lower name)

theorem takes_text {s : Setting} (hs : s ≠ .maxTries) (raw : String) : takes s.variableName raw := by
  cases s <;> simp_all [takes, Setting.variableName, Setting.specification]

theorem takes_integer_iff (raw : String) : takes Setting.maxTries.variableName raw ↔ IsLong raw := by
  simp [takes, isSome_long?_iff]

theorem merges_above (upper lower : Lookup) : Merges upper lower (upper.above lower) where
  text s hs := by cases h : upper s.variableName <;> simp [above, h, Option.filter_some, takes_text hs]
  readable raw hraw hlong := by simp [above, hraw, Option.filter_some, (takes_integer_iff raw).2 hlong]
  unreadable h := by
    cases hu : upper Setting.maxTries.variableName with
    | none => simp [above, hu]
    | some raw => simp [above, hu, Option.filter_some, (not_congr (takes_integer_iff raw)).2 (h raw hu)]

/-- A text is that of the uppermost lookup with one that is taken, in whatever grouping. -/
theorem above_assoc (e₁ e₂ e₃ : Lookup) : (e₃.above e₂).above e₁ = e₃.above (e₂.above e₁) := by
  funext name
  simp only [above]
  cases h : (e₃ name).filter (takes name) with
  | none => simp
  | some raw => simp [(Option.filter_eq_some_iff.1 h).2]

end Lookup

/-- Environments put over one another, in some grouping. -/
inductive Layers
  | single (source : Lookup)
  | above (upper lower : Layers)

namespace Layers

/-- The environments, the lowest first. -/
def bottomUp : Layers → List Lookup
  | .single source => [source]
  | .above upper lower => lower.bottomUp ++ upper.bottomUp

/-- The one lookup that the environments amount to. -/
def merged : Layers → Lookup
  | .single source => source
  | .above upper lower => upper.merged.above lower.merged

/-- A load from what the environments amount to is as good as a load of each, from the lowest upwards. -/
theorem load_merged (t : Layers) (d : Record) :
    (Loader.mk t.merged d).load = t.bottomUp.foldl (fun r e => (Loader.mk e r).load) d := by
  induction t generalizing d with
  | single source => rfl
  | above upper lower hupper hlower =>
    rw [merged, bottomUp, List.foldl_append, ← hlower, ← hupper]
    exact (Loader.load_of_merges (Lookup.merges_above _ _) d).symm

end Layers

theorem Lookup.merges_self (e : Lookup) : Merges e e e where
  text s _ := by simp
  readable _ hraw _ := hraw
  unreadable _ := rfl

/-- Loads compose. A load over a loaded record is a load from any lookup that stands for both environments, a load
over its own record changes nothing, and where environments are put over one another the grouping changes neither
what they amount to nor the record, which is the same as from loading them one after the other. -/
theorem Loader.load_layered :
    (∀ (e₁ e₂ merged : Lookup) (d : Record), Lookup.Merges e₂ e₁ merged →
      (Loader.mk e₂ (Loader.mk e₁ d).load).load = (Loader.mk merged d).load) ∧
    (∀ (e : Lookup) (d : Record), (Loader.mk e (Loader.mk e d).load).load = (Loader.mk e d).load) ∧
    (∀ e₁ e₂ : Lookup, Lookup.Merges e₂ e₁ (e₂.above e₁)) ∧
    (∀ e₁ e₂ e₃ : Lookup, (e₃.above e₂).above e₁ = e₃.above (e₂.above e₁)) ∧
    ∀ (t : Layers) (d : Record),
      (Loader.mk t.merged d).load = t.bottomUp.foldl (fun r e => (Loader.mk e r).load) d := by
  refine ⟨?_, ?_, ?_, Lookup.above_assoc, Layers.load_merged⟩
  · intro e₁ e₂ merged d h
    exact load_of_merges h d
  · intro e d
    exact load_of_merges e.merges_self d
  · intro e₁ e₂
    exact Lookup.merges_above e₂ e₁

/-- An unreadable integer over a readable one, and an empty text over another text. -/
theorem Loader.load_layered_unreadable :
    let lower : Lookup := (Environment.ofList [("MPI_KUBECTL_DELIVERY_IMAGE", "delivery:v2"),
      ("PYTORCH_INIT_CONTAINER_MAX_TRIES", "7")]).lookup
    let upper : Lookup := (Environment.ofList [("MPI_KUBECTL_DELIVERY_IMAGE", ""),
      ("PYTORCH_INIT_CONTAINER_MAX_TRIES", "seven")]).lookup
    let merged : Lookup := (Environment.ofList [("MPI_KUBECTL_DELIVERY_IMAGE", ""),
      ("PYTORCH_INIT_CONTAINER_MAX_TRIES", "7")]).lookup
    Lookup.Merges upper lower merged ∧
    (Loader.mk upper (Loader.mk lower .documented).load).load
      = { Record.documented with deliveryImage := "", maxTries := ⟨7, by decide⟩ } := by
  intro lower upper merged
  have hmerges : Lookup.Merges upper lower merged :=
    { text := by intro s hs; cases s <;> first | rfl | exact absurd rfl hs
      readable := by
        rintro raw hraw ⟨n, hn⟩
        obtain rfl : "seven" = raw := Option.some.inj hraw
        have hseven : readInteger (.signed 64) "seven" = .error (.integer .invalidDigit) := rfl
        simp [hseven] at hn
      unreadable := fun _ => rfl }
  refine ⟨hmerges, ?_⟩
  rw [Loader.load_layered.1 lower upper merged .documented hmerges]
  decide

end StartupConfig
