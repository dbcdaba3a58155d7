import Mathlib.Data.List.Induction
import StartupConfig.Session

/-!
# What the loader of a session reads

A loader reads the environment that the session held when the loader was made, and falls back to the defaults that were
last put in effect on it. Both are said of the steps alone, by the last step that writes the part of the session in
question. That the steps behind it change nothing comes from one frame lemma: a step leaves what it does not write.
-/
namespace StartupConfig

/-- The parts of a session. -/
inductive Part
  | env
  | saved
  | snapshot
  | defaults
  | report
  | previous
  deriving DecidableEq

/-- The parts that a step writes. -/
def Step.writes : Step → List Part
  | .set _ _ => [.env]
  | .collect _ => [.env]
  | .clear => [.env]
  | .save => [.saved]
  | .restore => [.env]
  | .newLoader => [.snapshot, .defaults]
  | .putDefaults _ => [.defaults]
  | .putImage _ => [.defaults]
  | .reportedDefaults => [.defaults]
  | .load => [.previous]
  | .makeReport => [.report]
  | .keep _ => [.report]
  | .edit _ _ => [.report]
  | _ => []

/-- None of the steps writes a part. -/
def Leave (steps : List Step) (p : Part) : Prop := ∀ step ∈ steps, p ∉ step.writes

instance (steps : List Step) (p : Part) : Decidable (Leave steps p) :=
  inferInstanceAs (Decidable (∀ step ∈ steps, p ∉ step.writes))

theorem Leave.nil (p : Part) : Leave [] p := by
  intro step h
  cases h

theorem Leave.snoc {steps : List Step} {p : Part} (h : Leave steps p) {step : Step} (hstep : p ∉ step.writes) :
    Leave (steps ++ [step]) p := by
  intro x hx
  rcases List.mem_append.1 hx with hx | hx
  · exact h x hx
  · rw [List.mem_singleton.1 hx]
    exact hstep

namespace Session

/-- Two sessions have the same part. -/
def AgreeOn (a b : Session) : Part → Prop
  | .env => a.env = b.env
  | .saved => a.saved = b.saved
  | .snapshot => a.snapshot = b.snapshot
  | .defaults => a.defaults = b.defaults
  | .report => a.report = b.report
  | .previous => a.previous = b.previous

theorem AgreeOn.refl (s : Session) (p : Part) : s.AgreeOn s p := by
  cases p <;> rfl

theorem AgreeOn.trans {a b c : Session} {p : Part} (hab : a.AgreeOn b p) (hbc : b.AgreeOn c p) : a.AgreeOn c p := by
  cases p <;> exact Eq.trans hab hbc

/-- A session after steps. -/
def after (s : Session) (steps : List Step) : Session := steps.foldl next s

theorem after_cons (s : Session) (step : Step) (steps : List Step) :
    s.after (step :: steps) = (s.next step).after steps := rfl

theorem after_append (s : Session) (before later : List Step) :
    s.after (before ++ later) = (s.after before).after later := List.foldl_append

theorem after_snoc (s : Session) (steps : List Step) (step : Step) :
    s.after (steps ++ [step]) = (s.after steps).next step := by
  rw [after_append]
  rfl

theorem run_append (s : Session) (before later : List Step) :
    s.run (before ++ later) = s.run before ++ (s.after before).run later := by
  induction before generalizing s with
  | nil => rfl
  | cons step before ih => rw [List.cons_append, run, ih, run, List.cons_append, after_cons]

/-! ## Frames -/

/-- A step leaves the parts that it does not write. -/
theorem next_agreeOn (s : Session) (step : Step) {p : Part} (h : p ∉ step.writes) : (s.next step).AgreeOn s p := by
  cases step <;> cases p <;> first | rfl | exact absurd (by simp [Step.writes]) h

theorem after_agreeOn (s : Session) {steps : List Step} {p : Part} (h : Leave steps p) :
    (s.after steps).AgreeOn s p := by
  induction steps generalizing s with
  | nil => exact AgreeOn.refl s p
  | cons step steps ih =>
    have hsteps := ih (s.next step) fun x hx => h x (List.mem_cons_of_mem step hx)
    exact hsteps.trans (s.next_agreeOn step (h step List.mem_cons_self))

/-- What the last of the steps that write a part made of it stays. -/
theorem after_lastWriter (s : Session) {before later : List Step} {step : Step} {p : Part} (h : Leave later p) :
    (s.after (before ++ step :: later)).AgreeOn ((s.after before).next step) p := by
  rw [after_append, after_cons]
  exact after_agreeOn _ h

theorem loader_congr {a b : Session} (hsnapshot : a.AgreeOn b .snapshot) (hdefaults : a.AgreeOn b .defaults) :
    a.loader = b.loader := by
  change a.snapshot = b.snapshot at hsnapshot
  change a.defaults = b.defaults at hdefaults
  rw [loader, loader, hsnapshot, hdefaults]

/-! ## The last step that writes -/

/-- The environment that the loader was made over, after steps from the start: the one that the session held before the
last step that makes a loader, or the empty one if no step does. -/
inductive MadeOver : List Step → Environment → Prop
  | never {steps : List Step} (h : Leave steps .snapshot) : MadeOver steps .empty
  | newLoader {before later : List Step} (h : Leave later .snapshot) :
    MadeOver (before ++ .newLoader :: later) (start.after before).env

/-- The defaults in effect after steps from the start: those of the last step that puts any. A new loader begins with
the documented ones, an image goes into the ones in effect before, a reported record is taken as it is then. -/
inductive InEffect : List Step → Record → Prop
  | never {steps : List Step} (h : Leave steps .defaults) : InEffect steps .documented
  | newLoader {before later : List Step} (h : Leave later .defaults) :
    InEffect (before ++ .newLoader :: later) .documented
  | putDefaults {before later : List Step} (d : Record) (h : Leave later .defaults) :
    InEffect (before ++ .putDefaults d :: later) d
  | putImage {before later : List Step} {d : Record} (image : String) (hbefore : InEffect before d)
    (h : Leave later .defaults) : InEffect (before ++ .putImage image :: later) (d.withInitImage image)
  | reportedDefaults {before later : List Step} (h : Leave later .defaults) :
    InEffect (before ++ .reportedDefaults :: later) (start.after before).report.record

theorem MadeOver.snoc {steps : List Step} {e : Environment} (h : MadeOver steps e) {step : Step}
    (hstep : Part.snapshot ∉ step.writes) : MadeOver (steps ++ [step]) e := by
  cases h with
  | never h => exact .never (h.snoc hstep)
  | newLoader h =>
    rw [List.append_assoc, List.cons_append]
    exact .newLoader (h.snoc hstep)

theorem InEffect.snoc {steps : List Step} {d : Record} (h : InEffect steps d) {step : Step}
    (hstep : Part.defaults ∉ step.writes) : InEffect (steps ++ [step]) d := by
  cases h with
  | never h => exact .never (h.snoc hstep)
  | newLoader h =>
    rw [List.append_assoc, List.cons_append]
    exact .newLoader (h.snoc hstep)
  | putDefaults d h =>
    rw [List.append_assoc, List.cons_append]
    exact .putDefaults d (h.snoc hstep)
  | putImage image hbefore h =>
    rw [List.append_assoc, List.cons_append]
    exact .putImage image hbefore (h.snoc hstep)
  | reportedDefaults h =>
    rw [List.append_assoc, List.cons_append]
    exact .reportedDefaults (h.snoc hstep)

/-- The snapshot of a reachable session is the environment that its loader was made over. -/
theorem madeOver_after (steps : List Step) : MadeOver steps (start.after steps).snapshot := by
  -- From the right: a step that makes a loader is the last one to do so, any other step stands behind the last one.
  induction steps using List.reverseRecOn with
  | nil => exact .never (.nil _)
  | append_singleton steps step ih =>
    rw [after_snoc]
    by_cases hstep : Part.snapshot ∈ step.writes
    · cases step with
      | newLoader => exact .newLoader (.nil _)
      | _ => simp [Step.writes] at hstep
    · have hsnapshot : ((start.after steps).next step).snapshot = (start.after steps).snapshot :=
        next_agreeOn _ step hstep
      rw [hsnapshot]
      exact ih.snoc hstep

/-- The defaults of a reachable session are the ones in effect. -/
theorem inEffect_after (steps : List Step) : InEffect steps (start.after steps).defaults := by
  induction steps using List.reverseRecOn with
  | nil => exact .never (.nil _)
  | append_singleton steps step ih =>
    rw [after_snoc]
    by_cases hstep : Part.defaults ∈ step.writes
    · cases step with
      | newLoader => exact .newLoader (.nil _)
      | putDefaults d => exact .putDefaults d (.nil _)
      | putImage image => exact .putImage image ih (.nil _)
      | reportedDefaults => exact .reportedDefaults (.nil _)
      | _ => simp [Step.writes] at hstep
    · have hdefaults : ((start.after steps).next step).defaults = (start.after steps).defaults :=
        next_agreeOn _ step hstep
      rw [hdefaults]
      exact ih.snoc hstep

theorem MadeOver.snapshot_eq {steps : List Step} {e : Environment} (h : MadeOver steps e) :
    (start.after steps).snapshot = e := by
  cases h with
  | never h => exact start.after_agreeOn h
  | newLoader h => exact start.after_lastWriter h

theorem InEffect.defaults_eq {steps : List Step} {d : Record} (h : InEffect steps d) :
    (start.after steps).defaults = d := by
  induction h with
  | never h => exact start.after_agreeOn h
  | newLoader h => exact start.after_lastWriter h
  | putDefaults d h => exact start.after_lastWriter h
  | putImage image _ h ih =>
    rw [← ih]
    exact start.after_lastWriter h
  | reportedDefaults h => exact start.after_lastWriter h

end Session

/-- In every reachable session the next load and the next report are those of the environment over which the loader was
made and of the defaults in effect. Steps that make no loader and put no defaults never change them, and loads, reports
and output leave the environment, its saved copy and the loader. -/
theorem Session.loader_isolated (steps : List Step) :
    let s := start.after steps
    (∃ e d, MadeOver steps e ∧ InEffect steps d) ∧
    (∀ e d, MadeOver steps e → InEffect steps d →
      let l := Loader.mk e.lookup d
      start.run (steps ++ [.load])
        = start.run steps ++ [.loaded l.load (s.previous.map fun r => decide (l.load = r))] ∧
      start.run (steps ++ [.makeReport]) = start.run steps ++ [.report l.report]) ∧
    (∀ later, Leave later .snapshot → Leave later .defaults → (s.after later).loader = s.loader) ∧
    ∀ (f : Format) (sources : Bool) (sink : Sink),
      ∀ step ∈ [Step.load, .makeReport, .show f sources sink, .list f sink],
        (s.next step).env = s.env ∧ (s.next step).saved = s.saved ∧ (s.next step).loader = s.loader := by
  intro s
  refine ⟨⟨_, _, madeOver_after steps, inEffect_after steps⟩, ?_, ?_, ?_⟩
  · intro e d he hd l
    have hloader : s.loader = l := by
      rw [loader, he.snapshot_eq, hd.defaults_eq]
    rw [run_append, run_append, ← hloader]
    exact ⟨rfl, rfl⟩
  · intro later hsnapshot hdefaults
    exact loader_congr (s.after_agreeOn hsnapshot) (s.after_agreeOn hdefaults)
  · intro f sources sink step hstep
    have hleaves : Part.env ∉ step.writes ∧ Part.saved ∉ step.writes ∧ Part.snapshot ∉ step.writes ∧
        Part.defaults ∉ step.writes := by
      simp only [List.mem_cons, List.not_mem_nil, or_false] at hstep
      rcases hstep with rfl | rfl | rfl | rfl <;> simp [Step.writes]
    obtain ⟨henv, hsaved, hsnapshot, hdefaults⟩ := hleaves
    refine ⟨s.next_agreeOn step henv, s.next_agreeOn step hsaved, ?_⟩
    exact loader_congr (s.next_agreeOn step hsnapshot) (s.next_agreeOn step hdefaults)

/-- A report that was edited and handed back stands in for the defaults; what is edited, set and cleared behind it does
not. -/
theorem Session.loader_isolated_reported :
    let first : List Step := [.set "PYTORCH_INIT_CONTAINER_IMAGE" "alpine:3.19"]
    let edits : List Step := [.makeReport, .edit .deliveryImage "delivery:v2"]
    let rest : List Step := [.edit .deliveryImage "delivery:v3", .set "PYTORCH_INIT_CONTAINER_IMAGE" "busybox",
      .save, .clear, .keep []]
    let steps := first ++ .newLoader :: (edits ++ .reportedDefaults :: rest)
    let e : Environment := .ofList [("PYTORCH_INIT_CONTAINER_IMAGE", "alpine:3.19")]
    let d : Record := { Record.documented with initImage := "alpine:3.19", deliveryImage := "delivery:v2" }
    MadeOver steps e ∧ InEffect steps d ∧
    start.run (steps ++ [.load]) = start.run steps ++ [.loaded d none] ∧
    ((start.after steps).after [.restore, .makeReport]).loader = (start.after steps).loader ∧
    ((start.after steps).next .load).env = (start.after steps).env := by
  intro first edits rest steps e d
  have hmade : MadeOver steps e := @MadeOver.newLoader first (edits ++ .reportedDefaults :: rest) (by decide)
  have hdefaults : InEffect steps d := @InEffect.reportedDefaults (first ++ .newLoader :: edits) rest (by decide)
  obtain ⟨-, hanswers, hlater, hreads⟩ := Session.loader_isolated steps
  refine ⟨hmade, hdefaults, ?_, hlater _ (by decide) (by decide), (hreads .json true .endless _ (by simp)).1⟩
  have hload : (Loader.mk e.lookup d).load = d := by decide
  rw [(hanswers e d hmade hdefaults).1, hload]
  rfl

end StartupConfig
