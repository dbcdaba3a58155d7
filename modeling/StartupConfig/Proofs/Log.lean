import Mathlib.Data.List.Basic
import StartupConfig.Proofs.Outcome

/-!
# What a run shows of a load

A filter takes diagnostics away and keeps the order of the others. A filter that the environment asks for decides alone
if it is accepted; if not, the verbosity does, and a greater one shows more. Where reading it breaks off nothing is
shown.
-/
namespace StartupConfig

namespace Filter

/-- The filter of a level shows the level and all that are graver. -/
theorem admits_ofLevel (level : Level) (d : Diagnostic) :
    (ofLevel level).admits d = decide (d.level.rank ≤ level.rank) := by
  simp [admits, ofLevel, Directive.ofLevel, Directive.concerns, Directive.shows]

/-- The word of a level is read as its filter. -/
theorem read?_filterName (level : Level) : read? level.filterName = some (ofLevel level) := by
  cases level <;> decide +kernel

end Filter

/-- More requests for more never show less. -/
theorem rank_verbosityLevel_le {v w : Nat} (h : v ≤ w) : (verbosityLevel v).rank ≤ (verbosityLevel w).rank := by
  unfold verbosityLevel
  split <;> split <;> simp_all [Level.rank] <;> omega

theorem Diagnostic.filter_rank_sublist {m n : Nat} (h : m ≤ n) (ds : List Diagnostic) :
    (ds.filter fun d => d.level.rank ≤ m).Sublist (ds.filter fun d => d.level.rank ≤ n) := by
  apply List.monotone_filter_right
  intro d hd
  simp only [decide_eq_true_eq] at hd ⊢
  omega

theorem CommandLine.Command.diagnostics_run_show {c : CommandLine.Command} {format : Format} {sources : Bool}
    (h : c = .show format sources) (lookup : Lookup) :
    (c.run lookup).diagnostics = (Loader.reading lookup).run.diagnostics := by
  rw [h]
  rfl

/-- Only a load tells anything. -/
theorem CommandLine.Command.diagnostics_run_eq_nil {c : CommandLine.Command}
    (h : ∀ format sources, c ≠ .show format sources) (lookup : Lookup) : (c.run lookup).diagnostics = [] := by
  cases c with
  | «show» format sources => exact absurd rfl (h format sources)
  | _ => rfl

namespace Launch

variable {l : Launch} {i : CommandLine.Invocation}

theorem shown_of_quiet (h : i.quiet) : l.shown i = [] := by
  simp [shown, logging, CommandLine.Invocation.logging, h]

theorem shown_of_split {s : SplitCharacter} (h : l.split? i = some s) : l.shown i = [] := by
  rw [shown, logging_of_split h]

theorem shown_of_loud (hquiet : i.quiet = false) (h : l.split? i = none) : l.shown i =
    (i.command.run l.environment.lookup).diagnostics.filter
      (((l.environment.strict? filterVariable).bind Filter.read?).getD (.ofLevel (verbosityLevel i.verbose))).admits := by
  rw [shown, logging, CommandLine.Invocation.logging_of_loud hquiet h]

theorem shown_sublist (l : Launch) (i : CommandLine.Invocation) :
    (l.shown i).Sublist (i.command.run l.environment.lookup).diagnostics := by
  unfold shown
  split
  · exact List.filter_sublist
  · exact List.nil_sublist _

theorem shown_sublist_of_show {format : Format} {sources : Bool} (h : i.command = .show format sources) :
    (l.shown i).Sublist (Loader.reading l.environment.lookup).run.diagnostics := by
  rw [← CommandLine.Command.diagnostics_run_show h]
  exact l.shown_sublist i

section Loads

variable {l' : Launch} {i' : CommandLine.Invocation} {f : Filter}

theorem split?_of_accepted (h : (l.environment.strict? filterVariable).bind Filter.read? = some f)
    (i : CommandLine.Invocation) : l.split? i = none := by
  obtain ⟨text, htext, hread⟩ := Option.bind_eq_some_iff.1 h
  rw [split?, CommandLine.Invocation.split?, htext, Option.bind_some, Filter.split?_of_read? hread, ite_self]

/-- A filter that is accepted decides alone. -/
theorem shown_of_accepted (h : (l.environment.strict? filterVariable).bind Filter.read? = some f)
    (hcommand : ∃ format sources, i.command = .show format sources) (hquiet : i.quiet = false) :
    l.shown i = (Loader.reading l.environment.lookup).run.diagnostics.filter f.admits := by
  obtain ⟨format, sources, hcommand⟩ := hcommand
  rw [shown_of_loud hquiet (split?_of_accepted h i), h, Option.getD_some,
    CommandLine.Command.diagnostics_run_show hcommand]

/-- Without one the verbosity decides. -/
theorem shown_of_refused (h : (l.environment.strict? filterVariable).bind Filter.read? = none)
    (hsplit : l.split? i = none) (hcommand : ∃ format sources, i.command = .show format sources)
    (hquiet : i.quiet = false) :
    l.shown i = (Loader.reading l.environment.lookup).run.diagnostics.filter
      fun d => d.level.rank ≤ (verbosityLevel i.verbose).rank := by
  obtain ⟨format, sources, hcommand⟩ := hcommand
  rw [shown_of_loud hquiet hsplit, h, Option.getD_none, CommandLine.Command.diagnostics_run_show hcommand]
  exact List.filter_congr fun d _ => Filter.admits_ofLevel _ d

/-- Under a filter that is accepted loads are shown alike at any verbosity. -/
theorem shown_eq_of_accepted (h : (l.environment.strict? filterVariable).bind Filter.read? = some f)
    (henvironment : l'.environment = l.environment) (hcommand : ∃ format sources, i.command = .show format sources)
    (hcommand' : ∃ format sources, i'.command = .show format sources) (hquiet : i'.quiet = i.quiet) :
    l'.shown i' = l.shown i := by
  have h' : (l'.environment.strict? filterVariable).bind Filter.read? = some f := henvironment ▸ h
  cases hq : i.quiet with
  | true => rw [shown_of_quiet hq, shown_of_quiet (hquiet.trans hq)]
  | false => rw [shown_of_accepted h hcommand hq, shown_of_accepted h' hcommand' (hquiet.trans hq), henvironment]

/-- Without one a greater verbosity only adds to what is shown. -/
theorem shown_sublist_of_refused (h : (l.environment.strict? filterVariable).bind Filter.read? = none)
    (henvironment : l'.environment = l.environment) (hcommand : ∃ format sources, i.command = .show format sources)
    (hcommand' : ∃ format sources, i'.command = .show format sources) (hquiet : i'.quiet = i.quiet)
    (hverbose : i.verbose ≤ i'.verbose) : (l.shown i).Sublist (l'.shown i') := by
  have h' : (l'.environment.strict? filterVariable).bind Filter.read? = none := henvironment ▸ h
  have hsplit' : l'.split? i' = l.split? i := by
    rw [split?, split?, CommandLine.Invocation.split?, CommandLine.Invocation.split?, henvironment, hquiet]
  cases hq : i.quiet with
  | true =>
    rw [shown_of_quiet hq]
    exact List.nil_sublist _
  | false =>
    cases hsplit : l.split? i with
    | some s =>
      rw [shown_of_split hsplit]
      exact List.nil_sublist _
    | none =>
      rw [shown_of_refused h hsplit hcommand hq, shown_of_refused h' (hsplit'.trans hsplit) hcommand' (hquiet.trans hq),
        henvironment]
      exact Diagnostic.filter_rank_sublist (rank_verbosityLevel_le hverbose) _

end Loads

end Launch

/-- Standard error holds the lines of the diagnostics that are shown, and behind them that of a fault. Where reading the
filter breaks off nothing is shown, and nothing else is done. A command that loads nothing shows nothing. Of a load a part
is shown, in order: nothing when the run is quiet; otherwise what the filter of the environment admits, if it is accepted,
whatever the verbosity is; otherwise what is at least as grave as the level of the verbosity, so that a greater one only
adds to it, unless reading breaks off and there is something so grave. -/
theorem Launch.shown_spec {l : Launch} {i : CommandLine.Invocation} (h : l.parsed = .ok i) :
    let told := (Loader.reading l.environment.lookup).run.diagnostics
    let accepted := (l.environment.strict? "TRAINING_OPERATOR_LOG_LEVEL").bind Filter.read?
    let asGrave := told.filter fun d => d.level.rank ≤ (verbosityLevel i.verbose).rank
    let shown := l.shown i
    (l.split? i = none → ∃ fault : Option Fault, (l.run.exitCode = .success ↔ fault = none) ∧
      l.run.stderr = shown.flatMap (Diagnostic.line i.lineStyle l.time)
        ++ (fault.map fun f => "error: ".toList ++ f.message.toList ++ ['\n']).getD []) ∧
    (∀ s, l.split? i = some s → shown = [] ∧ l.run = ⟨.breakdown, l.stdout.taken, s.message ++ ['\n']⟩) ∧
    ((∀ format sources, i.command ≠ .show format sources) → shown = []) ∧
    ∀ format sources, i.command = .show format sources →
      shown.Sublist told ∧
      (i.quiet → shown = []) ∧
      (i.quiet = false → (∀ f, accepted = some f → shown = told.filter f.admits) ∧
        (accepted = none → Filter.read? (verbosityFilter i.verbose) = some (.ofLevel (verbosityLevel i.verbose)) ∧
          (shown = asGrave ↔ l.split? i = none ∨ asGrave = []))) ∧
      ∀ (l' : Launch) (i' : CommandLine.Invocation), l'.parsed = .ok i' → l'.environment = l.environment →
        (∃ format sources, i'.command = .show format sources) → i'.quiet = i.quiet →
        (accepted ≠ none → l'.shown i' = shown) ∧
        (accepted = none → i.verbose ≤ i'.verbose → shown.Sublist (l'.shown i')) := by
  intro told accepted asGrave shown
  refine ⟨fun hsplit => ⟨(deliver (l.output i) l.stdout).1, ?_, ?_⟩, ?_, ?_, ?_⟩
  · rw [run_of_parsed h hsplit, exitCode_carryOut]
    cases (deliver (l.output i) l.stdout).1 with
    | none => simp
    | some fault => cases fault <;> simp [Fault.exitCode]
  · rw [run_of_parsed h hsplit, stderr_carryOut]
    cases (deliver (l.output i) l.stdout).1 <;> rfl
  · exact fun s hsplit => ⟨shown_of_split hsplit, run_of_split h hsplit⟩
  · intro hcommand
    apply List.eq_nil_of_subset_nil
    have hsublist := l.shown_sublist i
    rw [CommandLine.Command.diagnostics_run_eq_nil hcommand] at hsublist
    exact hsublist.subset
  · intro format sources hcommand
    have hload : ∃ format sources, i.command = .show format sources := ⟨format, sources, hcommand⟩
    refine ⟨shown_sublist_of_show hcommand, fun hquiet => shown_of_quiet hquiet, ?_, ?_⟩
    · intro hquiet
      constructor
      · intro f hf
        exact shown_of_accepted hf hload hquiet
      · intro hnone
        refine ⟨Filter.read?_filterName _, ?_⟩
        cases hsplit : l.split? i with
        | none =>
          have hshown : shown = asGrave := shown_of_refused hnone hsplit hload hquiet
          simp [hshown]
        | some s =>
          have hshown : shown = [] := shown_of_split hsplit
          rw [hshown]
          constructor
          · exact fun hnil => .inr hnil.symm
          · rintro (hloud | hnil)
            · cases hloud
            · exact hnil.symm
    · intro l' i' _ henvironment hload' hquiet'
      constructor
      · intro hsome
        obtain ⟨f, hf⟩ := Option.ne_none_iff_exists'.1 hsome
        exact shown_eq_of_accepted hf henvironment hload hload' hquiet'
      · intro hnone hverbose
        exact shown_sublist_of_refused hnone henvironment hload hload' hquiet' hverbose

/-- A filter that is refused leaves the decision to the verbosity, here to one request for more. -/
theorem Launch.shown_spec_verbose :
    let l : Launch := ⟨["-v", "show"].map fun a => Utf8.encode a.toList,
      ⟨[("PYTORCH_INIT_CONTAINER_MAX_TRIES", Utf8.encode "many".toList),
        ("TRAINING_OPERATOR_LOG_LEVEL", Utf8.encode "bogus=notalevel".toList)]⟩, .endless, []⟩
    let i : CommandLine.Invocation := ⟨.show .human false, 1, false, false, .auto⟩
    l.parsed = .ok i ∧
    l.shown i = [.ignoring "PYTORCH_INIT_CONTAINER_MAX_TRIES" "many" (.integer .invalidDigit), .initialized 0 1 4] := by
  intro l i
  have h : l.parsed = .ok i := parsed_of_toOption (by decide +kernel)
  have hrefused : (l.environment.strict? "TRAINING_OPERATOR_LOG_LEVEL").bind Filter.read? = none := by decide +kernel
  have hsplit : l.split? i = none := by decide +kernel
  obtain ⟨-, hshown⟩ := (((Launch.shown_spec h).2.2.2 _ _ rfl).2.2.1 rfl).2 hrefused
  refine ⟨h, (hshown.2 (.inl hsplit)).trans ?_⟩
  decide +kernel

/-- Where reading breaks off the verbosity does not decide: what it asks for is not shown. -/
theorem Launch.not_shown_by_verbosity :
    ¬∀ (l : Launch) (i : CommandLine.Invocation) (format : Format) (sources : Bool), l.parsed = .ok i →
      i.command = .show format sources → i.quiet = false →
      (l.environment.strict? "TRAINING_OPERATOR_LOG_LEVEL").bind Filter.read? = none →
      l.shown i = (Loader.reading l.environment.lookup).run.diagnostics.filter
        fun d => d.level.rank ≤ (verbosityLevel i.verbose).rank := by
  intro hshown
  let i : CommandLine.Invocation := ⟨.show .human false, 1, false, false, .auto⟩
  let l : Launch := .filtered ["-v", "show"] "\u3000a=b"
  have h : l.parsed = .ok i := parsed_of_toOption (by decide +kernel)
  have hrefused : (l.environment.strict? "TRAINING_OPERATOR_LOG_LEVEL").bind Filter.read? = none := by decide +kernel
  have hasked : ((Loader.reading l.environment.lookup).run.diagnostics.filter
      fun d => d.level.rank ≤ (verbosityLevel i.verbose).rank) = [.initialized 0 0 4] := by decide +kernel
  have hnil := hshown l i .human false h rfl rfl hrefused
  rw [shown_of_split (split?_filtered _ rfl), hasked] at hnil
  cases hnil

end StartupConfig
