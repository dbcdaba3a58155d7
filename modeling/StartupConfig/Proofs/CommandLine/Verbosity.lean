import StartupConfig.Logging.Verbosity
import StartupConfig.Proofs.CommandLine.Scopes

/-!
# How often more was asked for

Both scopes count on their own, up to the same bound, and the count of the program's scope is used only where the
command's is zero. So requests on one side all count, and those in front of the command are lost as soon as there is one
behind it.
-/
namespace StartupConfig

theorem verbosityFilter_eq_iff (m n : Nat) : verbosityFilter m = verbosityFilter n ↔ min 3 m = min 3 n := by
  rcases m with _ | _ | _ | m <;> rcases n with _ | _ | _ | n <;>
    simp [verbosityFilter, verbosityLevel, Level.filterName]

namespace CommandLine

variable {preset : Option Argument} {scope : Scope} {color : Argument} {as : List Argument} {q : Progress}

/-- A scope that was read to its end has counted the requests in its arguments. -/
theorem Settled.verbose_eq {s : Settled} (hall : Progress.start.takeAll scope color as = .ok q)
    (hfinish : q.finish preset = .ok s) : s.given.verbose = min greatestVerbosity (requests as) := by
  have hq : q.given.verbose = min greatestVerbosity (requests as) := by
    have hgains := (Progress.takeAll_gains hall rfl).verbose (Nat.zero_le _)
    rwa [show Progress.start.given.verbose = 0 from rfl, Nat.zero_add] at hgains
  obtain ⟨p₁, hsettle, hgiven, -⟩ := Progress.finish_spec hfinish
  have hsettled := (Progress.settle_spec hsettle).1.verbose (by omega)
  rw [hgiven]
  omega

/-- How often a command line that is read to its end asks for more. The requests behind the command count, up to the
bound; those in front of it count only where there are none behind it. So all of them count exactly if they are on one
side, or if those behind the command reach the bound on their own; and for the filter, if they reach the last level. -/
theorem verbose_spec {preset : Option Utf8.Bytes} {arguments : List Utf8.Bytes} {i : Invocation}
    (h : read preset arguments = .ok i) :
    let before := requests (beforeCommand (arguments.map .ofBytes))
    let after := requests (afterCommand (arguments.map .ofBytes))
    i.verbose = min greatestVerbosity (if after = 0 then before else after) ∧
    (i.verbose = min greatestVerbosity (before + after) ↔ before = 0 ∨ after = 0 ∨ greatestVerbosity ≤ after) ∧
    (verbosityFilter i.verbose = verbosityFilter (before + after) ↔ before = 0 ∨ after = 0 ∨ 3 ≤ after) := by
  intro before after
  have hverbose : i.verbose = min greatestVerbosity (if after = 0 then before else after) := by
    obtain ⟨scope, q, hbefore, hcommand⟩ := exists_command_of_readProgram h
    rw [read, hcommand] at h
    obtain ⟨r, hafter, inner, hinner, command, -, outer, houter, rfl⟩ := readCommand_eq_ok_iff.1 h
    have houter : outer.given.verbose = min greatestVerbosity before := Settled.verbose_eq hbefore houter
    have hinner : inner.given.verbose = min greatestVerbosity after := Settled.verbose_eq hafter hinner
    rw [merge, houter, hinner]
    by_cases hnone : after = 0
    · simp [hnone]
    · simp [hnone, greatestVerbosity]
  have hbound : greatestVerbosity = 255 := rfl
  refine ⟨hverbose, ?_, ?_⟩
  · rw [hverbose]
    split <;> omega
  · rw [hverbose, verbosityFilter_eq_iff]
    split <;> omega

theorem read_both_sides :
    read none (typed ["-vv", "show", "-v"]) = .ok ⟨.show .human false, 1, false, false, .auto⟩ := by
  rw [read, map_ofBytes_typed]
  decide

/-- Asked for twice in front of the command and once behind it, more is given only once. -/
theorem verbose_spec_both_sides :
    let arguments := typed ["-vv", "show", "-v"]
    ∃ i, read none arguments = .ok i ∧ requests (beforeCommand (arguments.map .ofBytes)) = 2 ∧
      requests (afterCommand (arguments.map .ofBytes)) = 1 ∧ i.verbose = 1 ∧
      verbosityFilter i.verbose ≠ verbosityFilter 3 := by
  intro arguments
  have hbefore : requests (beforeCommand (arguments.map .ofBytes)) = 2 := by
    rw [map_ofBytes_typed]
    decide
  have hafter : requests (afterCommand (arguments.map .ofBytes)) = 1 := by
    rw [map_ofBytes_typed]
    decide
  obtain ⟨hverbose, -, hfilter⟩ := verbose_spec read_both_sides
  rw [hbefore, hafter] at hverbose hfilter
  exact ⟨_, read_both_sides, hbefore, hafter, hverbose, mt hfilter.1 (by decide)⟩

/-- It is not so that every request counts. -/
theorem not_verbose_eq_total :
    ¬∀ (preset : Option Utf8.Bytes) (arguments : List Utf8.Bytes) (i : Invocation), read preset arguments = .ok i →
      i.verbose = min greatestVerbosity (requests (beforeCommand (arguments.map .ofBytes)) +
        requests (afterCommand (arguments.map .ofBytes))) := by
  intro h
  have hverbose := h none _ _ read_both_sides
  rw [map_ofBytes_typed] at hverbose
  exact absurd hverbose (by decide)

end CommandLine

end StartupConfig
