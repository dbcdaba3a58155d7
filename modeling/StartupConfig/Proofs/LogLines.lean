import StartupConfig.Proofs.Diagnostics
import StartupConfig.Proofs.Json.Value
import StartupConfig.Proofs.Lines
import StartupConfig.Proofs.Log

/-!
# Diagnostics as lines of JSON

A line of JSON has no end of line within it, whatever texts it holds, so the lines of a log are told apart. Each of them
is read as a value of JSON, which gives back the level of its diagnostic and all that the diagnostic holds.
-/
namespace StartupConfig

/-! ## Entries of a log -/

/-- What a line of a log says: how grave it is, and what it holds under which names. -/
structure LogEntry where
  level : Level
  fields : List (String × Json.Value)

/-- All levels. -/
def Level.all : List Level := [.error, .warn, .info, .debug, .trace]

/-- The level that a word stands for. -/
def Level.ofName? (word : String) : Option Level := all.find? fun l => l.name = word

theorem Level.ofName?_name (l : Level) : ofName? l.name = some l := by
  cases l <;> decide

/-- Reads a line, which is a record of JSON. -/
def LogEntry.read? (line : List Char) : Option LogEntry := do
  let value ← Json.Value.read? line
  match value.member? "level", value.member? "fields" with
  | some (.text word), some (.record fields) => return ⟨← Level.ofName? word, fields⟩
  | _, _ => none

/-- The value of a detail. -/
def Detail.value : Detail → Json.Value
  | .quoted text => .text text
  | .shown text => .text text
  | .count n => .number (.integer n)

/-- What a diagnostic says. -/
def Diagnostic.entry (d : Diagnostic) : LogEntry :=
  ⟨d.level, ("message", .text d.message) :: d.details.map fun x => (x.1, x.2.value)⟩

namespace Json

/-! ## No end of line within a line -/

theorem newline_not_mem_escape (c : Char) : '\n' ∉ escape c := by
  have hdigits : ∀ n < 0x20, '\n' ∉ hexByte n := by decide
  unfold escape
  repeat' split
  all_goals simp_all [eq_comm]

theorem newline_not_mem_quote (s : List Char) : '\n' ∉ quote s := by
  simp [quote, newline_not_mem_escape]

@[simp] theorem Layout.lineBreak_compact (depth : Nat) : Layout.compact.lineBreak depth = [] := rfl

@[simp] theorem Layout.colon_compact : Layout.compact.colon = [':'] := rfl

theorem newline_not_mem_render (z : Int) : '\n' ∉ Decimal.render z := by
  intro h
  exact absurd (Decimal.isDecimal_of_mem_render h) (by decide)

mutual

/-- Without line breaks of its own a tree is written on one line. -/
theorem newline_not_mem_write (depth : Nat) : (t : Tree) → '\n' ∉ write .compact depth t
  | .text value => newline_not_mem_quote _
  | .integer value => newline_not_mem_render value
  | .flag value => by cases value <;> simp [write]
  | .record [] => by simp [write]
  | .record ((name, t) :: ms) => by
    have hname := newline_not_mem_quote name.toList
    have ht := newline_not_mem_write (depth + 1) t
    have hms := newline_not_mem_writeMembers (depth + 1) ms
    simp [write, hname, ht, hms]
  | .list [] => by simp [write]
  | .list (t :: ts) => by
    have ht := newline_not_mem_write (depth + 1) t
    have hts := newline_not_mem_writeItems (depth + 1) ts
    simp [write, ht, hts]

theorem newline_not_mem_writeItems (depth : Nat) : (ts : List Tree) → '\n' ∉ writeItems .compact depth ts
  | [] => List.not_mem_nil
  | t :: ts => by
    have ht := newline_not_mem_write depth t
    have hts := newline_not_mem_writeItems depth ts
    simp [writeItems, ht, hts]

theorem newline_not_mem_writeMembers (depth : Nat) :
    (ms : List (String × Tree)) → '\n' ∉ writeMembers .compact depth ms
  | [] => List.not_mem_nil
  | (name, t) :: ms => by
    have hname := newline_not_mem_quote name.toList
    have ht := newline_not_mem_write depth t
    have hms := newline_not_mem_writeMembers depth ms
    simp [writeMembers, hname, ht, hms]

end

end Json

/-! ## The line of a diagnostic -/

namespace Diagnostic

variable {d : Diagnostic}

/-- The counts of a diagnostic are read as integers. -/
def IsExact (d : Diagnostic) : Prop := ∀ x ∈ d.details, ∀ n, x.2 = .count n → n ≤ Json.greatestSignificand

theorem isExact_detailTree {x : String × Detail} (h : ∀ n, x.2 = .count n → n ≤ Json.greatestSignificand) :
    Json.IsExact (detailTree x.2) := by
  obtain ⟨name, detail⟩ := x
  cases detail with
  | quoted text => trivial
  | shown text => trivial
  | count n =>
    have hn : n ≤ Json.greatestSignificand := h n rfl
    have hleast : -(Nat.pow 2 63 : Nat) ≤ (0 : Int) := by decide
    exact ⟨by omega, by omega⟩

theorem value_detailTree (x : Detail) : (detailTree x).value = x.value := by
  cases x <;> rfl

theorem isExact_tree (h : d.IsExact) (s : LineStyle) (time : List Char) : Json.IsExact (d.tree s time) := by
  have hfields : Json.HoldExact (("message", .text d.message) :: d.details.map fun x => (x.1, detailTree x.2)) := by
    refine ⟨trivial, (Json.holdExact_iff _).2 ?_⟩
    intro m hm
    obtain ⟨x, hx, rfl⟩ := List.mem_map.1 hm
    exact isExact_detailTree (h x hx)
  refine ⟨trivial, trivial, hfields, ?_⟩
  cases s.showsTarget with
  | true => exact ⟨trivial, trivial⟩
  | false => trivial

/-- A line of JSON gives back what the diagnostic says, with or without its target. -/
theorem read?_renderLine (h : d.IsExact) (s : LineStyle) (time : List Char) :
    LogEntry.read? (Json.renderLine (d.tree s time)) = some d.entry := by
  have hread : Json.Value.read? (Json.renderLine (d.tree s time)) = some (d.tree s time).value :=
    Json.read?_write Json.Layout.isSpaced_compact 0 (isExact_tree h s time)
  have hlevel : (d.tree s time).value.member? "level" = some (.text d.level.name) := rfl
  have hfields : (d.tree s time).value.member? "fields" = some (.record d.entry.fields) := by
    have hdetails : Tree.memberValues (d.details.map fun x => (x.1, detailTree x.2))
        = d.details.map fun x => (x.1, x.2.value) := by
      simp [Tree.memberValues_eq, value_detailTree]
    change some (Json.Value.record (_ :: Tree.memberValues (d.details.map fun x => (x.1, detailTree x.2)))) = _
    rw [hdetails]
    rfl
  simp [LogEntry.read?, hread, hlevel, hfields, Level.ofName?_name, entry]

end Diagnostic

/-- The lines of diagnostics in JSON are told apart, and each gives back what its diagnostic says. -/
theorem Diagnostic.exists_lines {ds : List Diagnostic} (h : ∀ d ∈ ds, d.IsExact) {s : LineStyle} (hs : s.isJson)
    (time : List Char) : ∃ lines, (ds.flatMap (line s time)).splitOn '\n' = lines ++ [[]] ∧
      lines.mapM LogEntry.read? = some (ds.map entry) := by
  let text (d : Diagnostic) := Json.renderLine (d.tree s time)
  have hline : line s time = fun d => text d ++ ['\n'] := by
    funext d
    rw [line, if_pos hs]
  have hlines : ds.flatMap (line s time) = (ds.map text).flatMap (· ++ ['\n']) := by rw [hline, List.flatMap_map]
  refine ⟨ds.map text, ?_, mapM_map_eq_some fun d hd => read?_renderLine (h d hd) s time⟩
  rw [hlines]
  apply splitOn_lines
  intro l hl
  obtain ⟨d, -, rfl⟩ := List.mem_map.1 hl
  exact Json.newline_not_mem_write 0 _

/-- A load counts no more than its settings. -/
theorem Loader.isExact_of_mem (l : Loader) {d : Diagnostic} (h : d ∈ l.run.diagnostics) : d.IsExact := by
  have htotal : l.report.resolutions.length = 4 := by
    rw [resolutions_eq]
    rfl
  have hlimit : 4 ≤ Json.greatestSignificand := by decide
  have henvironment : l.report.fromEnvironmentCount ≤ l.report.resolutions.length := List.countP_le_length
  have hrejected : l.report.rejected.length ≤ l.report.resolutions.length := List.length_filter_le _ _
  rw [diagnostics_eq, diagnostics_resolveLong, List.append_assoc, List.mem_append, List.mem_append] at h
  rcases h with h | h | h
  · obtain ⟨p, -, rfl⟩ := List.mem_map.1 h
    simp [Diagnostic.IsExact, Diagnostic.ignoring]
  · obtain ⟨r, -, rfl⟩ := List.mem_map.1 h
    simp [Diagnostic.IsExact, Diagnostic.resolved]
  · obtain rfl := List.mem_singleton.1 h
    simp [Diagnostic.IsExact, Diagnostic.initialized]
    omega

/-- A run that succeeds writes nothing but diagnostics to standard error. -/
theorem Launch.stderr_of_success {l : Launch} {i : CommandLine.Invocation} (h : l.parsed = .ok i)
    (hsuccess : l.run.exitCode = .success) :
    l.run.stderr = (l.shown i).flatMap (Diagnostic.line i.lineStyle l.time) := by
  have hsplit := split?_of_success h hsuccess
  rw [run_of_parsed h hsplit, exitCode_carryOut] at hsuccess
  rw [run_of_parsed h hsplit, stderr_carryOut]
  cases hfault : (deliver (l.output i) l.stdout).1 with
  | none => simp
  | some fault =>
    rw [hfault] at hsuccess
    cases fault <;> cases hsuccess

/-- A log in JSON gives back what is shown of a load, one line for each diagnostic in order. What a load says is the
refused text as the load saw it with what is wrong with it, then the source of each setting, then the counts. -/
theorem Launch.json_log_spec {l : Launch} {i : CommandLine.Invocation} {format : Format} {sources : Bool}
    (h : l.parsed = .ok i) (hcommand : i.command = .show format sources) (hjson : i.logJson)
    (hsuccess : l.run.exitCode = .success) :
    let told := (Loader.reading l.environment.lookup).run
    (∃ lines, l.run.stderr.splitOn '\n' = lines ++ [[]] ∧
      lines.mapM LogEntry.read? = some ((l.shown i).map Diagnostic.entry)) ∧
    (l.shown i).Sublist told.diagnostics ∧
    ∃ refused : Option (String × ReadFault),
      (∀ raw fault, refused = some (raw, fault) ↔
        l.environment.lookup "PYTORCH_INIT_CONTAINER_MAX_TRIES" = some raw ∧
          readInteger (.signed 64) raw = .error fault) ∧
      told.diagnostics.map Diagnostic.entry =
        refused.toList.map (fun p =>
          { level := .warn
            fields := [("message", .text "ignoring unparsable environment value, using default"),
              ("variable", .text "PYTORCH_INIT_CONTAINER_MAX_TRIES"), ("value", .text p.1),
              ("error", .text p.2.message)] })
        ++ told.value.resolutions.map (fun s =>
          { level := .debug
            fields := [("message", .text "resolved setting"), ("variable", .text s.setting.variableName),
              ("source", .text s.source.label)] })
        ++ [{ level := .info
              fields := [("message", .text "operator configuration initialized"),
                ("from_env", .number (.integer told.value.fromEnvironmentCount)),
                ("invalid", .number (.integer told.value.rejected.length)),
                ("total", .number (.integer told.value.resolutions.length))] }] := by
  intro told
  let loader : Loader := .reading l.environment.lookup
  have hsublist : (l.shown i).Sublist told.diagnostics := shown_sublist_of_show hcommand
  refine ⟨?_, hsublist, loader.refused?, loader.refused?_eq_some_iff, ?_⟩
  · rw [stderr_of_success h hsuccess]
    exact Diagnostic.exists_lines (fun d hd => loader.isExact_of_mem (hsublist.subset hd)) hjson l.time
  · change loader.run.diagnostics.map Diagnostic.entry = _
    rw [Loader.diagnostics_eq, Loader.diagnostics_resolveLong, List.map_append, List.map_append, List.map_map,
      List.map_map]
    rfl

/-- Quotation marks, backslashes, line breaks, control characters and malformed bytes do not break the lines. -/
theorem Launch.json_log_spec_hostile :
    let raw := Utf8.encode "1\"\\\n\x01".toList ++ [0xff]
    let l : Launch := ⟨["-v", "--log-json", "show"].map fun a => Utf8.encode a.toList,
      ⟨[("PYTORCH_INIT_CONTAINER_MAX_TRIES", raw)]⟩, .endless, []⟩
    l.run.exitCode = .success ∧
    ∃ lines, l.run.stderr.splitOn '\n' = lines ++ [[]] ∧
      lines.mapM LogEntry.read? = some
        [⟨.warn, [("message", .text "ignoring unparsable environment value, using default"),
            ("variable", .text "PYTORCH_INIT_CONTAINER_MAX_TRIES"), ("value", .text "1\"\\\n\x01\uFFFD"),
            ("error", .text "invalid digit found in string")]⟩,
          ⟨.info, [("message", .text "operator configuration initialized"), ("from_env", .number (.integer 0)),
            ("invalid", .number (.integer 1)), ("total", .number (.integer 4))]⟩] := by
  intro raw l
  let i : CommandLine.Invocation := ⟨.show .human false, 1, false, true, .auto⟩
  have h : l.parsed = .ok i := parsed_of_toOption (by decide +kernel)
  have hsuccess : l.run.exitCode = .success := by
    rw [run_of_parsed h (by decide +kernel)]
    exact exitCode_carryOut_endless rfl i
  have hshown : l.shown i = [.ignoring "PYTORCH_INIT_CONTAINER_MAX_TRIES" "1\"\\\n\x01\uFFFD" (.integer .invalidDigit),
      .initialized 0 1 4] := by decide +kernel
  obtain ⟨⟨lines, hlines, hentries⟩, -⟩ := Launch.json_log_spec h rfl rfl hsuccess
  rw [hshown] at hentries
  exact ⟨hsuccess, lines, hlines, hentries⟩

end StartupConfig
