import Mathlib.Algebra.GroupWithZero.Nat
import StartupConfig.Logging.Timestamp
import StartupConfig.Proofs.ProcessEnvironment
import StartupConfig.Proofs.LogLines

/-!
# Diagnostics as lines for people

The fixed parts of a line for people hold no end of line, and texts from outside stand there quoted but for those that are
shown as they are. So a diagnostic takes one line and one more for each end of a line in the latter. A load shows one text
from outside in this way: the one that it rejects.
-/
namespace StartupConfig

theorem Decimal.newline_not_mem_renderNat (n : Nat) : '\n' ∉ renderNat n :=
  fun h => absurd (isDigit_of_mem_renderNat h) (by decide)

theorem Timestamp.newline_not_mem_padded (width n : Nat) : '\n' ∉ padded width n := by
  simp [padded, Decimal.newline_not_mem_renderNat]

theorem Timestamp.newline_not_mem_render (microseconds : Nat) : '\n' ∉ render microseconds := by
  simp only [render, List.mem_append, List.mem_cons, newline_not_mem_padded]
  decide

/-- What is wrong with a text that is no integer is told on one line. -/
theorem newline_not_mem_message {t : IntegerType} {text : String} {fault : ReadFault}
    (h : readInteger t text = .error fault) : '\n' ∉ fault.message.toList := by
  rw [readInteger_eq] at h
  split at h
  · cases h
  · next reason _ =>
    cases h
    cases reason <;> simp [ReadFault.message, IntegerFault.message]

namespace Diagnostic

/-- What stands in a line for people in front of the details. -/
def heading (s : LineStyle) (time : List Char) (d : Diagnostic) : List Char :=
  let level := d.level.name.toList
  let paint := painted s.isColored
  paint dimmed time ++ ' ' :: paint (levelStyle d.level) (List.replicate (5 - level.length) ' ' ++ level)
    ++ [' ']
    ++ (if s.showsTarget then paint dimmed d.target.toList ++ paint dimmed [':'] ++ [' '] else [])
    ++ d.message.toList

/-- The name of a detail, up to the value. -/
def nameForm (s : LineStyle) (name : String) : List Char :=
  ' ' :: painted s.isColored italic name.toList ++ painted s.isColored dimmed ['=']

theorem humanLine_eq (s : LineStyle) (time : List Char) (d : Diagnostic) :
    d.humanLine s time
      = d.heading s time ++ d.details.flatMap (fun x => nameForm s x.1 ++ shownDetail x.2) ++ ['\n'] := rfl

/-! ## Ends of lines -/

theorem newline_mem_painted {isColored : Bool} {style : Nat} {text : List Char} :
    '\n' ∈ painted isColored style text ↔ '\n' ∈ text := by
  have hstyle : '\n' ∉ Nat.toDigits 10 style := Decimal.newline_not_mem_renderNat style
  cases isColored <;> simp [painted, hstyle]

/-- The fixed parts of a diagnostic hold no end of line. -/
structure IsNamed (d : Diagnostic) : Prop where
  target : '\n' ∉ d.target.toList
  message : '\n' ∉ d.message.toList
  names : ∀ x ∈ d.details, '\n' ∉ x.1.toList

variable {s : LineStyle} {time : List Char} {d : Diagnostic}

theorem newline_not_mem_heading (h : d.IsNamed) (htime : '\n' ∉ time) : '\n' ∉ d.heading s time := by
  have hlevel : '\n' ∉ d.level.name.toList := by cases d.level <;> decide
  have htarget := h.target
  have hmessage := h.message
  cases hshows : s.showsTarget <;> simp [heading, newline_mem_painted, *]

theorem newline_not_mem_nameForm {name : String} (h : '\n' ∉ name.toList) : '\n' ∉ nameForm s name := by
  simp [nameForm, newline_mem_painted, h]

end Diagnostic

/-- The ends of lines that a detail brings into a line for people. -/
def Detail.breaks : Detail → Nat
  | .shown text => text.toList.count '\n'
  | _ => 0

namespace Diagnostic

theorem count_shownDetail (x : Detail) : (shownDetail x).count '\n' = x.breaks := by
  cases x with
  | quoted text => exact List.count_eq_zero_of_not_mem (Quoted.newline_not_mem_quote _)
  | shown text => rfl
  | count n => exact List.count_eq_zero_of_not_mem (Decimal.newline_not_mem_renderNat n)

/-- A diagnostic takes one line and one more for each end of a line that its details bring. -/
theorem count_humanLine {s : LineStyle} {time : List Char} {d : Diagnostic} (h : d.IsNamed) (htime : '\n' ∉ time) :
    (d.humanLine s time).count '\n' = (d.details.map fun x => x.2.breaks).sum + 1 := by
  have hdetail : ∀ x ∈ d.details, (nameForm s x.1 ++ shownDetail x.2).count '\n' = x.2.breaks := by
    intro x hx
    rw [List.count_append, count_shownDetail, List.count_eq_zero_of_not_mem (newline_not_mem_nameForm (h.names x hx)),
      Nat.zero_add]
  rw [humanLine_eq, List.count_append, List.count_append, List.count_flatMap,
    List.count_eq_zero_of_not_mem (newline_not_mem_heading h htime), Nat.zero_add]
  congr 2
  exact List.map_congr_left hdetail

end Diagnostic

/-! ## What a load shows -/

/-- A diagnostic whose details bring no end of line. -/
structure Diagnostic.StaysOnLine (d : Diagnostic) : Prop where
  isNamed : d.IsNamed
  details : ∀ x ∈ d.details, x.2.breaks = 0

theorem Diagnostic.StaysOnLine.count_humanLine {d : Diagnostic} (h : d.StaysOnLine) {s : LineStyle} {time : List Char}
    (htime : '\n' ∉ time) : (d.humanLine s time).count '\n' = 1 := by
  have hnone : d.details.map (fun x => x.2.breaks) = d.details.map fun _ => 0 := List.map_congr_left h.details
  rw [Diagnostic.count_humanLine h.isNamed htime, hnone]
  simp

theorem Diagnostic.count_humanLines_of_staysOnLine {ds : List Diagnostic} (h : ∀ d ∈ ds, d.StaysOnLine) {s : LineStyle}
    {time : List Char} (htime : '\n' ∉ time) : (ds.flatMap (humanLine s time)).count '\n' = ds.length := by
  have hone : ∀ d ∈ ds, (List.count '\n' ∘ humanLine s time) d = 1 := fun d hd => (h d hd).count_humanLine htime
  rw [List.count_flatMap, List.map_congr_left hone]
  simp

theorem Diagnostic.isNamed_ignoring (name raw : String) (fault : ReadFault) : (ignoring name raw fault).IsNamed :=
  ⟨by simp [ignoring], by simp [ignoring], by simp [ignoring]⟩

theorem Diagnostic.staysOnLine_resolved (name : String) (source : Source) : (resolved name source).StaysOnLine :=
  ⟨⟨by simp [resolved], by simp [resolved], by simp [resolved]⟩, by simp [resolved, Detail.breaks]⟩

theorem Diagnostic.staysOnLine_initialized (m n k : Nat) : (initialized m n k).StaysOnLine :=
  ⟨⟨by simp [initialized], by simp [initialized], by simp [initialized]⟩, by simp [initialized, Detail.breaks]⟩

/-- A warning takes as many lines as the rejected text has, as this is shown as it is. -/
theorem Diagnostic.count_humanLine_ignoring (name raw : String) {fault : ReadFault} {s : LineStyle} {time : List Char}
    (hfault : '\n' ∉ fault.message.toList) (htime : '\n' ∉ time) :
    ((ignoring name raw fault).humanLine s time).count '\n' = raw.toList.count '\n' + 1 := by
  rw [count_humanLine (isNamed_ignoring name raw fault) htime]
  simp [ignoring, Detail.breaks, List.count_eq_zero_of_not_mem hfault]

theorem Diagnostic.exists_around_rejected (name raw : String) (fault : ReadFault) (s : LineStyle) (time : List Char) :
    ∃ before behind, (ignoring name raw fault).humanLine s time = before ++ raw.toList ++ behind := by
  let d := ignoring name raw fault
  refine ⟨d.heading s time ++ (nameForm s "variable" ++ shownDetail (.quoted name)) ++ nameForm s "value",
    nameForm s "error" ++ shownDetail (.shown fault.message) ++ ['\n'], ?_⟩
  simp [humanLine_eq, d, ignoring, shownDetail]

/-- What is told of a load behind the rejected text stays on its lines and is less grave. -/
theorem Loader.exists_diagnostics_of_refused {l : Loader} {raw : String} {fault : ReadFault}
    (h : l.refused? = some (raw, fault)) :
    ∃ rest, l.run.diagnostics = .ignoring Setting.maxTries.variableName raw fault :: rest ∧
      ∀ d ∈ rest, d.StaysOnLine ∧ Level.warn.rank < d.level.rank := by
  refine ⟨l.report.resolutions.map (fun r => .resolved r.setting.variableName r.source)
    ++ [.initialized l.report.fromEnvironmentCount l.report.rejected.length l.report.resolutions.length], ?_, ?_⟩
  · rw [diagnostics_eq, diagnostics_resolveLong, h, List.append_assoc]
    rfl
  intro d hd
  rcases List.mem_append.1 hd with hd | hd
  · obtain ⟨r, -, rfl⟩ := List.mem_map.1 hd
    exact ⟨Diagnostic.staysOnLine_resolved _ _, by simp [Diagnostic.resolved, Level.rank]⟩
  · obtain rfl := List.mem_singleton.1 hd
    exact ⟨Diagnostic.staysOnLine_initialized _ _ _, by simp [Diagnostic.initialized, Level.rank]⟩

/-- A line between two ends of lines is one of the lines. -/
theorem mem_splitOn_of_line {before line behind : List Char} (h : '\n' ∉ line) :
    line ∈ (before ++ '\n' :: (line ++ '\n' :: behind)).splitOn '\n' := by
  rw [List.splitOn_append_cons_self, List.splitOn_append_cons_self_of_not_mem h]
  simp

namespace Launch

variable {l : Launch} {i : CommandLine.Invocation} {format : Format} {sources : Bool} {raw : String} {fault : ReadFault}

theorem stderr_of_human (h : l.parsed = .ok i) (hsuccess : l.run.exitCode = .success) (hhuman : i.logJson = false) :
    l.run.stderr = (l.shown i).flatMap (Diagnostic.humanLine i.lineStyle l.time) := by
  have hline : Diagnostic.line i.lineStyle l.time = Diagnostic.humanLine i.lineStyle l.time := by
    funext d
    rw [Diagnostic.line, if_neg (by simp [CommandLine.Invocation.lineStyle, hhuman])]
  rw [stderr_of_success h hsuccess, hline]

section Rejected

variable (hcommand : i.command = .show format sources)
  (hrefused : (Loader.reading l.environment.lookup).refused? = some (raw, fault))

include hcommand hrefused

/-- If the warning is shown, it comes first; the others stay on their lines. -/
theorem exists_shown_of_rejected : ∃ others, (∀ d ∈ others, d.StaysOnLine) ∧
    (l.shown i = .ignoring Setting.maxTries.variableName raw fault :: others ∨
      .ignoring Setting.maxTries.variableName raw fault ∉ l.shown i ∧ l.shown i = others) := by
  obtain ⟨rest, hrest, hstays⟩ := Loader.exists_diagnostics_of_refused hrefused
  have hshown := shown_sublist_of_show (l := l) hcommand
  rw [hrest] at hshown
  rcases List.sublist_cons_iff.1 hshown with hsublist | ⟨others, hothers, hsublist⟩
  · refine ⟨_, fun d hd => (hstays d (hsublist.subset hd)).1, .inr ⟨?_, rfl⟩⟩
    intro hmem
    exact absurd (hstays _ (hsublist.subset hmem)).2 (Nat.lt_irrefl _)
  · exact ⟨others, fun d hd => (hstays d (hsublist.subset hd)).1, .inl hothers⟩

/-- Without a filter the warning is shown at every verbosity. -/
theorem ignoring_mem_shown (hsplit : l.split? i = none) (hquiet : i.quiet = false)
    (hfilter : (l.environment.strict? filterVariable).bind Filter.read? = none) :
    .ignoring Setting.maxTries.variableName raw fault ∈ l.shown i := by
  obtain ⟨rest, hrest, -⟩ := Loader.exists_diagnostics_of_refused hrefused
  rw [shown_of_refused hfilter hsplit ⟨format, sources, hcommand⟩ hquiet, hrest]
  refine List.mem_filter.2 ⟨List.mem_cons_self, ?_⟩
  exact decide_eq_true (rank_verbosityLevel_le (Nat.zero_le i.verbose))

/-- At the lowest verbosity nothing else is shown. -/
theorem shown_eq_ignoring (hsplit : l.split? i = none) (hverbose : i.verbose = 0) (hquiet : i.quiet = false)
    (hfilter : (l.environment.strict? filterVariable).bind Filter.read? = none) :
    l.shown i = [.ignoring Setting.maxTries.variableName raw fault] := by
  obtain ⟨rest, hrest, hstays⟩ := Loader.exists_diagnostics_of_refused hrefused
  have hheld : (rest.filter fun d => d.level.rank ≤ (verbosityLevel 0).rank) = [] := by
    refine List.filter_eq_nil_iff.2 fun d hd => ?_
    simpa [verbosityLevel] using (hstays d hd).2
  rw [shown_of_refused hfilter hsplit ⟨format, sources, hcommand⟩ hquiet, hrest, hverbose, List.filter_cons, hheld]
  rfl

/-- The lines for people of what is shown: one for each diagnostic, and one more for each end of a line in the rejected
text if that is shown. -/
theorem count_humanLines {s : LineStyle} {time : List Char} (htime : '\n' ∉ time) :
    ((l.shown i).flatMap (Diagnostic.humanLine s time)).count '\n' = (l.shown i).length +
      if .ignoring Setting.maxTries.variableName raw fault ∈ l.shown i then raw.toList.count '\n' else 0 := by
  have hfault := newline_not_mem_message ((Loader.refused?_eq_some_iff _ _ _).1 hrefused).2
  obtain ⟨others, hothers, hshown | ⟨hnot, hshown⟩⟩ := exists_shown_of_rejected hcommand hrefused
  · rw [hshown, if_pos List.mem_cons_self, List.flatMap_cons, List.count_append,
      Diagnostic.count_humanLines_of_staysOnLine hothers htime, Diagnostic.count_humanLine_ignoring _ _ hfault htime,
      List.length_cons]
    omega
  · rw [if_neg hnot, hshown, Diagnostic.count_humanLines_of_staysOnLine hothers htime, Nat.add_zero]

section Written

variable (h : l.parsed = .ok i) (hsuccess : l.run.exitCode = .success) (hhuman : i.logJson = false)

include h hsuccess hhuman

theorem count_stderr (htime : '\n' ∉ l.time) : l.run.stderr.count '\n' = (l.shown i).length +
    if .ignoring Setting.maxTries.variableName raw fault ∈ l.shown i then raw.toList.count '\n' else 0 := by
  rw [stderr_of_human h hsuccess hhuman]
  exact count_humanLines hcommand hrefused htime

/-- A line of the rejected text is a line of the log. -/
theorem line_mem_stderr (hshown : .ignoring Setting.maxTries.variableName raw fault ∈ l.shown i)
    {before line behind : List Char} (hraw : raw.toList = before ++ '\n' :: (line ++ '\n' :: behind))
    (hline : '\n' ∉ line) : line ∈ l.run.stderr.splitOn '\n' := by
  obtain ⟨others, -, hothers | ⟨hnot, -⟩⟩ := exists_shown_of_rejected hcommand hrefused
  · obtain ⟨front, back, haround⟩ := Diagnostic.exists_around_rejected Setting.maxTries.variableName raw fault
      i.lineStyle l.time
    have hstands : l.run.stderr = (front ++ before) ++ '\n' :: (line ++ '\n' ::
        (behind ++ back ++ others.flatMap (Diagnostic.humanLine i.lineStyle l.time))) := by
      rw [stderr_of_human h hsuccess hhuman, hothers, List.flatMap_cons, haround, hraw]
      simp
    rw [hstands]
    exact mem_splitOn_of_line hline
  · exact absurd hshown hnot

end Written

end Rejected

end Launch

/-! ## What the report shows -/

/-- In the lines of a report a rejected text stays between its quotation marks on one line. -/
theorem Resolution.exists_line_rejected {r : Resolution} (h : r.IsOfKind) {raw : String}
    (hsource : r.source = .rejected raw) (width : Nat) : ∃ before behind,
      r.line width true = before ++ Quoted.quote raw.toList ++ behind ++ ['\n'] ∧
      '\n' ∉ before ++ Quoted.quote raw.toList ++ behind := by
  have hline : r.lineText width true = (r.setting.field.toList
      ++ List.replicate (width - r.setting.field.length) ' ' ++ [' ', ' '] ++ r.shownValue ++ Row.rejection r.setting)
      ++ Quoted.quote raw.toList ++ [']'] := by
    simp [lineText, shownSource_rejected hsource]
  refine ⟨_, _, by rw [line_eq, hline], ?_⟩
  rw [← hline]
  exact newline_not_mem_lineText h width true

/-- The report has an entry for the rejected text. -/
theorem Loader.exists_resolution_rejected {l : Loader} {raw : String} {fault : ReadFault}
    (h : l.refused? = some (raw, fault)) :
    ∃ r ∈ l.report.resolutions, r.setting = .maxTries ∧ r.source = .rejected raw ∧ r.IsOfKind := by
  obtain ⟨hraw, hfault⟩ := (l.refused?_eq_some_iff raw fault).1 h
  have hsource : l.sourceOf .maxTries = .rejected raw := by
    refine (l.sourceOf_eq_rejected_iff .maxTries raw).2 ⟨hraw, (Setting.not_admits_iff _ _).2 ⟨rfl, ?_⟩⟩
    rintro ⟨n, hn⟩
    rw [hn] at hfault
    cases hfault
  have hmem : ⟨.maxTries, l.load.text .maxTries, .rejected raw⟩ ∈ l.report.resolutions := by
    rw [l.resolutions_eq, ← hsource]
    exact List.mem_map.2 ⟨.maxTries, by decide, rfl⟩
  exact ⟨_, hmem, rfl, rfl, l.isOfKind_of_mem hmem⟩

/-- Bytes that cannot be read are refused as the text that is shown for them. -/
theorem ProcessEnvironment.refused?_of_bytes {e : ProcessEnvironment} {bytes : Utf8.Bytes} {fault : ReadFault}
    (hbytes : e.bytes? "PYTORCH_INIT_CONTAINER_MAX_TRIES" = some bytes)
    (hfault : readInteger (.signed 64) (Utf8.lossy bytes) = .error fault) :
    (Loader.reading e.lookup).refused? = some (Utf8.lossy bytes, fault) :=
  ((Loader.reading e.lookup).refused?_eq_some_iff _ _).2 ⟨lookup_of_bytes hbytes, hfault⟩

/-- The command on its own succeeds on a sink without end, if there is no filter. -/
theorem Launch.show_alone {l : Launch} (harguments : l.arguments = [Utf8.encode "show".toList])
    (hunset : l.environment.bytes? CommandLine.colorVariable = none)
    (hfilter : l.environment.strict? filterVariable = none) (hsink : l.stdout = .endless) :
    l.parsed = .ok ⟨.show .human false, 0, false, false, .auto⟩ ∧ l.run.exitCode = .success := by
  have hread : (CommandLine.read none [Utf8.encode "show".toList]).toOption
      = some ⟨.show .human false, 0, false, false, .auto⟩ := by decide +kernel
  have h : l.parsed = .ok ⟨.show .human false, 0, false, false, .auto⟩ :=
    parsed_of_toOption (by rw [parsed, harguments, hunset, hread])
  refine ⟨h, ?_⟩
  have hsplit : l.split? ⟨.show .human false, 0, false, false, .auto⟩ = none := by
    rw [split?, hfilter]
    rfl
  rw [run_of_parsed h hsplit]
  exact exitCode_carryOut_endless hsink _

/-- A log for people, if the integer variable cannot be read. It has one line for each diagnostic that is shown, and if the
warning is among them, one more for each end of a line in the bytes of the variable. So there is one line for each exactly
if the warning is held back or the bytes have no end of a line. A loud run without a filter holds it back at no verbosity,
and then whatever stands on a line of its own in the rejected text stands so in the log, unlike in the lines of the report,
where the same text is quoted on one line. -/
theorem Launch.human_log_spec {l : Launch} {i : CommandLine.Invocation} {format : Format} {sources : Bool}
    {microseconds : Nat} {bytes : Utf8.Bytes} {fault : ReadFault} (h : l.parsed = .ok i)
    (hcommand : i.command = .show format sources) (hhuman : i.logJson = false) (hsuccess : l.run.exitCode = .success)
    (htime : l.time = Timestamp.render microseconds)
    (hbytes : l.environment.bytes? "PYTORCH_INIT_CONTAINER_MAX_TRIES" = some bytes)
    (hfault : readInteger (.signed 64) (Utf8.lossy bytes) = .error fault) :
    let raw := Utf8.lossy bytes
    let warning := Diagnostic.ignoring "PYTORCH_INIT_CONTAINER_MAX_TRIES" raw fault
    let shown := l.shown i
    l.run.stderr.count '\n' = shown.length + (if warning ∈ shown then bytes.count 0x0A else 0) ∧
    (l.run.stderr.count '\n' = shown.length ↔ (warning ∈ shown → 0x0A ∉ bytes)) ∧
    (i.quiet = false → (l.environment.strict? "TRAINING_OPERATOR_LOG_LEVEL").bind Filter.read? = none →
      warning ∈ shown) ∧
    (warning ∈ shown → ∀ before line behind, raw.toList = before ++ '\n' :: (line ++ '\n' :: behind) →
      '\n' ∉ line → line ∈ l.run.stderr.splitOn '\n') ∧
    ∃ r ∈ (Loader.reading l.environment.lookup).report.resolutions,
      r.setting = .maxTries ∧ r.source = .rejected raw ∧ ∀ width, ∃ before behind,
        r.line width true = before ++ Quoted.quote raw.toList ++ behind ++ ['\n'] ∧
        '\n' ∉ before ++ Quoted.quote raw.toList ++ behind := by
  intro raw warning shown
  have hrefused := ProcessEnvironment.refused?_of_bytes hbytes hfault
  have hclock : '\n' ∉ l.time := htime ▸ Timestamp.newline_not_mem_render microseconds
  have hcount : l.run.stderr.count '\n' = shown.length + (if warning ∈ shown then bytes.count 0x0A else 0) := by
    have hbreaks : raw.toList.count '\n' = bytes.count 0x0A := Utf8.count_lossy bytes (b := 0x0A) (by decide)
    rw [← hbreaks]
    exact count_stderr hcommand hrefused h hsuccess hhuman hclock
  refine ⟨hcount, ?_, ignoring_mem_shown hcommand hrefused (split?_of_success h hsuccess), ?_, ?_⟩
  · rw [hcount, ← List.count_eq_zero]
    split <;> simp [*]
  · intro hshown before line behind hraw hline
    exact line_mem_stderr hcommand hrefused h hsuccess hhuman hshown hraw hline
  · obtain ⟨r, hmem, hsetting, hsource, hkind⟩ := Loader.exists_resolution_rejected hrefused
    exact ⟨r, hmem, hsetting, hsource, Resolution.exists_line_rejected hkind hsource⟩

/-- What a line of the log would say that is not told stands there all the same, as part of the rejected text. -/
theorem Launch.human_log_spec_forged :
    let forged := "2023-11-14T22:13:20.000000Z  INFO operator configuration initialized from_env=4 invalid=0 total=4"
    let raw := String.ofList ("many".toList ++ '\n' :: (forged.toList ++ '\n' :: []))
    let l : Launch := ⟨[Utf8.encode "show".toList],
      ⟨[("PYTORCH_INIT_CONTAINER_MAX_TRIES", Utf8.encode raw.toList)]⟩, .endless, Timestamp.render 1700000000000000⟩
    let i : CommandLine.Invocation := ⟨.show .human false, 0, false, false, .auto⟩
    l.shown i = [.ignoring "PYTORCH_INIT_CONTAINER_MAX_TRIES" raw (.integer .invalidDigit)] ∧
    (Diagnostic.initialized 4 0 4).line i.lineStyle l.time = forged.toList ++ ['\n'] ∧
    l.run.stderr.count '\n' = 3 ∧ forged.toList ∈ l.run.stderr.splitOn '\n' := by
  intro forged raw l i
  obtain ⟨h, hsuccess⟩ := Launch.show_alone (l := l) rfl (by decide) (by decide) rfl
  have hraw : raw.toList = "many".toList ++ '\n' :: (forged.toList ++ '\n' :: []) := String.toList_ofList
  have hlossy : Utf8.lossy (Utf8.encode raw.toList) = raw := by rw [Utf8.lossy_encode, String.ofList_toList]
  have hfault : readInteger (.signed 64) (Utf8.lossy (Utf8.encode raw.toList)) = .error (.integer .invalidDigit) := by
    rw [hlossy]
    decide +kernel
  have hrefused := ProcessEnvironment.refused?_of_bytes (e := l.environment) rfl hfault
  have hshown : l.shown i = [.ignoring "PYTORCH_INIT_CONTAINER_MAX_TRIES" raw (.integer .invalidDigit)] := by
    rw [shown_eq_ignoring (i := i) rfl hrefused (split?_of_success h hsuccess) rfl rfl rfl, hlossy]
    rfl
  have hline : '\n' ∉ forged.toList := by decide +kernel
  have hbreaks : (Utf8.encode raw.toList).count 0x0A = 2 := by
    have hcount := Utf8.count_lossy (Utf8.encode raw.toList) (b := 0x0A) (by decide)
    rw [hlossy] at hcount
    rw [← hcount, hraw]
    simp [List.count_eq_zero_of_not_mem hline]
  obtain ⟨hcount, -, -, hlines, -⟩ := Launch.human_log_spec h rfl rfl hsuccess rfl rfl hfault
  rw [hlossy, hshown] at hlines hcount
  refine ⟨hshown, by decide +kernel, ?_, hlines List.mem_cons_self _ _ _ hraw hline⟩
  rw [hcount, if_pos List.mem_cons_self, hbreaks]
  rfl

/-- It is not so that a log for people has one line for each diagnostic that is shown, whatever text is rejected. -/
theorem Launch.not_human_log_one_line_each :
    ¬∀ (l : Launch) (i : CommandLine.Invocation) (format : Format) (sources : Bool) (microseconds : Nat)
      (bytes : Utf8.Bytes) (fault : ReadFault), l.parsed = .ok i → i.command = .show format sources →
      i.logJson = false → l.run.exitCode = .success → l.time = Timestamp.render microseconds →
      l.environment.bytes? "PYTORCH_INIT_CONTAINER_MAX_TRIES" = some bytes → 0 ∉ bytes →
      readInteger (.signed 64) (Utf8.lossy bytes) = .error fault →
      l.run.stderr.count '\n' = (l.shown i).length := by
  intro hone
  let l : Launch := ⟨[Utf8.encode "show".toList],
    ⟨[("PYTORCH_INIT_CONTAINER_MAX_TRIES", Utf8.encode "many\nforged".toList)]⟩, .endless, Timestamp.render 0⟩
  let i : CommandLine.Invocation := ⟨.show .human false, 0, false, false, .auto⟩
  obtain ⟨h, hsuccess⟩ := Launch.show_alone (l := l) rfl (by decide) (by decide) rfl
  have hlossy : Utf8.lossy (Utf8.encode "many\nforged".toList) = "many\nforged" := by
    rw [Utf8.lossy_encode, String.ofList_toList]
  have hfault : readInteger (.signed 64) (Utf8.lossy (Utf8.encode "many\nforged".toList))
      = .error (.integer .invalidDigit) := by
    rw [hlossy]
    decide +kernel
  have hrefused := ProcessEnvironment.refused?_of_bytes (e := l.environment) rfl hfault
  have hshown := shown_eq_ignoring (l := l) (i := i) rfl hrefused (split?_of_success h hsuccess) rfl rfl rfl
  have hcount := count_stderr (i := i) rfl hrefused h hsuccess rfl (Timestamp.newline_not_mem_render 0)
  rw [hone l i .human false 0 _ _ h rfl rfl hsuccess rfl rfl (by decide) hfault, hshown, if_pos List.mem_cons_self,
    hlossy] at hcount
  exact absurd hcount (by decide)

end StartupConfig
