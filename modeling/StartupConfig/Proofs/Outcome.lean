import StartupConfig.Proofs.Cut
import StartupConfig.Proofs.Dependence
import StartupConfig.Proofs.LineBuffer

/-!
# How a run ends

What a run writes and how it ends follow from its command and the recognized variables, unless reading the filter breaks
off; else the other flags and variables only have a say in diagnostics. A sink that takes nothing refuses the first line
already, so the fault is that of JSON exactly if the format is.
-/
namespace StartupConfig

namespace CommandLine.Command

/-- The format of an answer; scripts have none. -/
def format? : Command → Option Format
  | .show format _ => some format
  | .env format => some format
  | .completions _ => none
  | .version format => some format

/-- What a command asks to be written. -/
def request (lookup : Lookup) : Command → Request
  | .show format sources => .show (Loader.reading lookup).report format sources
  | .env format => .list lookup format
  | .completions shell => .completions shell
  | .version format => .version format

theorem format?_request (lookup : Lookup) (c : Command) : (c.request lookup).format? = c.format? := by
  cases c <;> rfl

theorem value_run (lookup : Lookup) (c : Command) : (c.run lookup).value = (c.request lookup).output := by
  cases c <;> rfl

/-- What a command writes depends on the recognized variables alone. -/
theorem value_run_congr {e₁ e₂ : Lookup} (h : ∀ s : Setting, e₁ s.variableName = e₂ s.variableName) (c : Command) :
    (c.run e₁).value = (c.run e₂).value := by
  rw [value_run, value_run]
  cases c with
  | «show» format sources =>
    have hreport : (Loader.reading e₁).report = (Loader.reading e₂).report := Loader.report_congr .documented h
    rw [request, request, hreport]
  | env format => exact listingOutput_congr h format
  | completions shell => rfl
  | version format => rfl

end CommandLine.Command

/-! ## Every command writes something -/

theorem Output.bytes_ne_nil {o : Output} {c : Chunk} (hc : c ∈ o) (h : c.text ≠ []) : o.bytes ≠ [] := by
  intro hnil
  apply h
  apply Utf8.encode_injective
  exact List.flatMap_eq_nil_iff.1 hnil c hc

theorem Format.bytes_output_ne_nil {human : Output} {t : Tree} (hhuman : human.bytes ≠ [])
    (hyaml : Yaml.render t ≠ []) (f : Format) : (f.output human t).bytes ≠ [] := by
  cases f with
  | human => exact hhuman
  | json => exact Output.bytes_ne_nil (c := ⟨.plain, ['\n']⟩) (by simp [output, Output.ofJson]) (by simp)
  | yaml => exact Output.bytes_ne_nil (c := ⟨.plain, Yaml.render t⟩) (by simp [output, Output.ofYaml, Output.plain]) hyaml

theorem Yaml.render_record_ne_nil (m : String × Tree) (ms : List (String × Tree)) :
    Yaml.render (.record (m :: ms)) ≠ [] := by
  simp [Yaml.render, Yaml.writeItem]

theorem Completion.script_ne_nil (s : Shell) : (script s).toList ≠ [] := by
  have hlines (l : String) (ls : List String) : (lines (l :: ls)).toList ≠ [] := by
    simp [lines, String.toList_join]
  have hscript : ∃ l ls, script s = lines (l :: ls) := by
    cases s <;> exact ⟨_, _, rfl⟩
  obtain ⟨l, ls, hs⟩ := hscript
  rw [hs]
  exact hlines l ls

theorem CommandLine.Command.bytes_ne_nil (lookup : Lookup) (c : Command) : (c.request lookup).output.bytes ≠ [] := by
  cases c with
  | «show» format sources =>
    apply Format.bytes_output_ne_nil
    · exact Output.bytes_ne_nil List.mem_cons_self (by simp [Resolution.line])
    · cases sources <;> exact Yaml.render_record_ne_nil _ _
  | env format =>
    apply Format.bytes_output_ne_nil
    · exact Output.bytes_ne_nil List.mem_cons_self (by simp [ListingRow.line])
    · simp [listing, Setting.all, Yaml.render, Yaml.writeItem, ListingRow.tree]
  | completions shell => exact Output.bytes_ne_nil List.mem_cons_self (Completion.script_ne_nil shell)
  | version format =>
    apply Format.bytes_output_ne_nil
    · exact Output.bytes_ne_nil List.mem_cons_self (by simp)
    · exact Yaml.render_record_ne_nil _ _

/-- A body of JSON has several lines. -/
theorem Request.exists_body {q : Request} (h : q.format? = some .json) :
    ∃ t, q.output = .ofJson t ∧ '\n' ∈ Json.render t := by
  have hrecord (m : String × Tree) (ms : List (String × Tree)) : '\n' ∈ Json.render (.record (m :: ms)) := by
    simp [Json.render, Json.write, Json.Layout.indented]
  have hlist (t : Tree) (ts : List Tree) : '\n' ∈ Json.render (.list (t :: ts)) := by
    simp [Json.render, Json.write, Json.Layout.indented]
  cases q with
  | «show» report format sources =>
    obtain rfl : format = .json := Option.some.inj h
    cases sources <;> exact ⟨_, rfl, hrecord _ _⟩
  | list lookup format =>
    obtain rfl : format = .json := Option.some.inj h
    exact ⟨_, rfl, hlist _ _⟩
  | version format =>
    obtain rfl : format = .json := Option.some.inj h
    exact ⟨_, rfl, hrecord _ _⟩
  | completions shell => cases h

/-! ## Runs -/

/-- The fault of a command whose first line is refused. -/
def CommandLine.Command.refused (c : CommandLine.Command) (cause : String) : Fault :=
  if c.format? = some .json then .json cause else .output cause

theorem CommandLine.Command.exitCode_refused (c : CommandLine.Command) (cause : String) :
    (c.refused cause).exitCode.toNat = if c.format? = some .json then 2 else 3 := by
  unfold refused
  split <;> rfl

/-- A fault is told on one line, if its cause is. -/
theorem CommandLine.Command.newline_mem_refused {c : CommandLine.Command} {cause : String}
    (h : '\n' ∈ "error: ".toList ++ (c.refused cause).message.toList) : '\n' ∈ cause.toList := by
  unfold refused at h
  split at h <;> simpa [Fault.message] using h

theorem Fault.exitCode_toNat (f : Fault) : f.exitCode.toNat = 2 ∨ f.exitCode.toNat = 3 := by
  cases f with
  | output cause => exact .inr rfl
  | json cause => exact .inl rfl
  | yaml cause => exact .inl rfl

/-- The place at which reading the filter that is written breaks off. A quiet invocation does not read it. -/
def CommandLine.Invocation.split? (i : CommandLine.Invocation) (written : Option String) : Option SplitCharacter :=
  if i.quiet then none else written.bind Filter.split?

theorem CommandLine.Invocation.logging_of_split {i : CommandLine.Invocation} {written : Option String}
    {s : SplitCharacter} (h : i.split? written = some s) : i.logging written = .error s := by
  unfold split? at h
  split at h
  · cases h
  · next hquiet => rw [logging, if_neg hquiet, Filter.chosen_eq, h]

theorem CommandLine.Invocation.logging_of_loud {i : CommandLine.Invocation} {written : Option String}
    (hquiet : i.quiet = false) (h : i.split? written = none) :
    i.logging written = .ok ((written.bind Filter.read?).getD (.ofLevel (verbosityLevel i.verbose))).admits := by
  rw [split?, hquiet, if_neg (by simp)] at h
  rw [logging, hquiet, if_neg (by simp), Filter.chosen_eq, h]

namespace Launch

variable {l : Launch} {i : CommandLine.Invocation}

/-- The place at which reading the filter of a run breaks off. -/
def split? (l : Launch) (i : CommandLine.Invocation) : Option SplitCharacter :=
  i.split? (l.environment.strict? filterVariable)

theorem split?_of_quiet (h : i.quiet) : l.split? i = none := by
  rw [split?, CommandLine.Invocation.split?, if_pos h]

/-- Where reading breaks off there is a directive that begins with a blank. -/
theorem exists_directive_of_split? {s : SplitCharacter} (h : l.split? i = some s) :
    i.quiet = false ∧ ∃ text, l.environment.strict? filterVariable = some text ∧
      ∃ directive ∈ Filter.splitAtCommas text.toList,
        WrittenDirective.BeginsWithBlank directive ∧ s.IsIn directive := by
  unfold split? CommandLine.Invocation.split? at h
  split at h
  · cases h
  · next hquiet =>
    obtain ⟨text, htext, hsplit⟩ := Option.bind_eq_some_iff.1 h
    exact ⟨eq_false_of_ne_true hquiet, text, htext, Filter.exists_directive_of_split? hsplit⟩

theorem logging_of_split {s : SplitCharacter} (h : l.split? i = some s) : l.logging i = .error s :=
  CommandLine.Invocation.logging_of_split h

theorem exists_logging (h : l.split? i = none) : ∃ admits, l.logging i = .ok admits := by
  cases hquiet : i.quiet with
  | true => exact ⟨_, by rw [logging, CommandLine.Invocation.logging, if_pos hquiet]⟩
  | false => exact ⟨_, CommandLine.Invocation.logging_of_loud hquiet h⟩

theorem run_of_parsed (h : l.parsed = .ok i) (hsplit : l.split? i = none) : l.run = l.carryOut i := by
  obtain ⟨admits, hadmits⟩ := exists_logging hsplit
  simp only [run, h, hadmits]

/-- Where reading the filter breaks off nothing is carried out. -/
theorem run_of_split {s : SplitCharacter} (h : l.parsed = .ok i) (hsplit : l.split? i = some s) :
    l.run = ⟨.breakdown, l.stdout.taken, s.message ++ ['\n']⟩ := by
  simp only [run, h, logging_of_split hsplit]

theorem parsed_of_toOption (h : l.parsed.toOption = some i) : l.parsed = .ok i := by
  cases hparsed : l.parsed with
  | ok j =>
    rw [hparsed] at h
    cases h
    rfl
  | error r =>
    rw [hparsed] at h
    cases h

theorem split?_of_success (h : l.parsed = .ok i) (hsuccess : l.run.exitCode = .success) : l.split? i = none := by
  cases hsplit : l.split? i with
  | none => rfl
  | some s =>
    rw [run_of_split h hsplit] at hsuccess
    cases hsuccess

theorem run_of_mistake {r : CommandLine.Refusal} (h : l.parsed = .error r) (hr : r.isMistake) :
    l.run = ⟨.usage, l.stdout.taken, r.firstLine ++ ['\n']⟩ := by
  simp only [run, h, if_pos hr]

theorem run_of_answer {r : CommandLine.Refusal} (h : l.parsed = .error r) (hr : r.isMistake = false) :
    l.run = ⟨.success, (deliver (.plain r.message) l.stdout).2.taken, []⟩ := by
  simp only [run, h, hr, Bool.false_eq_true, if_false]

theorem stdout_carryOut (l : Launch) (i : CommandLine.Invocation) :
    (l.carryOut i).stdout = (deliver (l.output i) l.stdout).2.taken := by
  unfold carryOut
  split <;> next heq => rw [heq]

/-- A run that was carried out ends with the code of its fault. -/
theorem exitCode_carryOut (l : Launch) (i : CommandLine.Invocation) :
    (l.carryOut i).exitCode = ((deliver (l.output i) l.stdout).1.map Fault.exitCode).getD .success := by
  unfold carryOut
  split <;> next heq => rw [heq]; rfl

/-- The fault stands on a line behind the diagnostics. -/
theorem stderr_carryOut (l : Launch) (i : CommandLine.Invocation) :
    (l.carryOut i).stderr = (l.shown i).flatMap (Diagnostic.line i.lineStyle l.time)
      ++ match (deliver (l.output i) l.stdout).1 with
        | none => []
        | some fault => "error: ".toList ++ fault.message.toList ++ ['\n'] := by
  unfold carryOut
  split <;> next heq => simp [heq]

/-- A sink that takes nothing refuses the first line, which in JSON is part of the body. -/
theorem deliver_output_full (l : Launch) (i : CommandLine.Invocation) (cause : String) :
    (deliver (l.output i) (.bounded 0 cause)).1 = some (i.command.refused cause) ∧
    (deliver (l.output i) (.bounded 0 cause)).2.taken = [] := by
  obtain ⟨hfault, htaken⟩ := deliver_full (l.output i) cause
  refine ⟨?_, htaken⟩
  let q := i.command.request l.environment.lookup
  have hrequest : l.output i = q.output.byLines [] := by rw [output, CommandLine.Command.value_run]
  have hformat : q.format? = i.command.format? := CommandLine.Command.format?_request _ _
  rw [hfault, hrequest]
  by_cases hjson : i.command.format? = some .json
  · obtain ⟨t, ht, hnewline⟩ := Request.exists_body (hformat.trans hjson)
    obtain ⟨b, hb⟩ := Output.head_byLines_ofJson hnewline
    rw [ht, hb, CommandLine.Command.refused, if_pos hjson]
    rfl
  · have hplain : ∀ c ∈ q.output, c.stage = .plain := by
      intro c hc
      exact Request.stage_of_mem_output (hformat ▸ hjson) hc
    obtain ⟨b, hb⟩ := Output.head_byLines_plain hplain (i.command.bytes_ne_nil l.environment.lookup)
    rw [hb, CommandLine.Command.refused, if_neg hjson]
    rfl

theorem exitCode_carryOut_endless (h : l.stdout = .endless) (i : CommandLine.Invocation) :
    (l.carryOut i).exitCode = .success := by
  rw [exitCode_carryOut, h, Sink.endless, deliver_endless]
  rfl

/-- On a sink that takes nothing only diagnostics and the fault are written. -/
theorem carryOut_full {cause : String} (h : l.stdout = .bounded 0 cause) (i : CommandLine.Invocation) :
    (l.carryOut i).exitCode = (i.command.refused cause).exitCode ∧
    (l.carryOut i).stdout = [] ∧
    (l.carryOut i).stderr = (l.shown i).flatMap (Diagnostic.line i.lineStyle l.time)
      ++ ("error: ".toList ++ (i.command.refused cause).message.toList ++ ['\n']) := by
  obtain ⟨hfault, htaken⟩ := l.deliver_output_full i cause
  rw [exitCode_carryOut, stdout_carryOut, stderr_carryOut, h, hfault]
  exact ⟨rfl, htaken, rfl⟩

/-- A run that was carried out ends with one of three codes. -/
theorem toNat_exitCode_carryOut (l : Launch) (i : CommandLine.Invocation) :
    (l.carryOut i).exitCode.toNat ∈ [0, 2, 3] := by
  rw [exitCode_carryOut]
  cases (deliver (l.output i) l.stdout).1 with
  | none => decide
  | some fault => rcases fault.exitCode_toNat with hcode | hcode <;> simp [hcode]

/-- None of them is that of a run that breaks off. -/
theorem exitCode_carryOut_ne_breakdown (l : Launch) (i : CommandLine.Invocation) :
    (l.carryOut i).exitCode ≠ .breakdown := by
  intro hbreakdown
  have hmem := l.toNat_exitCode_carryOut i
  rw [hbreakdown] at hmem
  exact absurd hmem (by decide)

end Launch

theorem Diagnostic.exists_line (s : LineStyle) (time : List Char) (d : Diagnostic) :
    ∃ text, d.line s time = text ++ ['\n'] := by
  unfold line
  split
  · exact ⟨_, rfl⟩
  · exact ⟨_, rfl⟩

/-- Diagnostics end their last line. -/
theorem Diagnostic.getLast?_lines (s : LineStyle) (time : List Char) (ds : List Diagnostic) :
    ds.flatMap (line s time) = [] ∨ (ds.flatMap (line s time)).getLast? = some '\n' := by
  rcases List.eq_nil_or_concat ds with rfl | ⟨before, d, rfl⟩
  · exact .inl rfl
  · obtain ⟨text, htext⟩ := d.exists_line s time
    right
    simp [htext]

/-- A run with the filter variable alone in its environment. -/
def Launch.filtered (arguments : List String) (filter : String) : Launch :=
  ⟨arguments.map fun a => Utf8.encode a.toList,
    ⟨[("TRAINING_OPERATOR_LOG_LEVEL", Utf8.encode filter.toList)]⟩, .endless, []⟩

/-- The name in front of the equals sign has one byte, and the blank in front of the name has three. -/
theorem Launch.split?_filtered (arguments : List String) {i : CommandLine.Invocation} (h : i.quiet = false) :
    (Launch.filtered arguments "\u3000a=b").split? i = some ⟨true, 1, '\u3000', 0⟩ := by
  have hsplit : ((Launch.filtered [] "\u3000a=b").environment.strict? filterVariable).bind Filter.split?
      = some ⟨true, 1, '\u3000', 0⟩ := by decide +kernel
  rw [split?, CommandLine.Invocation.split?, h]
  exact hsplit

/-! ## Main statements -/

/-- What is written and the exit code do not depend on logging, unless reading the filter breaks off. Of two runs whose
command lines are read as the same command, and whose environments agree on the bytes of the recognized variables, both
are the same on every standard output, whatever other flags and variables there are, exactly if reading the filter breaks
off in both or in neither. It breaks off only if the run is not quiet and a directive begins with a blank; then the run
ends with 101 and writes nothing to standard output. -/
theorem Launch.independent_of_logging_iff {l₁ l₂ : Launch} {i₁ i₂ : CommandLine.Invocation} (h₁ : l₁.parsed = .ok i₁)
    (h₂ : l₂.parsed = .ok i₂) (hcommand : i₁.command = i₂.command)
    (hvariables : ∀ name ∈ recognizedNames, l₁.environment.bytes? name = l₂.environment.bytes? name)
    (hstdout : l₁.stdout = l₂.stdout) :
    ((l₁.run.stdout = l₂.run.stdout ∧ l₁.run.exitCode = l₂.run.exitCode) ↔ (l₁.split? i₁).isSome = (l₂.split? i₂).isSome)
    ∧ ∀ s, l₁.split? i₁ = some s →
      l₁.run.exitCode.toNat = 101 ∧ l₁.run.stdout = l₁.stdout.taken ∧
      i₁.quiet = false ∧ ∃ text, l₁.environment.strict? "TRAINING_OPERATOR_LOG_LEVEL" = some text ∧
        ∃ directive ∈ Filter.splitAtCommas text.toList,
          WrittenDirective.BeginsWithBlank directive ∧ s.IsIn directive := by
  have hlookup (s : Setting) : l₁.environment.lookup s.variableName = l₂.environment.lookup s.variableName := by
    rw [ProcessEnvironment.lookup, ProcessEnvironment.lookup, hvariables _ s.variableName_mem]
  have houtput : l₁.output i₁ = l₂.output i₂ := by
    rw [output, output, hcommand, CommandLine.Command.value_run_congr hlookup]
  constructor
  · cases hsplit₁ : l₁.split? i₁ with
    | none =>
      cases hsplit₂ : l₂.split? i₂ with
      | none =>
        rw [run_of_parsed h₁ hsplit₁, run_of_parsed h₂ hsplit₂]
        simp only [stdout_carryOut, exitCode_carryOut, houtput, hstdout, and_self]
      | some s₂ =>
        rw [run_of_parsed h₁ hsplit₁, run_of_split h₂ hsplit₂]
        simp [l₁.exitCode_carryOut_ne_breakdown i₁]
    | some s₁ =>
      cases hsplit₂ : l₂.split? i₂ with
      | none =>
        rw [run_of_split h₁ hsplit₁, run_of_parsed h₂ hsplit₂]
        simp [(l₂.exitCode_carryOut_ne_breakdown i₂).symm]
      | some s₂ =>
        rw [run_of_split h₁ hsplit₁, run_of_split h₂ hsplit₂]
        simp [hstdout]
  · intro s hsplit
    rw [run_of_split h₁ hsplit]
    exact ⟨rfl, rfl, exists_directive_of_split? hsplit⟩

/-- Two runs that are logged differently have the same fault on a sink that takes nothing. -/
theorem Launch.independent_of_logging_iff_full :
    let tries := ("PYTORCH_INIT_CONTAINER_MAX_TRIES", Utf8.encode "many".toList)
    let l₁ : Launch := ⟨["-vv", "--color", "always", "show", "--format=json"].map fun a => Utf8.encode a.toList,
      ⟨[tries, ("TRAINING_OPERATOR_LOG_LEVEL", Utf8.encode "trace".toList)]⟩, .bounded 0 "closed", []⟩
    let l₂ : Launch := ⟨["show", "--log-json", "-qfjson"].map fun a => Utf8.encode a.toList,
      ⟨[("TRAINING_OPERATOR_COLOR", Utf8.encode "never".toList), tries]⟩, .bounded 0 "closed", []⟩
    l₁.run.stdout = l₂.run.stdout ∧ l₁.run.exitCode = l₂.run.exitCode := by
  intro tries l₁ l₂
  let i₁ : CommandLine.Invocation := ⟨.show .json false, 2, false, false, .always⟩
  let i₂ : CommandLine.Invocation := ⟨.show .json false, 0, true, true, .never⟩
  have h₁ : l₁.parsed = .ok i₁ := parsed_of_toOption (by decide +kernel)
  have h₂ : l₂.parsed = .ok i₂ := parsed_of_toOption (by decide +kernel)
  have hsplit₁ : l₁.split? i₁ = none := by decide +kernel
  have hsplit₂ : l₂.split? i₂ = none := split?_of_quiet rfl
  refine (Launch.independent_of_logging_iff h₁ h₂ rfl (by decide) rfl).1.2 ?_
  rw [hsplit₁, hsplit₂]

/-- So logging has a say in them after all: at a filter that begins with a wide blank the version is not written. -/
theorem Launch.not_independent_of_logging :
    ¬∀ (l₁ l₂ : Launch) (i₁ i₂ : CommandLine.Invocation), l₁.parsed = .ok i₁ → l₂.parsed = .ok i₂ →
      i₁.command = i₂.command →
      (∀ name ∈ recognizedNames, l₁.environment.bytes? name = l₂.environment.bytes? name) → l₁.stdout = l₂.stdout →
      l₁.run.stdout = l₂.run.stdout ∧ l₁.run.exitCode = l₂.run.exitCode := by
  intro hsame
  let i : CommandLine.Invocation := ⟨.version .human, 0, false, false, .auto⟩
  let plain : Launch := .filtered ["version"] "warn"
  let broken : Launch := .filtered ["version"] "\u3000a=b"
  have hplain : plain.parsed = .ok i := parsed_of_toOption (by decide +kernel)
  have hbroken : broken.parsed = .ok i := parsed_of_toOption (by decide +kernel)
  have hsplit : plain.split? i = none := by decide +kernel
  obtain ⟨-, hcode⟩ := hsame plain broken i i hplain hbroken rfl (by decide) rfl
  rw [run_of_parsed hplain hsplit, run_of_split hbroken (split?_filtered _ rfl), exitCode_carryOut_endless rfl] at hcode
  cases hcode

/-- How a run ends. A command line that is a mistake ends it with 64 and nothing on standard output, help and the
version with 0. Otherwise it ends with 0 if standard output takes everything; if it takes nothing, with 2 in JSON and
with 3 in every other format, and the last line of standard error tells the fault. But where the filter is read and
reading it breaks off, inside a character of a directive that begins with a blank, the run ends with 101 and nothing on
standard output. No other code occurs on any standard output. -/
theorem Launch.exitCode_spec (arguments : List Utf8.Bytes) (environment : ProcessEnvironment) (time : List Char) :
    let run (stdout : Sink) := (Launch.mk arguments environment stdout time).run
    match CommandLine.read (environment.bytes? CommandLine.colorVariable) arguments with
    | .error (.help _ _ _) => ∀ stdout, (run stdout).exitCode.toNat = 0
    | .error (.version _) => ∀ stdout, (run stdout).exitCode.toNat = 0
    | .error _ => ∀ stdout, (run stdout).exitCode.toNat = 64 ∧ (run stdout).stdout = stdout.taken
    | .ok i =>
      match i.split? (environment.strict? "TRAINING_OPERATOR_LOG_LEVEL") with
      | some s =>
        (∀ stdout, (run stdout).exitCode.toNat = 101 ∧ (run stdout).stdout = stdout.taken ∧
          (run stdout).stderr = s.message ++ ['\n']) ∧
        i.quiet = false ∧ ∃ text, environment.strict? "TRAINING_OPERATOR_LOG_LEVEL" = some text ∧
          ∃ directive ∈ Filter.splitAtCommas text.toList,
            WrittenDirective.BeginsWithBlank directive ∧ s.IsIn directive
      | none =>
        (run .endless).exitCode.toNat = 0 ∧
        (∀ cause, ∃ log line,
          let fault := if i.command.format? = some .json then Fault.json cause else .output cause
          (run (.bounded 0 cause)).exitCode.toNat = (if i.command.format? = some .json then 2 else 3) ∧
          (run (.bounded 0 cause)).stdout = [] ∧
          (run (.bounded 0 cause)).stderr = log ++ line ++ ['\n'] ∧ line = "error: ".toList ++ fault.message.toList ∧
          (log = [] ∨ log.getLast? = some '\n') ∧ ('\n' ∈ line → '\n' ∈ cause.toList)) ∧
        ∀ stdout, (run stdout).exitCode.toNat ∈ [0, 2, 3] := by
  intro run
  cases hread : CommandLine.read (environment.bytes? CommandLine.colorVariable) arguments with
  | error r =>
    have hanswer (hr : r.isMistake = false) (stdout : Sink) : (run stdout).exitCode.toNat = 0 := by
      rw [show run stdout = _ from run_of_answer hread hr]
      rfl
    have hmistake (hr : r.isMistake) (stdout : Sink) :
        (run stdout).exitCode.toNat = 64 ∧ (run stdout).stdout = stdout.taken := by
      rw [show run stdout = _ from run_of_mistake hread hr]
      exact ⟨rfl, rfl⟩
    cases r with
    | help page detail color => exact hanswer rfl
    | version scope => exact hanswer rfl
    | _ => exact hmistake rfl
  | ok i =>
    cases hsplit : i.split? (environment.strict? "TRAINING_OPERATOR_LOG_LEVEL") with
    | some s =>
      simp only [hsplit]
      refine ⟨fun stdout => ?_, exists_directive_of_split? (l := ⟨arguments, environment, .endless, time⟩) hsplit⟩
      rw [show run stdout = _ from run_of_split hread hsplit]
      exact ⟨rfl, rfl, rfl⟩
    | none =>
      have hrun (stdout : Sink) : run stdout = (Launch.mk arguments environment stdout time).carryOut i :=
        run_of_parsed hread hsplit
      simp only [hsplit]
      refine ⟨?_, ?_, ?_⟩
      · rw [hrun, exitCode_carryOut_endless rfl]
        rfl
      · intro cause
        let l : Launch := ⟨arguments, environment, .bounded 0 cause, time⟩
        obtain ⟨hcode, hstdout, hstderr⟩ := carryOut_full (l := l) rfl i
        have hcarried : run (.bounded 0 cause) = l.carryOut i := hrun (.bounded 0 cause)
        rw [hcarried, hcode, hstderr]
        refine ⟨(l.shown i).flatMap (Diagnostic.line i.lineStyle l.time), _, i.command.exitCode_refused cause, hstdout,
          (List.append_assoc _ _ _).symm, rfl, Diagnostic.getLast?_lines _ _ _, ?_⟩
        exact CommandLine.Command.newline_mem_refused
      · intro stdout
        rw [hrun]
        exact toNat_exitCode_carryOut _ i

/-- So a command line that is read does not always end with 0 on a standard output that takes everything, and the code is
none of the four that are chosen. -/
theorem Launch.not_exitCode_zero_of_parsed :
    (¬∀ (l : Launch) (i : CommandLine.Invocation), l.parsed = .ok i → l.stdout = .endless → l.run.exitCode.toNat = 0) ∧
    ¬∀ l : Launch, l.run.exitCode.toNat ∈ [0, 2, 3, 64] := by
  let i : CommandLine.Invocation := ⟨.show .human false, 0, false, false, .auto⟩
  let l : Launch := .filtered ["show"] "\u3000a=b"
  have h : l.parsed = .ok i := parsed_of_toOption (by decide +kernel)
  have hcode : l.run.exitCode.toNat = 101 := by
    rw [run_of_split h (split?_filtered _ rfl)]
    rfl
  constructor
  · intro hzero
    have hcode' : l.run.exitCode.toNat = 0 := hzero l i h rfl
    rw [hcode] at hcode'
    cases hcode'
  · intro hchosen
    have hmem : l.run.exitCode.toNat ∈ [0, 2, 3, 64] := hchosen l
    rw [hcode] at hmem
    exact absurd hmem (by decide)

end StartupConfig
