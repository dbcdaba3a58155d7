import StartupConfig.Proofs.Decimal
import StartupConfig.Proofs.Json.Record
import StartupConfig.Proofs.Provenance
import StartupConfig.Proofs.Quoted

/-!
# Reading the lines of a report back

The form of a report for people can be read by machines too. A line is read from the left: the field up to the
first blank, the value by the kind of the setting, and what is left says where the value came from. Neither a
quoted text nor an integer can hide where it ends, so whatever the texts hold, each line gives back its
resolution, and the lines are told apart by their ends.
-/
namespace StartupConfig

/-- What a line tells of a setting: its value, and where that came from if it is shown. -/
structure Row where
  setting : Setting
  value : String
  source : Option Source
  deriving DecidableEq

namespace Row

/-- Characters of decimal digits with a sign. -/
def isDecimal (c : Char) : Bool := c.isDigit || c == '-'

/-- Reads a value, and hands on what follows it. -/
def readValue : Kind → List Char → Option (List Char × List Char)
  | .string, cs => Quoted.unquote cs
  | .integer, cs => some (cs.takeWhile isDecimal, cs.dropWhile isDecimal)

/-- The beginning of the brackets of a variable, with a label. -/
def bracket (s : Setting) (label : String) : List Char :=
  [' ', ' ', '['] ++ label.toList ++ [':', ' '] ++ s.variableName.toList

/-- The beginning of the brackets around a rejected text. -/
def rejection (s : Setting) : List Char := bracket s "default (invalid value)" ++ " rejected ".toList

/-- Reads where a value came from. -/
def readSource (s : Setting) (cs : List Char) : Option Source :=
  if cs = bracket s "env" ++ [']'] then some .environment
  else if cs = bracket s "default" ++ [']'] then some .fallback
  else if cs.take (rejection s).length = rejection s then
    match Quoted.unquote (cs.drop (rejection s).length) with
    | some (raw, [']']) => some (.rejected (String.ofList raw))
    | _ => none
  else none

/-- Reads a line. -/
def read? (line : List Char) : Option Row := do
  let setting ← Setting.ofField? (String.ofList (line.takeWhile (· != ' ')))
  let (value, rest) ← readValue setting.kind ((line.dropWhile (· != ' ')).dropWhile (· == ' '))
  if rest = [] then some ⟨setting, String.ofList value, none⟩
  else
    let source ← readSource setting rest
    some ⟨setting, String.ofList value, some source⟩

/-- Reads a text line by line. Each line has an end, so nothing stands behind the last one. -/
def readAll (text : List Char) : Option (List Row) := (text.splitOn '\n').dropLast.mapM read?

end Row

namespace Resolution

/-- The row that the line of a resolution is read as. -/
def row (sources : Bool) (r : Resolution) : Row := ⟨r.setting, r.value, if sources then some r.source else none⟩

/-- The value of the integer setting is an integer. -/
def IsOfKind (r : Resolution) : Prop := r.setting.kind = .integer → ∃ z : Int, r.value.toList = Decimal.render z

/-- The line of a resolution without its end. -/
def lineText (width : Nat) (sources : Bool) (r : Resolution) : List Char :=
  r.setting.field.toList ++ List.replicate (width - r.setting.field.length) ' ' ++ [' ', ' '] ++ r.shownValue
    ++ if sources then r.shownSource else []

theorem lineText_eq (width : Nat) (sources : Bool) (r : Resolution) :
    r.lineText width sources = r.setting.field.toList
      ++ (List.replicate (width - r.setting.field.length + 1 + 1) ' '
        ++ (r.shownValue ++ if sources then r.shownSource else [])) := by
  have hgap : List.replicate (width - r.setting.field.length) ' ' ++ [' ', ' ']
      = List.replicate (width - r.setting.field.length + 1 + 1) ' ' := by
    change _ ++ List.replicate 2 ' ' = _
    rw [List.replicate_append_replicate]
  rw [← hgap, lineText]
  simp only [List.append_assoc]

theorem line_eq (width : Nat) (sources : Bool) (r : Resolution) :
    r.line width sources = r.lineText width sources ++ ['\n'] := by
  simp [line, lineText, padded, String.length_toList]

end Resolution

/-! ## Values -/

theorem Decimal.isDecimal_of_mem_render {z : Int} {c : Char} (h : c ∈ render z) : Row.isDecimal c := by
  have hdigit {n : Nat} (h : c ∈ renderNat n) : Row.isDecimal c := by simp [Row.isDecimal, isDigit_of_mem_renderNat h]
  unfold render at h
  split at h
  · rcases List.mem_cons.1 h with rfl | h
    · rfl
    · exact hdigit h
  · exact hdigit h

theorem Decimal.render_ne_nil (z : Int) : render z ≠ [] := by
  unfold render
  split
  · exact List.cons_ne_nil _ _
  · exact renderNat_ne_nil _

namespace Resolution

variable {r : Resolution} (h : r.IsOfKind)
include h

/-- A shown value is read back, if what follows is not taken for digits. -/
theorem readValue_shownValue {rest : List Char} (hrest : ∀ c ∈ rest.head?, Row.isDecimal c = false) :
    Row.readValue r.setting.kind (r.shownValue ++ rest) = some (r.value.toList, rest) := by
  unfold shownValue
  cases hkind : r.setting.kind with
  | string => exact Quoted.unquote_quote _ _
  | integer =>
    obtain ⟨z, hz⟩ := h hkind
    obtain ⟨htake, hdrop⟩ := run_append (fun c hc => Decimal.isDecimal_of_mem_render (z := z) hc) hrest
    simp only [Row.readValue, hz, htake, hdrop]

/-- A shown value begins with a character other than a blank. -/
theorem exists_shownValue : ∃ c cs, r.shownValue = c :: cs ∧ c ≠ ' ' := by
  unfold shownValue
  cases hkind : r.setting.kind with
  | string => exact ⟨'"', _, rfl, by decide⟩
  | integer =>
    obtain ⟨z, hz⟩ := h hkind
    obtain ⟨c, cs, hcs⟩ := List.exists_cons_of_ne_nil (Decimal.render_ne_nil z)
    have hc : Row.isDecimal c := Decimal.isDecimal_of_mem_render (z := z) (by simp [hcs])
    refine ⟨c, cs, hz.trans hcs, ?_⟩
    rintro rfl
    exact absurd hc (by decide)

theorem newline_not_mem_shownValue : '\n' ∉ r.shownValue := by
  unfold shownValue
  cases hkind : r.setting.kind with
  | string => exact Quoted.newline_not_mem_quote _
  | integer =>
    obtain ⟨z, hz⟩ := h hkind
    intro hmem
    exact absurd (Decimal.isDecimal_of_mem_render (hz ▸ hmem)) (by decide)

end Resolution

/-- Names hold neither blanks nor ends of lines. -/
theorem Setting.ne_of_mem_name {s : Setting} {c : Char} (h : c ∈ s.field.toList ∨ c ∈ s.variableName.toList) :
    c ≠ ' ' ∧ c ≠ '\n' := by
  have hall : (s.field.toList ++ s.variableName.toList).all fun c => c != ' ' && c != '\n' := by
    cases s <;> decide
  simpa using List.all_eq_true.1 hall c (List.mem_append.2 h)

/-- The first column is read as the field; the padding and the blanks behind it are passed over as one run. -/
theorem Setting.read_column (s : Setting) (n : Nat) {rest : List Char} (hrest : ∀ c ∈ rest.head?, c ≠ ' ') :
    let line := s.field.toList ++ (List.replicate (n + 1) ' ' ++ rest)
    line.takeWhile (· != ' ') = s.field.toList ∧ (line.dropWhile (· != ' ')).dropWhile (· == ' ') = rest := by
  intro line
  have hname : ∀ c ∈ s.field.toList, (c != ' ') = true := by
    intro c hc
    simpa using (ne_of_mem_name (.inl hc)).1
  have hblanks : ∀ c ∈ List.replicate (n + 1) ' ', (c == ' ') = true := by simp
  have hgap : ∀ c ∈ (List.replicate (n + 1) ' ' ++ rest).head?, (c != ' ') = false := by
    simp [List.replicate_succ]
  have hend : ∀ c ∈ rest.head?, (c == ' ') = false := by
    intro c hc
    simpa using hrest c hc
  obtain ⟨hfield, hafter⟩ := run_append hname hgap
  refine ⟨hfield, ?_⟩
  rw [hafter]
  exact (run_append hblanks hend).2

/-! ## Sources -/

namespace Resolution

theorem shownSource_environment {r : Resolution} (h : r.source = .environment) :
    r.shownSource = Row.bracket r.setting "env" ++ [']'] := by
  simp [shownSource, Row.bracket, h, Source.label]

theorem shownSource_fallback {r : Resolution} (h : r.source = .fallback) :
    r.shownSource = Row.bracket r.setting "default" ++ [']'] := by
  simp [shownSource, Row.bracket, h, Source.label]

theorem shownSource_rejected {r : Resolution} {raw : String} (h : r.source = .rejected raw) :
    r.shownSource = Row.rejection r.setting ++ (Quoted.quote raw.toList ++ [']']) := by
  simp [shownSource, Row.rejection, Row.bracket, h, Source.label]

/-- The labels tell the sources apart from the first letter or from the end of the first word. -/
theorem bracket_append_ne (s : Setting) (rest : List Char) :
    Row.bracket s "default" ++ rest ≠ Row.bracket s "env" ++ [']'] ∧
      Row.rejection s ++ rest ≠ Row.bracket s "env" ++ [']'] ∧
      Row.rejection s ++ rest ≠ Row.bracket s "default" ++ [']'] := by
  simp [Row.rejection, Row.bracket]

/-- The source is read back, with a rejected text. -/
theorem readSource_shownSource (r : Resolution) : Row.readSource r.setting r.shownSource = some r.source := by
  cases h : r.source with
  | environment => rw [shownSource_environment h, Row.readSource, if_pos rfl]
  | fallback => rw [shownSource_fallback h, Row.readSource, if_neg (bracket_append_ne _ _).1, if_pos rfl]
  | rejected raw =>
    obtain ⟨-, henv, hdefault⟩ := bracket_append_ne r.setting (Quoted.quote raw.toList ++ [']'])
    rw [shownSource_rejected h, Row.readSource, if_neg henv, if_neg hdefault, if_pos List.take_left,
      List.drop_left, Quoted.unquote_quote]
    simp

theorem newline_not_mem_shownSource (r : Resolution) : '\n' ∉ r.shownSource := by
  have hname : '\n' ∉ r.setting.variableName.toList := fun h => (Setting.ne_of_mem_name (.inr h)).2 rfl
  unfold shownSource
  cases r.source <;> simp [Source.label, hname, Quoted.newline_not_mem_quote]

variable {r : Resolution} (h : r.IsOfKind)
include h

/-- A line has no end before its end. -/
theorem newline_not_mem_lineText (width : Nat) (sources : Bool) : '\n' ∉ r.lineText width sources := by
  have hfield : '\n' ∉ r.setting.field.toList := fun h => (Setting.ne_of_mem_name (.inl h)).2 rfl
  have hvalue := newline_not_mem_shownValue h
  have hsource := r.newline_not_mem_shownSource
  cases sources <;> simp [lineText, hfield, hvalue, hsource]

/-- A line is read as its row, however wide its first column is. -/
theorem read?_lineText (width : Nat) (sources : Bool) :
    Row.read? (r.lineText width sources) = some (r.row sources) := by
  let tail := if sources then r.shownSource else []
  have htail : ∀ c ∈ tail.head?, Row.isDecimal c = false := by
    intro c hc
    cases sources with
    | false => simp [tail] at hc
    | true =>
      obtain rfl : ' ' = c := Option.some.inj hc
      rfl
  obtain ⟨c, cs, hc, hne⟩ := exists_shownValue h
  have hshown : ∀ c ∈ (r.shownValue ++ tail).head?, c ≠ ' ' := by simpa [hc] using hne
  obtain ⟨hfield, hafter⟩ := Setting.read_column r.setting (width - r.setting.field.length + 1) hshown
  have hline : r.lineText width sources = r.setting.field.toList
      ++ (List.replicate (width - r.setting.field.length + 1 + 1) ' ' ++ (r.shownValue ++ tail)) :=
    lineText_eq width sources r
  simp only [Row.read?, hline, hfield, hafter, Setting.ofField?_field, readValue_shownValue h htail, bind,
    Option.bind_some]
  cases sources with
  | false => simp [tail, row]
  | true =>
    have hne : r.shownSource ≠ [] := List.cons_ne_nil _ _
    simp [tail, row, hne, readSource_shownSource]

end Resolution

/-! ## Reports -/

/-- Lines are told apart by their ends. -/
theorem splitOn_lines {lines : List (List Char)} (h : ∀ l ∈ lines, '\n' ∉ l) :
    (lines.flatMap (· ++ ['\n'])).splitOn '\n' = lines ++ [[]] := by
  induction lines with
  | nil => rfl
  | cons l ls ih =>
    rw [List.flatMap_cons, List.append_assoc, List.cons_append, List.nil_append,
      List.splitOn_append_cons_self_of_not_mem (h l (by simp)), ih fun m hm => h m (by simp [hm])]
    rfl

/-- What is written for each item is read item by item. -/
theorem mapM_map_eq_some {α β γ : Type} {xs : List α} {write : α → β} {read? : β → Option γ} {result : α → γ}
    (h : ∀ x ∈ xs, read? (write x) = some (result x)) : (xs.map write).mapM read? = some (xs.map result) := by
  induction xs with
  | nil => rfl
  | cons x xs ih =>
    rw [List.map_cons, List.mapM_cons, h x (by simp), ih fun y hy => h y (by simp [hy])]
    rfl

theorem Resolution.mapM_read? {rs : List Resolution} (h : ∀ r ∈ rs, r.IsOfKind) (width : Nat) (sources : Bool) :
    (rs.map (lineText width sources)).mapM Row.read? = some (rs.map (row sources)) :=
  mapM_map_eq_some fun r hr => read?_lineText (h r hr) width sources

theorem Loader.isOfKind_of_mem (l : Loader) {r : Resolution} (h : r ∈ l.report.resolutions) : r.IsOfKind := by
  intro hkind
  obtain ⟨hvalue, -⟩ := l.mem_resolutions h
  have hsetting : r.setting = .maxTries := (Setting.kind_eq_integer_iff _).1 hkind
  refine ⟨l.report.record.maxTries.val, ?_⟩
  rw [hvalue, hsetting, Record.text, String.toList_ofList]

namespace Report

/-- The text of a report for people. -/
def linesText (r : Report) (sources : Bool) : List Char :=
  (r.resolutions.map (Resolution.lineText r.fieldWidth sources)).flatMap (· ++ ['\n'])

theorem bytes_lines (r : Report) (sources : Bool) : (r.lines sources).bytes = Utf8.encode (r.linesText sources) := by
  simp [Output.bytes, lines, linesText, Utf8.encode, Resolution.line_eq, List.flatMap_map, List.flatMap_assoc]

theorem fieldWidth_eq (r : Report) :
    r.fieldWidth = (r.resolutions.map fun s => s.setting.field.length).max?.getD 0 := by
  simp [fieldWidth, String.length_toList, List.foldl_max]

theorem splitOn_linesText {r : Report} (h : ∀ s ∈ r.resolutions, s.IsOfKind) (sources : Bool) :
    (r.linesText sources).splitOn '\n'
      = r.resolutions.map (Resolution.lineText r.fieldWidth sources) ++ [[]] := by
  refine splitOn_lines fun l hl => ?_
  obtain ⟨s, hs, rfl⟩ := List.mem_map.1 hl
  exact Resolution.newline_not_mem_lineText (h s hs) _ _

/-- The text is read back as the rows of the resolutions. -/
theorem readAll_linesText {r : Report} (h : ∀ s ∈ r.resolutions, s.IsOfKind) (sources : Bool) :
    Row.readAll (r.linesText sources) = some (r.resolutions.map (Resolution.row sources)) := by
  rw [Row.readAll, splitOn_linesText h, List.dropLast_concat, Resolution.mapM_read? h]

theorem deliver_lines (r : Report) (sources : Bool) :
    deliver (r.output .human sources) .endless = (none, ⟨Utf8.encode (r.linesText sources), none, ""⟩) := by
  simp [output, Format.output, Sink.endless, deliver_endless, bytes_lines]

end Report

/-- What a report is read as decides its resolutions. -/
theorem Resolution.row_injective {r s : Resolution} (h : r.row true = s.row true) : r = s := by
  obtain ⟨setting, value, source⟩ := r
  obtain ⟨setting', value', source'⟩ := s
  simpa [row] using h

/-- The form of a report for people is unambiguous. Of any choice from the resolutions of a load each has one line,
in order, as wide in its first column as the longest field. A reader gets every setting and its value back, and the
source and the rejected text where sources are shown, so with sources the same text means the same resolutions.
Without a choice the values are those of the record that JSON writes. -/
theorem Report.lines_unambiguous (l : Loader) (rs : List Resolution) (h : rs ⊆ l.report.resolutions) :
    let report : Report := { l.report with resolutions := rs }
    let width := (rs.map fun r => r.setting.field.length).max?.getD 0
    let shown (r : Report) (sources : Bool) := deliver (r.output .human sources) .endless
    (∀ sources, (shown report sources).1 = none ∧
      ∃ text, Utf8.strict? (shown report sources).2.taken = some text ∧
        text.toList.splitOn '\n' = rs.map (Resolution.lineText width sources) ++ [[]] ∧
        Row.readAll text.toList
          = some (rs.map fun r => ⟨r.setting, r.value, if sources then some r.source else none⟩)) ∧
    (∀ (l' : Loader) (rs' : List Resolution), rs' ⊆ l'.report.resolutions →
      (shown { l'.report with resolutions := rs' } true).2.taken = (shown report true).2.taken → rs' = rs) ∧
    ∀ sources, ∃ text rows json record,
      Utf8.strict? (shown l.report sources).2.taken = some text ∧ Row.readAll text.toList = some rows ∧
      Utf8.strict? (deliver (l.report.output .json false) .endless).2.taken = some json ∧
      Json.decodeRecord .configuration json = .ok record ∧
      rows.map (fun x => (x.setting, x.value)) = Setting.all.map fun s => (s, record.text s) := by
  intro report width shown
  have hshown (r : Report) (sources : Bool) :
      shown r sources = (none, ⟨Utf8.encode (r.linesText sources), none, ""⟩) := r.deliver_lines sources
  have hread (r : Report) (sources : Bool) :
      Utf8.strict? (shown r sources).2.taken = some (String.ofList (r.linesText sources)) := by
    rw [hshown]
    exact Utf8.strict?_encode _
  have hkind : ∀ s ∈ report.resolutions, s.IsOfKind := fun s hs => l.isOfKind_of_mem (h hs)
  refine ⟨fun sources => ⟨by rw [hshown], _, hread report sources, ?_, ?_⟩, ?_, ?_⟩
  · rw [String.toList_ofList, splitOn_linesText hkind, fieldWidth_eq]
  · rw [String.toList_ofList, readAll_linesText hkind]
    rfl
  · intro l' rs' h' htaken
    have hkind' : ∀ s ∈ rs', s.IsOfKind := fun s hs => l'.isOfKind_of_mem (h' hs)
    have hrows := congrArg (fun bytes => (Utf8.strict? bytes).bind fun text => Row.readAll text.toList) htaken
    simp only [hread, Option.bind_some, String.toList_ofList] at hrows
    rw [readAll_linesText hkind', readAll_linesText hkind] at hrows
    exact (List.map_inj_right fun _ _ => Resolution.row_injective).1 (Option.some.inj hrows)
  · intro sources
    have hjson : deliver (l.report.output .json false) .endless = _ := deliver_ofJson l.report.record.tree
    refine ⟨_, l.report.resolutions.map (Resolution.row sources), _, _, hread l.report sources, ?_, ?_,
      Json.decodeRecord_render .configuration l.report.record, ?_⟩
    · rw [String.toList_ofList, readAll_linesText fun s hs => l.isOfKind_of_mem hs]
    · rw [hjson]
      exact Utf8.strict?_encode _
    · rw [l.resolutions_eq, List.map_map, List.map_map]
      rfl

/-- Texts that look like the end of a line and its brackets are read back, here from lines out of order. -/
theorem Report.lines_unambiguous_lookalike :
    let l := Loader.reading (Environment.ofList [("PYTORCH_INIT_CONTAINER_IMAGE", "alpine\"  [env: X]\n"),
      ("PYTORCH_INIT_CONTAINER_MAX_TRIES", "7\"]\n")]).lookup
    let tries : Resolution := ⟨.maxTries, "100", .rejected "7\"]\n"⟩
    let image : Resolution := ⟨.initImage, "alpine\"  [env: X]\n", .environment⟩
    [tries, image, tries] ⊆ l.report.resolutions ∧
    ∃ text, Utf8.strict? (deliver
        (({ l.report with resolutions := [tries, image, tries] } : Report).output .human true) .endless).2.taken
          = some text ∧
      Row.readAll text.toList = some [⟨.maxTries, "100", some (.rejected "7\"]\n")⟩,
        ⟨.initImage, "alpine\"  [env: X]\n", some .environment⟩, ⟨.maxTries, "100", some (.rejected "7\"]\n")⟩] := by
  intro l tries image
  have h : [tries, image, tries] ⊆ l.report.resolutions := by
    have hall : ∀ r ∈ [tries, image, tries], r ∈ l.report.resolutions := by decide
    exact fun r hr => hall r hr
  obtain ⟨-, text, htext, -, hrows⟩ := (Report.lines_unambiguous l _ h).1 true
  exact ⟨h, text, htext, hrows⟩

end StartupConfig
