import StartupConfig.Proofs.Lines

/-!
# Control text does not reach the lines of a report

Texts from the environment and the defaults stand between quotation marks in the lines for people, where every
character that steers a display is escaped by its number or its letter. The rest of a line is names, labels and digits.
So besides the ends of the lines nothing in them steers a display.
-/
namespace StartupConfig

namespace Steering

/-- The characters that steer a display instead of being seen there: the control characters of both sets and the one
for deletion, the separators of lines and paragraphs, the marks of direction, the byte order mark. -/
def ranges : List (Nat × Nat) :=
  [(0x00, 0x1F), (0x7F, 0x7F), (0x80, 0x9F), (0x2028, 0x2029), (0x202A, 0x202E), (0x2066, 0x2069), (0xFEFF, 0xFEFF)]

/-- Membership in one of the ranges. -/
def contains (c : Char) : Bool := ranges.any fun r => r.1 ≤ c.toNat && c.toNat ≤ r.2

/-- Is no character of a text one that steers a display? -/
def isAbsent (text : List Char) : Bool := text.all fun c => !contains c

@[simp]
theorem isAbsent_append (s t : List Char) : isAbsent (s ++ t) = (isAbsent s && isAbsent t) := List.all_append

@[simp]
theorem isAbsent_cons (c : Char) (s : List Char) : isAbsent (c :: s) = (!contains c && isAbsent s) := List.all_cons

theorem isAbsent_iff {text : List Char} : isAbsent text ↔ ∀ c ∈ text, contains c = false := by simp [isAbsent]

theorem isAbsent_replicate (n : Nat) : isAbsent (List.replicate n ' ') := by
  rw [isAbsent_iff]
  intro c hc
  rw [List.eq_of_mem_replicate hc]
  decide

end Steering

open Steering

/-! ## Quoted texts -/

/-- The ranges of both kinds are apart from each other. -/
theorem Verbatim.not_steering {c : Char} (h : Verbatim.contains c) : Steering.contains c = false := by
  have hapart : (Verbatim.ranges.all fun r => Steering.ranges.all fun s => r.2 < s.1 || s.2 < r.1) = true := by
    decide +kernel
  rw [← Bool.not_eq_true]
  intro hsteers
  obtain ⟨r, hr, hc⟩ := List.any_eq_true.1 h
  obtain ⟨s, hs, hc'⟩ := List.any_eq_true.1 hsteers
  have hrs := List.all_eq_true.1 (List.all_eq_true.1 hapart r hr) s hs
  simp only [Bool.and_eq_true, Bool.or_eq_true, decide_eq_true_eq] at hc hc' hrs
  omega

namespace Quoted

theorem isAbsent_toDigits (n : Nat) : isAbsent (Nat.toDigits 16 n) := by
  rw [isAbsent_iff]
  intro c hc
  obtain ⟨d, hd, rfl⟩ := exists_of_mem_toDigits hc
  have hall : ∀ k < 16, Steering.contains (Nat.digitChar k) = false := by decide
  exact hall d hd

/-- An escape consists of a backslash, letters, digits and braces. -/
theorem isAbsent_escape (c : Char) : isAbsent (escape c) := by
  have hcode : isAbsent (['\\', 'u', '{'] ++ Nat.toDigits 16 c.toNat ++ ['}']) := by
    rw [isAbsent_append, isAbsent_append, isAbsent_toDigits]
    decide
  unfold escape
  split
  · next h =>
    rw [isAbsent_cons, Verbatim.not_steering h]
    rfl
  · repeat' split
    all_goals try decide
    exact hcode

/-- Nothing in a quoted text steers a display. -/
theorem isAbsent_quote (s : List Char) : isAbsent (quote s) := by
  have hbody : isAbsent (s.flatMap escape) := by
    rw [isAbsent_iff]
    intro c hc
    obtain ⟨d, -, hd⟩ := List.mem_flatMap.1 hc
    exact isAbsent_iff.1 (isAbsent_escape d) c hd
  rw [quote, isAbsent_append, isAbsent_cons, hbody]
  decide

end Quoted

/-! ## Lines -/

theorem Decimal.isAbsent_render (z : Int) : isAbsent (render z) := by
  rw [isAbsent_iff]
  intro c hc
  have hdecimal := isDecimal_of_mem_render hc
  rw [Row.isDecimal, Bool.or_eq_true, beq_iff_eq] at hdecimal
  rcases hdecimal with hdigit | rfl
  · simp only [Char.isDigit, Bool.and_eq_true, decide_eq_true_eq, UInt32.le_iff_toNat_le] at hdigit
    simp only [Steering.contains, Steering.ranges, Char.toNat]
    grind
  · decide

theorem Setting.isAbsent_names (s : Setting) : isAbsent s.field.toList ∧ isAbsent s.variableName.toList := by
  cases s <;> decide

namespace Resolution

theorem isAbsent_shownSource (r : Resolution) : isAbsent r.shownSource := by
  obtain ⟨-, hname⟩ := r.setting.isAbsent_names
  cases h : r.source with
  | environment =>
    rw [shownSource_environment h, Row.bracket]
    simp only [isAbsent_append, hname]
    decide
  | fallback =>
    rw [shownSource_fallback h, Row.bracket]
    simp only [isAbsent_append, hname]
    decide
  | rejected raw =>
    rw [shownSource_rejected h, Row.rejection, Row.bracket]
    simp only [isAbsent_append, hname, Quoted.isAbsent_quote]
    decide

variable {r : Resolution} (h : r.IsOfKind)
include h

theorem isAbsent_shownValue : isAbsent r.shownValue := by
  unfold shownValue
  cases hkind : r.setting.kind with
  | string => exact Quoted.isAbsent_quote _
  | integer =>
    obtain ⟨z, hz⟩ := h hkind
    rw [hz]
    exact Decimal.isAbsent_render z

/-- Nothing in a line steers a display before its end. -/
theorem isAbsent_lineText (width : Nat) (sources : Bool) : isAbsent (r.lineText width sources) := by
  have hvalue := isAbsent_shownValue h
  have hsource := r.isAbsent_shownSource
  have hfield := r.setting.isAbsent_names.1
  have hgap : isAbsent [' ', ' '] := by decide
  rw [lineText, isAbsent_append, isAbsent_append, isAbsent_append, isAbsent_append, hfield, isAbsent_replicate, hgap,
    hvalue]
  cases sources with
  | false => rfl
  | true => exact hsource

end Resolution

/-- Whatever the variables, the defaults and the rejected texts hold: the lines for any choice from the resolutions of a
load, with and without sources, hold no character that steers a display but the end of each line. -/
theorem Report.lines_hold_no_control (l : Loader) (rs : List Resolution) (h : rs ⊆ l.report.resolutions)
    (sources : Bool) :
    let shown := deliver (({ l.report with resolutions := rs } : Report).output .human sources) .endless
    shown.1 = none ∧ ∃ lines : List (List Char), lines.length = rs.length ∧
      shown.2.taken = Utf8.encode (lines.flatMap (· ++ ['\n'])) ∧
      ∀ line ∈ lines, ∀ c ∈ line, Steering.contains c = false := by
  intro shown
  let report : Report := { l.report with resolutions := rs }
  have hshown : shown = (none, ⟨Utf8.encode (report.linesText sources), none, ""⟩) := report.deliver_lines sources
  refine ⟨by rw [hshown], rs.map (Resolution.lineText report.fieldWidth sources), List.length_map _, ?_, ?_⟩
  · rw [hshown]
    rfl
  · intro line hline
    obtain ⟨r, hr, rfl⟩ := List.mem_map.1 hline
    exact isAbsent_iff.1 (Resolution.isAbsent_lineText (l.isOfKind_of_mem (h hr)) _ _)

/-- Control text in a value and in a rejected text does not come through. -/
theorem Report.lines_hold_no_control_hostile :
    let l := Loader.reading (Environment.ofList [("PYTORCH_INIT_CONTAINER_IMAGE", "\x1b[2J\u202enip\r\n"),
      ("PYTORCH_INIT_CONTAINER_MAX_TRIES", "7\u2028\ufeff\x85")]).lookup
    let tries : Resolution := ⟨.maxTries, "100", .rejected "7\u2028\ufeff\x85"⟩
    let image : Resolution := ⟨.initImage, "\x1b[2J\u202enip\r\n", .environment⟩
    [tries, image] ⊆ l.report.resolutions ∧
    ∃ lines : List (List Char), lines.length = 2 ∧
      (deliver (({ l.report with resolutions := [tries, image] } : Report).output .human true) .endless).2.taken
        = Utf8.encode (lines.flatMap (· ++ ['\n'])) ∧
      ∀ line ∈ lines, ∀ c ∈ line, Steering.contains c = false := by
  intro l tries image
  have h : [tries, image] ⊆ l.report.resolutions := by
    have hall : ∀ r ∈ [tries, image], r ∈ l.report.resolutions := by decide
    exact fun r hr => hall r hr
  obtain ⟨-, lines, hlines⟩ := Report.lines_hold_no_control l _ h true
  exact ⟨h, lines, hlines⟩

end StartupConfig
