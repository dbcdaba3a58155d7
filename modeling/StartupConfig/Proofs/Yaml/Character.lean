import StartupConfig.Yaml.Scalar
import StartupConfig.Yaml.Layout

/-!
# Characters and lines of written documents

What is written holds printable characters only. A document of printable characters is taken whole and as it
is. A `Line` is where a reader comes to when it goes to the next line: the column of the first sign or word
and the text from there on.
-/
namespace StartupConfig.Yaml

/-- A character of a kind is none of the characters that are not. -/
theorem ne_of_kind {kind : Char → Bool} {c d : Char} (h : kind c) (hd : kind d = false) : c ≠ d := by
  rintro rfl
  simp [hd] at h

/-- What holds of the last character holds of it without the first one. -/
theorem getLast?_tail {p : Char → Prop} {c : Char} {cs : List Char} (h : ∀ d ∈ (c :: cs).getLast?, p d) :
    ∀ d ∈ cs.getLast?, p d := by
  cases cs with
  | nil => simp
  | cons e es => exact fun d hd => h d (by simpa using hd)

theorem isAllowed_of_isPrintable {c : Char} (h : isPrintable c) : isAllowed c := by
  simp only [isPrintable, isAllowed, Bool.or_eq_true, Bool.and_eq_true, beq_iff_eq,
    decide_eq_true_eq] at h ⊢
  omega

/-- The only printable blank is the space. -/
theorem eq_space_of_isBlank {c : Char} (h : isPrintable c) (hb : isBlank c) : c = ' ' := by
  simp only [isBlank, Bool.or_eq_true, beq_iff_eq] at hb
  exact hb.resolve_right (ne_of_kind h (by decide))

theorem unreadable_eq_none {cs : List Char} (h : ∀ c ∈ cs, isAllowed c) (piece : List Char) (room : Nat) :
    unreadable piece room cs = none := by
  induction cs generalizing piece room with
  | nil => rfl
  | cons c cs ih =>
    simp only [unreadable, h c (by simp), if_true]
    exact ih (fun d hd => h d (by simp [hd])) _ _

theorem unifyBreaks_eq_self {cs : List Char} (h : ∀ c ∈ cs, isPrintable c) : unifyBreaks cs = cs := by
  induction cs with
  | nil => rfl
  | cons c cs ih =>
    have hr : c ≠ '\r' := ne_of_kind (h c (by simp)) (by decide)
    have hn : c ≠ '\x85' := ne_of_kind (h c (by simp)) (by decide)
    rw [unifyBreaks, ih fun d hd => h d (by simp [hd])]
    · simp [hr, hn]
    · simp [hr]

/-! ## Words -/

/-- A character of one byte that means nothing but itself, except perhaps as a dash. -/
def isOrdinary (c : Char) : Bool :=
  isPrintable c && !isBlank c && !isBreak c && !Scalar.opening.contains c && c != ':' && c != '?' && c != '.'
    && c.utf8Size == 1

theorem toNat_lt_of_isWord {c : Char} (h : isWord c) : c.toNat < 128 := by
  delta isWord Char.isAlphanum Char.isAlpha Char.isUpper Char.isLower Char.isDigit at h
  simp only [Bool.or_eq_true, Bool.and_eq_true, decide_eq_true_eq, beq_iff_eq, UInt32.le_iff_toNat_le, ge_iff_le] at h
  change c.val.toNat < 128
  rcases h with ((((⟨h, h'⟩ | ⟨h, h'⟩) | ⟨h, h'⟩) | rfl) | rfl)
  all_goals first | exact Nat.lt_of_le_of_lt h' (by decide) | decide

theorem isOrdinary_of_isWord {c : Char} (h : isWord c) : isOrdinary c := by
  have hbelow : ∀ n < 128, isWord (Char.ofNat n) → isOrdinary (Char.ofNat n) := by decide
  simpa using hbelow c.toNat (toNat_lt_of_isWord h) (by simpa using h)

/-! ## Marks -/

namespace Mark

theorem after_of_not_isBreak {m : Mark} {c : Char} (h : isBreak c = false) :
    m.after c = ⟨m.line, m.column + 1, m.offset + c.utf8Size⟩ := by
  simp [after, h]

@[simp] theorem passing_nil (m : Mark) : m.passing [] = m := rfl

@[simp] theorem passing_cons (m : Mark) (c : Char) (cs : List Char) :
    m.passing (c :: cs) = (m.after c).passing cs := rfl

/-- Without a line break the line stays and the bytes add up. -/
theorem passing_of_not_isBreak {cs : List Char} (h : ∀ c ∈ cs, isBreak c = false) (m : Mark) :
    m.passing cs = ⟨m.line, m.column + cs.length, m.offset + Utf8.size cs⟩ := by
  induction cs generalizing m with
  | nil => rfl
  | cons c cs ih =>
    rw [passing_cons, ih fun d hd => h d (by simp [hd]), after_of_not_isBreak (h c (by simp))]
    simp only [List.length_cons, Utf8.size, Nat.add_assoc, Nat.add_comm 1]

end Mark

/-- A reader that goes over spaces up to a column goes over a margin up to there. -/
theorem over_margin {α : Type} {f : Mark → List Char → α} {width : Nat}
    (hspace : ∀ (m : Mark) (rest : List Char), m.column < width → f m (' ' :: rest) = f m.next rest)
    {m : Mark} {n : Nat} (h : m.column + n ≤ width) (rest : List Char) :
    f m (Scalar.margin n ++ rest) = f ⟨m.line, m.column + n, m.offset + n⟩ rest := by
  induction n generalizing m with
  | zero => rfl
  | succ n ih =>
    rw [Scalar.margin, List.replicate_succ, List.cons_append, hspace m _ (by omega)]
    have hnext := ih (m := m.next) (by simp only [Mark.next]; omega)
    rw [Scalar.margin] at hnext
    rw [hnext]
    simp only [Mark.next, Nat.add_assoc, Nat.add_comm 1]

/-! ## Lines -/

/-- Can a token begin with a character where blanks, comments and ends of lines are passed over? -/
def isSolid (c : Char) : Bool := !isBlank c && !isBreak c && c != '#' && c != byteOrderMark

theorem isSolid_of_isWord {c : Char} (h : isWord c) : isSolid c := by
  have ho := isOrdinary_of_isWord h
  have hbom : c ≠ byteOrderMark := ne_of_kind ho (by decide)
  have hcomment : c ≠ '#' := ne_of_kind ho (by decide)
  simp_all [isSolid, isOrdinary]

/-- A line: a margin and the text behind it, which goes on over later lines. At the end of a document there is
no margin. -/
structure Line where
  column : Nat
  rest : List Char
  solid : ∀ c ∈ rest.head?, isSolid c
  column_eq_zero : rest = [] → column = 0

namespace Line

/-- The text of a line from its beginning on. -/
def text (l : Line) : List Char := Scalar.margin l.column ++ l.rest

/-- The end of a document. -/
def finish : Line := ⟨0, [], by simp, fun _ => rfl⟩

theorem length_rest_le (l : Line) : l.rest.length ≤ l.text.length := by
  simp [text]

end Line

/-- Before a token nothing is passed over. -/
theorem passSpace_of_isSolid {c : Char} (h : isSolid c) (inFlow keyAllowed : Bool) (m : Mark)
    (cs : List Char) :
    Layout.passSpace inFlow false keyAllowed m (c :: cs) = (keyAllowed, ⟨m, c :: cs⟩) := by
  simp only [isSolid, isBlank, Bool.and_eq_true, Bool.not_eq_true', Bool.or_eq_false_iff, beq_eq_false_iff_ne,
    bne_iff_ne] at h
  obtain ⟨⟨⟨⟨hspace, htab⟩, hbreak⟩, hcomment⟩, hmark⟩ := h
  simp [Layout.passSpace, hspace, htab, hbreak, hcomment, hmark]

/-- Spaces are passed over. -/
theorem passSpace_margin (keyAllowed : Bool) (m : Mark) (n : Nat) (rest : List Char) :
    Layout.passSpace false false keyAllowed m (Scalar.margin n ++ rest)
      = Layout.passSpace false false keyAllowed ⟨m.line, m.column + n, m.offset + n⟩ rest := by
  refine over_margin (f := Layout.passSpace false false keyAllowed) (fun m rest _ => ?_) (Nat.le_refl _) rest
  have hspace : m.after ' ' = m.next := Mark.after_of_not_isBreak (by decide)
  simp [Layout.passSpace, isBreak, hspace]

namespace Line

/-- At the first sign or word of a line there is nothing to pass over. -/
theorem passSpace_rest (l : Line) (m : Mark) :
    Layout.passSpace false false true m l.rest = (true, ⟨m, l.rest⟩) := by
  cases hr : l.rest with
  | nil => rfl
  | cons c cs => exact passSpace_of_isSolid (l.solid c (by simp [hr])) false true m cs

end Line

/-- A reader goes to a line, where keys are allowed. -/
def Cursor.ComesTo (c : Cursor) (keyAllowed : Bool) (l : Line) : Prop :=
  ∃ m : Mark, m.column = l.column ∧
    Layout.passSpace false false keyAllowed c.mark c.rest = (true, ⟨m, l.rest⟩)

namespace Line

/-- The reader is on the line, behind its margin. -/
theorem comesTo_rest (l : Line) {m : Mark} (h : m.column = l.column) :
    Cursor.ComesTo ⟨m, l.rest⟩ true l :=
  ⟨m, h, l.passSpace_rest m⟩

/-- The reader is at the end of the line before. -/
theorem comesTo_newline (l : Line) (m : Mark) (keyAllowed : Bool) :
    Cursor.ComesTo ⟨m, '\n' :: l.text⟩ keyAllowed l := by
  refine ⟨⟨m.line + 1, l.column, l.column⟩, rfl, ?_⟩
  have hbreak : Layout.passSpace false false keyAllowed m ('\n' :: l.text)
      = Layout.passSpace false false true m.newLine l.text := by
    simp [Layout.passSpace, isBreak]
  rw [hbreak, text, passSpace_margin, passSpace_rest]
  simp [Mark.newLine]

end Line

end StartupConfig.Yaml
