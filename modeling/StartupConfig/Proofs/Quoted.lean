import StartupConfig.Integer
import StartupConfig.Text.Quoted

/-!
# Reading quoted texts back

A reader goes over a quoted text once, undoing the escapes, up to the quotation mark that ends it. Every text is
read back from its quoted form whatever follows, so the end of a quoted text is found whatever the text holds.
-/
namespace StartupConfig.Quoted

/-- Where a reader stands: between characters, behind a backslash, behind the letter of a numbered escape, or among
the digits of one. -/
inductive Place
  | text
  | escape
  | brace
  | code (n : Nat)

/-- The characters that letters behind a backslash stand for. -/
def shortEscapes : List (Char × Char) :=
  [('0', '\x00'), ('t', '\t'), ('n', '\n'), ('r', '\r'), ('"', '"'), ('\\', '\\')]

/-- Puts a character in front of a text that was read. -/
def push (c : Char) (r : Option (List Char × List Char)) : Option (List Char × List Char) :=
  r.map fun p => (c :: p.1, p.2)

/-- Reads up to the closing quotation mark; what follows it is handed on. -/
def read : Place → List Char → Option (List Char × List Char)
  | _, [] => none
  | .text, c :: cs =>
    if c = '"' then some ([], cs) else if c = '\\' then read .escape cs else push c (read .text cs)
  | .escape, c :: cs =>
    if c = 'u' then read .brace cs
    else
      match shortEscapes.lookup c with
      | some x => push x (read .text cs)
      | none => none
  | .brace, c :: cs => if c = '{' then read (.code 0) cs else none
  | .code n, c :: cs =>
    if c = '}' then push (Char.ofNat n) (read .text cs)
    else
      match Digits.value? 16 c with
      | some d => read (.code (16 * n + d)) cs
      | none => none

/-- Reads a quoted text. -/
def unquote : List Char → Option (List Char × List Char)
  | '"' :: cs => read .text cs
  | _ => none

/-! ## Characters -/

/-- Characters that are shown as themselves neither end a text nor begin an escape. -/
theorem ne_of_contains {c : Char} (h : Verbatim.contains c) : c ≠ '"' ∧ c ≠ '\\' ∧ c ≠ '\n' := by
  refine ⟨?_, ?_, ?_⟩ <;> rintro rfl <;> exact absurd h (by decide +kernel)

theorem read_short {letter x : Char} (h : shortEscapes.lookup letter = some x) (hu : letter ≠ 'u')
    (rest : List Char) : read .text ('\\' :: letter :: rest) = push x (read .text rest) := by
  simp [read, hu, h]

theorem read_digit {d : Nat} (h : d < 16) (n : Nat) (rest : List Char) :
    read (.code n) (Nat.digitChar d :: rest) = read (.code (16 * n + d)) rest := by
  have hall : ∀ k < 16, Nat.digitChar k ≠ '}' ∧ Digits.value? 16 (Nat.digitChar k) = some k := by decide
  obtain ⟨hbrace, hvalue⟩ := hall d h
  simp [read, hbrace, hvalue]

/-- The digits of a number are read as the number. -/
theorem read_toDigits (n : Nat) (rest : List Char) :
    read (.code 0) (Nat.toDigits 16 n ++ rest) = read (.code n) rest := by
  induction n using Nat.strongRecOn generalizing rest with
  | ind n ih =>
    rw [Nat.toDigits_eq_if (by decide)]
    by_cases hn : n < 16
    · rw [if_pos hn, List.cons_append, read_digit hn]
      simp
    · rw [if_neg hn, List.append_assoc, ih (n / 16) (by omega), List.cons_append, List.nil_append,
        read_digit (Nat.mod_lt _ (by decide)), Nat.div_add_mod]

/-- An escaped character is read as the character. -/
theorem read_escape (c : Char) (rest : List Char) : read .text (escape c ++ rest) = push c (read .text rest) := by
  unfold escape
  split
  · next h =>
    obtain ⟨hquote, hbackslash, -⟩ := ne_of_contains h
    simp [read, hquote, hbackslash]
  split
  · subst_vars; exact read_short rfl (by decide) rest
  split
  · subst_vars; exact read_short rfl (by decide) rest
  split
  · subst_vars; exact read_short rfl (by decide) rest
  split
  · subst_vars; exact read_short rfl (by decide) rest
  split
  · subst_vars; exact read_short rfl (by decide) rest
  split
  · subst_vars; exact read_short rfl (by decide) rest
  · have hcode : read (.code c.toNat) ('}' :: rest) = push c (read .text rest) := by
      simp [read, Char.ofNat_toNat]
    rw [← hcode, ← read_toDigits]
    simp [read]

/-- A quoted text is read back, whatever follows. -/
theorem unquote_quote (s rest : List Char) : unquote (quote s ++ rest) = some (s, rest) := by
  have hread : read .text (s.flatMap escape ++ '"' :: rest) = some (s, rest) := by
    induction s with
    | nil => simp [read]
    | cons c s ih => rw [List.flatMap_cons, List.append_assoc, read_escape, ih, push, Option.map_some]
  simpa [quote, unquote] using hread

/-! ## Lines -/

theorem exists_of_mem_toDigits {n : Nat} {c : Char} (h : c ∈ Nat.toDigits 16 n) : ∃ d < 16, c = Nat.digitChar d := by
  induction n using Nat.strongRecOn with
  | ind n ih =>
    rw [Nat.toDigits_eq_if (by decide)] at h
    by_cases hn : n < 16
    · exact ⟨n, hn, by simpa [hn] using h⟩
    · rw [if_neg hn] at h
      rcases List.mem_append.1 h with h | h
      · exact ih (n / 16) (by omega) h
      · exact ⟨n % 16, Nat.mod_lt _ (by decide), by simpa using h⟩

theorem newline_not_mem_escape (c : Char) : '\n' ∉ escape c := by
  have hdigits : '\n' ∉ Nat.toDigits 16 c.toNat := by
    intro h
    obtain ⟨d, hd, he⟩ := exists_of_mem_toDigits h
    have hall : ∀ k < 16, '\n' ≠ Nat.digitChar k := by decide
    exact hall d hd he
  unfold escape
  split
  · next h => simpa using (ne_of_contains h).2.2.symm
  · repeat' split
    all_goals simp [hdigits]

/-- A quoted text stays on its line. -/
theorem newline_not_mem_quote (s : List Char) : '\n' ∉ quote s := by
  simp [quote, newline_not_mem_escape]

end StartupConfig.Quoted
