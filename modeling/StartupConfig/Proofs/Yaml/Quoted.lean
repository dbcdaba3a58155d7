import StartupConfig.Proofs.Yaml.Character

/-!
# Reading quoted scalars back

Both kinds of quoted scalars are read along the text that was written, with the blanks and ends of lines read
last in the gap. Between single quotation marks ends of lines are kept because none of them is a newline, and
the margin behind them is dropped. Between double ones every end of a line is escaped.
-/
namespace StartupConfig.Yaml

/-! ## Hexadecimal digits -/

namespace Scalar

/-- The number that hexadecimal digits denote, behind a number read before. -/
def hexValue (value : Nat) (ds : List Char) : Nat :=
  ds.foldl (fun v d => v * 16 + (Digits.value? 16 d).getD 0) value

theorem hexValue_append (value : Nat) (ds es : List Char) :
    hexValue value (ds ++ es) = hexValue (hexValue value ds) es := by
  simp [hexValue]

theorem value?_digitChar {n : Nat} (h : n < 16) : Digits.value? 16 (Nat.digitChar n).toUpper = some n := by
  have hall : ∀ k < 16, Digits.value? 16 (Nat.digitChar k).toUpper = some k := by decide
  exact hall n h

/-- Upper-case digits of a number denote it. -/
theorem hexValue_toDigits (n : Nat) :
    hexValue 0 ((Nat.toDigits 16 n).map Char.toUpper) = n ∧
      ∀ d ∈ (Nat.toDigits 16 n).map Char.toUpper, (Digits.value? 16 d).isSome := by
  induction n using Nat.strongRecOn with
  | ind n ih =>
    rw [Nat.toDigits_eq_if (by decide)]
    by_cases hn : n < 16
    · simp [hn, hexValue, value?_digitChar]
    · obtain ⟨hvalue, hdigits⟩ := ih (n / 16) (by omega)
      have hlast : n % 16 < 16 := by omega
      rw [if_neg hn, List.map_append, hexValue_append, hvalue]
      constructor
      · simp only [hexValue, List.map_cons, List.map_nil, List.foldl_cons, List.foldl_nil,
          value?_digitChar hlast, Option.getD_some]
        omega
      · intro d hd
        rcases List.mem_append.1 hd with hd | hd
        · exact hdigits d hd
        · obtain rfl : d = (Nat.digitChar (n % 16)).toUpper := by simpa using hd
          simp [value?_digitChar hlast]

theorem hexValue_zeros (k : Nat) : hexValue 0 (List.replicate k '0') = 0 := by
  induction k with
  | zero => rfl
  | succ k ih =>
    have hzero : (Digits.value? 16 '0').getD 0 = 0 := rfl
    simpa [List.replicate_succ, hexValue, hzero] using ih

theorem hexValue_hex (count n : Nat) : hexValue 0 (hex count n) = n := by
  rw [hex, hexValue_append, hexValue_zeros, (hexValue_toDigits n).1]

theorem isSome_of_mem_hex {count n : Nat} {d : Char} (h : d ∈ hex count n) : (Digits.value? 16 d).isSome := by
  rcases List.mem_append.1 h with h | h
  · rw [List.eq_of_mem_replicate h]
    rfl
  · exact (hexValue_toDigits n).2 d h

theorem length_hex {count n : Nat} (h : (Nat.toDigits 16 n).length ≤ count) : (hex count n).length = count := by
  simp only [hex, List.length_append, List.length_replicate, List.length_map]
  omega

end Scalar

namespace QuotedScalar

theorem put_nil (r : Except Stop (List Char × Cursor)) : put [] r = r := by
  cases r <;> rfl

theorem put_put (a b : List Char) (r : Except Stop (List Char × Cursor)) :
    put a (put b r) = put (a ++ b) r := by
  cases r <;> simp [put]

theorem put_ok (a b : List Char) (c : Cursor) : put a (.ok (b, c)) = .ok (a ++ b, c) := rfl

theorem character?_toNat (c : Char) : character? c.toNat = some c := by
  have hvalid : c.toNat.isValidChar := c.valid
  rw [character?, dif_pos hvalid]
  exact congrArg some (Char.toNat_inj.1 rfl)

/-! ## Double quotation marks -/

/-- The digits of an escape are read to the character that they denote. -/
theorem read_digits {ds : List Char} {left value : Nat} {x : Char} (hne : ds ≠ []) (hleft : ds.length = left)
    (hdigits : ∀ d ∈ ds, (Digits.value? 16 d).isSome) (hx : character? (Scalar.hexValue value ds) = some x)
    (start at₀ m : Mark) (rest : List Char) :
    read true start m (.code left value at₀) (ds ++ rest)
      = put [x] (read true start ⟨m.line, m.column + left, m.offset + left⟩ (.gap .none) rest) := by
  induction ds generalizing left value m with
  | nil => exact absurd rfl hne
  | cons d ds ih =>
    obtain ⟨k, hk⟩ := Option.isSome_iff_exists.1 (hdigits d (by simp))
    have hstep : Scalar.hexValue value (d :: ds) = Scalar.hexValue (value * 16 + k) ds := by
      simp [Scalar.hexValue, hk]
    rw [hstep] at hx
    simp only [List.length_cons] at hleft
    by_cases hds : ds = []
    · subst hds
      simp only [List.length_nil, Nat.zero_add] at hleft
      simp only [Scalar.hexValue, List.foldl_nil] at hx
      simp [read, hk, ← hleft, hx, Mark.next]
    · have hpos : 0 < ds.length := List.length_pos_iff.2 hds
      have hmore : ¬left ≤ 1 := by omega
      rw [List.cons_append, read, hk]
      simp only [hmore, if_false]
      rw [ih hds (by omega) (fun e he => hdigits e (by simp [he])) hx]
      have hone (n : Nat) : n + 1 + (left - 1) = n + left := by omega
      simp only [Mark.next, hone]

/-- Blanks wait in the gap. -/
theorem read_space (isDouble : Bool) (start m : Mark) (g : Gap) (rest : List Char) :
    read isDouble start m (.gap g) (' ' :: rest) = read isDouble start m.next (.gap (g.addBlank ' ')) rest := by
  simp [read, isBlank]

/-- Behind the beginning of a line no character begins a document. -/
theorem read_character {isDouble : Bool} {c : Char} (hblank : isBlank c = false) (hbreak : isBreak c = false)
    (hquote : if isDouble then c ≠ '"' ∧ c ≠ '\\' else c ≠ '\'') {m : Mark} (hm : m.column ≠ 0) (start : Mark)
    (g : Gap) (rest : List Char) :
    read isDouble start m (.gap g) (c :: rest)
      = put (g.text ++ [c]) (read isDouble start (m.after c) (.gap .none) rest) := by
  have hsign : Cursor.isDocumentSign ⟨m, c :: rest⟩ = false := by
    simp [Cursor.isDocumentSign, Cursor.isSign, hm]
  cases isDouble <;> simp_all [read]

theorem read_backslash (start m : Mark) (g : Gap) (rest : List Char) :
    read true start m (.gap g) ('\\' :: rest) = put g.text (read true start m.next (.escape m) rest) := by
  simp [read, isBlank, isBreak, Cursor.isDocumentSign, Cursor.isSign]

/-- A letter of `shortEscapes` is read to its character. -/
theorem read_short {c letter : Char} (h : (c, letter) ∈ Scalar.shortEscapes) (start at₀ m : Mark)
    (rest : List Char) :
    read true start m (.escape at₀) (letter :: rest) = put [c] (read true start m.next (.gap .none) rest) := by
  have hshort : ∀ p ∈ Scalar.shortEscapes,
      isBreak p.2 = false ∧ codeLength? p.2 = none ∧ unescape? p.2 = some p.1 := by decide
  obtain ⟨hbreak, hlength, hletter⟩ := hshort (c, letter) h
  simp [read, hbreak, hlength, hletter]

/-- A letter that announces digits is read with them to the character that they denote. -/
theorem read_code {c letter : Char} {count : Nat} (hletter : isBreak letter = false)
    (hlength : codeLength? letter = some count) (hcount : 0 < count)
    (h : (Nat.toDigits 16 c.toNat).length ≤ count) (start at₀ m : Mark) (rest : List Char) :
    ∃ m' : Mark, m'.column ≠ 0 ∧
      read true start m (.escape at₀) (letter :: (Scalar.hex count c.toNat ++ rest))
        = put [c] (read true start m' (.gap .none) rest) := by
  have hcode := Scalar.length_hex h
  have hread : read true start m (.escape at₀) (letter :: (Scalar.hex count c.toNat ++ rest))
      = read true start m.next (.code count 0 m.next) (Scalar.hex count c.toNat ++ rest) := by
    simp [read, hletter, hlength]
  refine ⟨⟨m.line, m.column + 1 + count, m.offset + 1 + count⟩, by simp, ?_⟩
  rw [hread, read_digits (List.length_pos_iff.1 (by omega)) hcode (fun d hd => Scalar.isSome_of_mem_hex hd)
    (by rw [Scalar.hexValue_hex, character?_toNat])]
  rfl

/-- An escape is read to the character that it stands for. -/
theorem read_escape {c : Char} (hc : (isPrintable c && !isBreak c && c != '"' && c != '\\') = false)
    (start m : Mark) (g : Gap) (rest : List Char) :
    ∃ m' : Mark, m'.column ≠ 0 ∧ read true start m (.gap g) (Scalar.escape c ++ rest)
      = put (g.text ++ [c]) (read true start m' (.gap .none) rest) := by
  have hcode {letter : Char} {count : Nat} (hletter : isBreak letter = false)
      (hlength : codeLength? letter = some count) (hcount : 0 < count)
      (h : (Nat.toDigits 16 c.toNat).length ≤ count) :
      ∃ m' : Mark, m'.column ≠ 0 ∧
        read true start m (.gap g) ('\\' :: letter :: (Scalar.hex count c.toNat ++ rest))
          = put (g.text ++ [c]) (read true start m' (.gap .none) rest) := by
    obtain ⟨m', hm', hread⟩ := read_code hletter hlength hcount h start m m.next rest
    exact ⟨m', hm', by rw [read_backslash, hread, put_put]⟩
  rw [Scalar.escape, if_neg (by simp [hc])]
  split
  · next letter hlookup =>
    obtain ⟨_, _, hmem, -⟩ := List.lookup_eq_some_iff.1 hlookup
    have hshort : (c, letter) ∈ Scalar.shortEscapes := by simp [hmem]
    refine ⟨m.next.next, by simp [Mark.next], ?_⟩
    rw [List.cons_append, List.cons_append, List.nil_append, read_backslash, read_short hshort, put_put]
  · split
    · exact hcode rfl rfl (by decide) ((Nat.length_toDigits_le_iff (by decide) (by decide)).2 (by omega))
    · split
      · exact hcode rfl rfl (by decide) ((Nat.length_toDigits_le_iff (by decide) (by decide)).2 (by omega))
      · exact hcode rfl rfl (by decide) ((Nat.length_toDigits_le_iff (by decide) (by decide)).2 c.val.toNat_lt)

/-- A text between double quotation marks is read back. -/
theorem read_double (s : List Char) {m : Mark} (hm : m.column ≠ 0) {g : Gap} (hlines : g.isLines = false)
    (start : Mark) (rest : List Char) :
    ∃ m' : Mark, read true start m (.gap g) (s.flatMap Scalar.escape ++ '"' :: rest)
      = .ok (g.text ++ s, ⟨m', rest⟩) := by
  induction s generalizing m g with
  | nil =>
    refine ⟨m.next, ?_⟩
    simp [read, isBlank, isBreak, Cursor.isDocumentSign, Cursor.isSign]
  | cons c cs ih =>
    rw [List.flatMap_cons, List.append_assoc]
    by_cases hc : isPrintable c && !isBreak c && c != '"' && c != '\\'
    · have hescape : Scalar.escape c = [c] := by rw [Scalar.escape, if_pos hc]
      simp only [Bool.and_eq_true, Bool.not_eq_true', bne_iff_ne] at hc
      obtain ⟨⟨⟨hprintable, hbreak⟩, hquote⟩, hbackslash⟩ := hc
      rw [hescape, List.singleton_append]
      by_cases hblank : isBlank c
      · obtain rfl := eq_space_of_isBlank hprintable hblank
        have hgap : (g.addBlank ' ').text = g.text ++ [' '] ∧ (g.addBlank ' ').isLines = false := by
          cases g <;> simp_all [Gap.isLines, Gap.addBlank, Gap.text]
        obtain ⟨m', h⟩ := ih (m := m.next) (by simp [Mark.next]) hgap.2
        exact ⟨m', by rw [read_space, h, hgap.1, List.append_assoc, List.singleton_append]⟩
      · have hblank' : isBlank c = false := by simpa using hblank
        obtain ⟨m', h⟩ := ih (m := m.after c) (by simp [Mark.after_of_not_isBreak hbreak]) (g := .none) rfl
        refine ⟨m', ?_⟩
        rw [read_character hblank' hbreak (by simp [hquote, hbackslash]) hm, h, put_ok]
        simp [Gap.text]
    · obtain ⟨m₁, hm₁, hread⟩ := read_escape (by simpa using hc) start m g
        (cs.flatMap Scalar.escape ++ '"' :: rest)
      obtain ⟨m', h⟩ := ih hm₁ (g := .none) rfl
      refine ⟨m', ?_⟩
      rw [hread, h, put_ok]
      simp [Gap.text]

/-! ## Single quotation marks -/

/-- The margin of a line is dropped. -/
theorem read_margin (start m : Mark) (first more : List Char) (n : Nat) (rest : List Char) :
    read false start m (.gap (.lines first more)) (Scalar.margin n ++ rest)
      = read false start ⟨m.line, m.column + n, m.offset + n⟩ (.gap (.lines first more)) rest :=
  over_margin (f := fun m => read false start m (.gap (.lines first more)))
    (fun m rest _ => read_space false start m (.lines first more) rest) (Nat.le_refl _) rest

/-- What a gap holds when a text goes on behind it: no blanks beside an end of a line, and no newline as the
first end of a line, which would be folded away. -/
def Fits (s : List Char) (atLineStart : Bool) : Gap → Prop
  | .none => atLineStart = false
  | .blanks _ => atLineStart = false ∧ ∀ c ∈ s.head?, isBreak c = false
  | .lines first _ => atLineStart = true ∧ first ≠ ['\n'] ∧ ∀ c ∈ s.head?, Scalar.isSpace c = false

/-- The margin that begins a line leaves the reader behind the same gap. -/
theorem exists_read_lineStart {s : List Char} {atLineStart : Bool} {g : Gap} (hg : Fits s atLineStart g)
    {indent : Nat} (hindent : 0 < indent) {m : Mark} (hm : m.column = 0 → atLineStart) (start : Mark)
    (rest : List Char) :
    ∃ m' : Mark, m'.column ≠ 0 ∧
      read false start m (.gap g) ((if atLineStart then Scalar.margin indent else []) ++ rest)
        = read false start m' (.gap g) rest := by
  cases atLineStart with
  | false => exact ⟨m, fun h => by simpa using hm h, rfl⟩
  | true =>
    cases g with
    | none => simp [Fits] at hg
    | blanks text => simp [Fits] at hg
    | lines first more =>
      refine ⟨⟨m.line, m.column + indent, m.offset + indent⟩, ?_, read_margin start m first more indent rest⟩
      simp only
      omega

end QuotedScalar

namespace Scalar

/-- A text that can stand between single quotation marks. -/
structure IsSingle (s : List Char) : Prop where
  printable : ∀ c ∈ s, isPrintable c
  not_newline : '\n' ∉ s
  spaceBreak : hasPair isSpace isBreak s = false
  breakSpace : hasPair isBreak isSpace s = false

theorem head_of_hasPair {p q : Char → Bool} {c : Char} {cs : List Char} (h : hasPair p q (c :: cs) = false)
    (hc : p c) : ∀ d ∈ cs.head?, q d = false := by
  cases cs with
  | nil => simp
  | cons d ds => simp_all [hasPair]

theorem hasPair_tail {p q : Char → Bool} {c : Char} {cs : List Char} (h : hasPair p q (c :: cs) = false) :
    hasPair p q cs = false := by
  cases cs with
  | nil => rfl
  | cons d ds => simp_all [hasPair]

theorem IsSingle.tail {c : Char} {cs : List Char} (h : IsSingle (c :: cs)) : IsSingle cs :=
  ⟨fun d hd => h.printable d (by simp [hd]), fun hd => h.not_newline (by simp [hd]),
    hasPair_tail h.spaceBreak, hasPair_tail h.breakSpace⟩

end Scalar

namespace QuotedScalar

/-- An end of a line waits in the gap, and the text goes on behind it. -/
theorem fits_addBreak {c : Char} {cs : List Char} (hs : Scalar.IsSingle (c :: cs)) (hbreak : isBreak c)
    {atLineStart : Bool} {g : Gap} (hg : Fits (c :: cs) atLineStart g) :
    (g.addBreak c).text = g.text ++ [c] ∧ Fits cs true (g.addBreak c) := by
  have hnewline : c ≠ '\n' := fun h => hs.not_newline (by simp [h])
  have hnext := Scalar.head_of_hasPair hs.breakSpace hbreak
  cases g with
  | none => exact ⟨by simp [Gap.addBreak, Gap.text, foldBreaks, hnewline], rfl, by simpa, hnext⟩
  | blanks text => simp [Fits, hbreak] at hg
  | lines first more =>
    obtain ⟨-, hfirst, -⟩ := hg
    exact ⟨by simp [Gap.addBreak, Gap.text, foldBreaks, hfirst], rfl, hfirst, hnext⟩

/-- So does a space, and then no end of a line follows. -/
theorem fits_addBlank {cs : List Char} (hs : Scalar.IsSingle (' ' :: cs)) {atLineStart : Bool} {g : Gap}
    (hg : Fits (' ' :: cs) atLineStart g) :
    (g.addBlank ' ').text = g.text ++ [' '] ∧ Fits cs false (g.addBlank ' ') := by
  have hnext := Scalar.head_of_hasPair hs.spaceBreak rfl
  cases g with
  | none => exact ⟨rfl, rfl, hnext⟩
  | blanks text => exact ⟨rfl, rfl, hnext⟩
  | lines first more => simp [Fits, Scalar.isSpace] at hg

/-- An end of a line is added to the gap. -/
theorem read_break {c : Char} (hbreak : isBreak c) (start m : Mark) (g : Gap) (rest : List Char) :
    read false start m (.gap g) (c :: rest) = read false start m.newLine (.gap (g.addBreak c)) rest := by
  have hblank : isBlank c = false := by
    have hspace : c ≠ ' ' := ne_of_kind hbreak rfl
    have htab : c ≠ '\t' := ne_of_kind hbreak rfl
    simp [isBlank, hspace, htab]
  simp [hbreak, hblank, read]

/-- A character is read as itself, and two quotation marks as one. -/
theorem read_doubled {c : Char} (hblank : isBlank c = false) (hbreak : isBreak c = false) {m : Mark}
    (hm : m.column ≠ 0) (start : Mark) (g : Gap) (rest : List Char) :
    ∃ m' : Mark, m'.column ≠ 0 ∧
      read false start m (.gap g) ((if c = '\'' then ['\'', '\''] else [c]) ++ rest)
        = put (g.text ++ [c]) (read false start m' (.gap .none) rest) := by
  by_cases hquote : c = '\''
  · subst hquote
    refine ⟨m.next.next, by simp [Mark.next], ?_⟩
    simp [read, isBlank, isBreak, Cursor.isDocumentSign, Cursor.isSign, put_put]
  · refine ⟨m.after c, by simp [Mark.after_of_not_isBreak hbreak], ?_⟩
    rw [if_neg hquote, List.singleton_append, read_character hblank hbreak (by simp [hquote]) hm]

/-- The quotation mark behind a text ends it. -/
theorem read_end {rest : List Char} (hrest : rest.head? ≠ some '\'') (start m : Mark) (g : Gap) :
    read false start m (.gap g) ('\'' :: rest) = .ok (g.text, ⟨m.next, rest⟩) := by
  have hquote : read false start m (.gap g) ('\'' :: rest)
      = put g.text (read false start m.next .quote rest) := by
    simp [read, isBlank, isBreak, Cursor.isDocumentSign, Cursor.isSign]
  have hend : read false start m.next .quote rest = .ok ([], ⟨m.next, rest⟩) := by
    cases rest with
    | nil => rfl
    | cons c cs => simp_all [read]
  rw [hquote, hend, put_ok, List.append_nil]

/-- A text between single quotation marks is read back. -/
theorem read_single {s : List Char} (hs : Scalar.IsSingle s) {indent : Nat} (hindent : 0 < indent)
    {atLineStart : Bool} {g : Gap} (hg : Fits s atLineStart g) {m : Mark} (hm : m.column = 0 → atLineStart)
    (start : Mark) {rest : List Char} (hrest : rest.head? ≠ some '\'') :
    ∃ m' : Mark, read false start m (.gap g) (Scalar.singleBody indent atLineStart s ++ '\'' :: rest)
      = .ok (g.text ++ s, ⟨m', rest⟩) := by
  induction s generalizing atLineStart g m with
  | nil =>
    obtain ⟨m₁, hm₁, hread⟩ := exists_read_lineStart hg hindent hm start ('\'' :: rest)
    exact ⟨m₁.next, by rw [Scalar.singleBody, hread, read_end hrest, List.append_nil]⟩
  | cons c cs ih =>
    by_cases hbreak : isBreak c
    · obtain ⟨htext, hfits⟩ := fits_addBreak hs hbreak hg
      obtain ⟨m', h⟩ := ih hs.tail hfits (m := m.newLine) (fun _ => rfl)
      have hbody : Scalar.singleBody indent atLineStart (c :: cs) = c :: Scalar.singleBody indent true cs := by
        simp [Scalar.singleBody, hbreak]
      exact ⟨m', by rw [hbody, List.cons_append, read_break hbreak, h, htext, List.append_assoc, List.singleton_append]⟩
    · have hbreak' : isBreak c = false := by simpa using hbreak
      have hbody : Scalar.singleBody indent atLineStart (c :: cs) ++ '\'' :: rest
          = (if atLineStart then Scalar.margin indent else [])
            ++ ((if c = '\'' then ['\'', '\''] else [c]) ++ (Scalar.singleBody indent false cs ++ '\'' :: rest)) := by
        simp [Scalar.singleBody, hbreak']
      obtain ⟨m₁, hm₁, hread⟩ := exists_read_lineStart hg hindent hm start
        ((if c = '\'' then ['\'', '\''] else [c]) ++ (Scalar.singleBody indent false cs ++ '\'' :: rest))
      rw [hbody, hread]
      by_cases hblank : isBlank c
      · obtain rfl := eq_space_of_isBlank (hs.printable c (by simp)) hblank
        obtain ⟨htext, hfits⟩ := fits_addBlank hs hg
        obtain ⟨m', h⟩ := ih hs.tail hfits (m := m₁.next) (by simp [Mark.next])
        refine ⟨m', ?_⟩
        rw [if_neg (by decide), List.singleton_append, read_space, h, htext, List.append_assoc, List.singleton_append]
      · obtain ⟨m₂, hm₂, hcharacter⟩ := read_doubled (by simpa using hblank) hbreak' hm₁ start g
          (Scalar.singleBody indent false cs ++ '\'' :: rest)
        obtain ⟨m', h⟩ := ih hs.tail (g := .none) rfl (m := m₂) (fun h => absurd h hm₂)
        refine ⟨m', ?_⟩
        rw [hcharacter, h, put_ok, Gap.text, List.nil_append, List.append_assoc, List.singleton_append]

end QuotedScalar

end StartupConfig.Yaml
