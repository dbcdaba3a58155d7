import StartupConfig.Proofs.Yaml.Character

/-!
# Reading literal blocks back

The header tells the margin where the text does not show it, and what becomes of the ends of lines behind the
text. So a text is split into what ends with the last character of a line and the ends of lines behind that:
the first part is read line by line, and the header keeps as many ends of lines as there are.
-/
namespace StartupConfig.Yaml.BlockScalar

theorem put_nil (r : Except Stop (List Char × Cursor)) : put [] r = r := by
  cases r <;> rfl

theorem put_put (a b : List Char) (r : Except Stop (List Char × Cursor)) :
    put a (put b r) = put (a ++ b) r := by
  cases r <;> simp [put]

/-! ## Ends of lines behind the text -/

/-- A text and the ends of lines behind it. -/
theorem exists_trailing (s : List Char) :
    ∃ t bs, s = t ++ bs ∧ (∀ c ∈ t.getLast?, isBreak c = false) ∧ ∀ c ∈ bs, isBreak c := by
  induction s with
  | nil => exact ⟨[], [], rfl, by simp, by simp⟩
  | cons c cs ih =>
    obtain ⟨t, bs, rfl, ht, hbs⟩ := ih
    by_cases h : t = [] ∧ isBreak c
    · obtain ⟨rfl, hc⟩ := h
      exact ⟨[], c :: bs, rfl, by simp, by simpa [hc] using hbs⟩
    · refine ⟨c :: t, bs, rfl, ?_, hbs⟩
      cases t with
      | nil => simpa using h
      | cons d ds => simpa using ht

/-- What becomes of the ends of lines `bs` behind a text `t`, if they are to be kept. -/
def Tail.keeping (t bs : List Char) : Tail :=
  if bs = [] then .none else if t ≠ [] ∧ bs.length = 1 then .one else .all

/-- The sign that tells it. -/
def Tail.sign : Tail → List Char
  | .none => ['-']
  | .one => []
  | .all => ['+']

/-- Does the header tell the margin? -/
def isTold (s : List Char) : Bool := s.head?.any fun c => Scalar.isSpace c || isBreak c

theorem literalMarks_append {t bs : List Char} (hne : t ++ bs ≠ []) (ht : ∀ c ∈ t.getLast?, isBreak c = false)
    (hbs : ∀ c ∈ bs, isBreak c) :
    Scalar.literalMarks (t ++ bs)
      = (if isTold (t ++ bs) then ['2'] else []) ++ (Tail.keeping t bs).sign := by
  rw [Scalar.literalMarks, List.reverse_append]
  congr 1
  rcases List.eq_nil_or_concat bs with rfl | ⟨bs, c, rfl⟩
  · rcases List.eq_nil_or_concat t with rfl | ⟨t, c, rfl⟩
    · exact absurd rfl hne
    · have hc : isBreak c = false := ht c (by simp)
      cases h : t.reverse <;> simp [Tail.keeping, Tail.sign, hc, h]
  · have hc : isBreak c := hbs c (by simp)
    rcases List.eq_nil_or_concat bs with rfl | ⟨bs, d, rfl⟩
    · rcases List.eq_nil_or_concat t with rfl | ⟨t, d, rfl⟩
      · simp [Tail.keeping, Tail.sign, hc]
      · have hd : isBreak d = false := ht d (by simp)
        simp [Tail.keeping, Tail.sign, hc, hd]
    · have hd : isBreak d := hbs d (by simp)
      simp [Tail.keeping, Tail.sign, hc, hd]

/-- A header is read back. -/
theorem readHeader_marks (start m : Mark) (told : Bool) (tail : Tail) (rest : List Char) :
    ∃ m' : Mark, m'.column = 0 ∧
      readHeader start ⟨m, (if told then ['2'] else []) ++ tail.sign ++ '\n' :: rest⟩
        = .ok (⟨tail, if told then 2 else 0⟩, ⟨m', rest⟩) := by
  cases told <;> cases tail <;> exact ⟨_, rfl, rfl⟩

/-! ## The text -/

/-- Where the margin is told, what the lead passes over is read again as ends of lines and margin. -/
theorem readLead_bind {width : Nat} (hwidth : width ≠ 0) (tail : Tail) (start m : Mark) (widest : Nat)
    (breaks rest : List Char) (b : Bool) :
    ((readLead width start m widest breaks rest).bind fun lead =>
        readText false tail width start lead.cursor.mark (.margin [] lead.breaks b) lead.cursor.rest)
      = readText false tail width start m (.margin [] breaks b) rest := by
  induction rest generalizing m widest breaks with
  | nil => rfl
  | cons c cs ih =>
    simp only [readLead, hwidth, false_or]
    by_cases hspace : c = ' ' ∧ m.column < width
    · rw [if_pos hspace, ih, readText, if_pos hspace]
    · by_cases htab : c = '\t' ∧ m.column < width
      · rw [if_neg hspace, if_pos htab, readText, if_neg hspace, if_pos htab]
        rfl
      · by_cases hbreak : isBreak c
        · rw [if_neg hspace, if_neg htab, if_pos hbreak, ih, readText, if_neg hspace, if_neg htab,
            if_pos hbreak]
        · rw [if_neg hspace, if_neg htab, if_neg hbreak]
          rfl

/-- Where the margin is not told, the first line shows it. -/
theorem readLead_margin {c : Char} (hspace : c ≠ ' ') (htab : c ≠ '\t') (hbreak : isBreak c = false)
    (start m : Mark) (n : Nat) (cs : List Char) :
    readLead 0 start m 0 [] (Scalar.margin n ++ c :: cs)
      = .ok ⟨m.column + n, [], ⟨⟨m.line, m.column + n, m.offset + n⟩, c :: cs⟩⟩ := by
  have hmargin := over_margin (f := fun m => readLead 0 start m 0 [])
    (fun m rest _ => by simp [readLead]) (Nat.le_refl (m.column + n)) (c :: cs)
  rw [hmargin]
  simp [readLead, hspace, htab, hbreak]

theorem readText_margin (tail : Tail) {width n : Nat} {m : Mark} (h : m.column + n ≤ width) (start : Mark)
    (first more : List Char) (b : Bool) (rest : List Char) :
    readText false tail width start m (.margin first more b) (Scalar.margin n ++ rest)
      = readText false tail width start ⟨m.line, m.column + n, m.offset + n⟩ (.margin first more b) rest := by
  refine over_margin (f := fun m => readText false tail width start m (.margin first more b))
    (fun m rest hlt => ?_) h rest
  simp [readText, hlt]

/-- The ends of lines that wait in front of a line. -/
def Place.waiting : Place → List Char
  | .line _ => []
  | .margin first more _ => first ++ more

/-- Is this the beginning of a line? -/
def Place.isMargin : Place → Bool
  | .line _ => false
  | .margin .. => true

/-- A text is read up to the last character of its last line. -/
theorem readText_body {t : List Char} (hne : t ≠ []) (hprintable : ∀ c ∈ t, isPrintable c)
    (ht : ∀ c ∈ t.getLast?, isBreak c = false) (tail : Tail) {width : Nat} (start : Mark) {m : Mark} {p : Place}
    (hm : p.isMargin → m.column = 0) (rest : List Char) :
    ∃ (m' : Mark) (b : Bool),
      readText false tail width start m p (Scalar.literalBody width p.isMargin t ++ rest)
        = put (p.waiting ++ t) (readText false tail width start m' (.line b) rest) := by
  induction t generalizing m p with
  | nil => exact absurd rfl hne
  | cons c cs ih =>
    have hafter (m' : Mark) (b : Bool) : ∃ (m'' : Mark) (b' : Bool),
        readText false tail width start m' (.line b) (Scalar.literalBody width false cs ++ rest)
          = put cs (readText false tail width start m'' (.line b') rest) := by
      cases hcs : cs with
      | nil => exact ⟨m', b, (put_nil _).symm⟩
      | cons d ds =>
        rw [← hcs]
        exact ih (by simp [hcs]) (fun e he => hprintable e (by simp [he])) (getLast?_tail ht)
          (p := .line b) (by simp [Place.isMargin])
    by_cases hbreak : isBreak c
    · -- an end of a line waits, and a character must follow
      have hcs : cs ≠ [] := by
        rintro rfl
        simp [hbreak] at ht
      have hlater (first more : List Char) (b : Bool) := ih hcs (fun e he => hprintable e (by simp [he]))
        (getLast?_tail ht) (m := m.newLine) (p := .margin first more b) (fun _ => rfl)
      cases p with
      | line b =>
        obtain ⟨m', b', h⟩ := hlater [c] [] b
        refine ⟨m', b', ?_⟩
        simpa [Scalar.literalBody, hbreak, readText, Place.isMargin, Place.waiting] using h
      | margin first more b =>
        obtain ⟨m', b', h⟩ := hlater first (more ++ [c]) b
        refine ⟨m', b', ?_⟩
        have hspace : c ≠ ' ' := ne_of_kind hbreak rfl
        have htab : c ≠ '\t' := ne_of_kind hbreak rfl
        simpa [Scalar.literalBody, hbreak, hspace, htab, readText, Place.isMargin, Place.waiting] using h
    · have hbreak' : isBreak c = false := by simpa using hbreak
      cases p with
      | line b =>
        obtain ⟨m', b', h⟩ := hafter (m.after c) b
        refine ⟨m', b', ?_⟩
        simp [Scalar.literalBody, hbreak', readText, Place.isMargin, Place.waiting, h, put_put]
      | margin first more b =>
        have hcolumn : m.column = 0 := hm rfl
        obtain ⟨m', b', h⟩ := hafter (Mark.after ⟨m.line, m.column + width, m.offset + width⟩ c) (isBlank c)
        refine ⟨m', b', ?_⟩
        have hbody : Scalar.literalBody width true (c :: cs) ++ rest
            = Scalar.margin width ++ (c :: (Scalar.literalBody width false cs ++ rest)) := by
          simp [Scalar.literalBody, hbreak']
        simp only [Place.isMargin]
        rw [hbody, readText_margin tail (by omega)]
        simp [readText, hcolumn, hbreak', Place.waiting] at h ⊢
        simp [h, put_put]

/-- Ends of lines behind the text are collected up to the next line. -/
theorem readText_breaks (tail : Tail) {width : Nat} (l : Line) (hl : l.column < width) {bs : List Char}
    (hbs : ∀ c ∈ bs, isBreak c) (start : Mark) {m : Mark} (hm : m.column = 0) (first more : List Char)
    (b : Bool) :
    ∃ m' : Mark, m'.column = l.column ∧
      readText false tail width start m (.margin first more b) (bs ++ l.text)
        = .ok (tail.keep first (more ++ bs), ⟨m', l.rest⟩) := by
  induction bs generalizing m more with
  | nil =>
    refine ⟨⟨m.line, m.column + l.column, m.offset + l.column⟩, by simp [hm], ?_⟩
    rw [List.nil_append, Line.text, readText_margin tail (by omega), List.append_nil]
    cases hr : l.rest with
    | nil => rfl
    | cons c cs =>
      have hc := l.solid c (by simp [hr])
      simp only [isSolid, isBlank, Bool.and_eq_true, Bool.not_eq_true', Bool.or_eq_false_iff,
        beq_eq_false_iff_ne] at hc
      have hcolumn : ¬l.column = width := by omega
      simp [readText, hc, hm, hcolumn]
  | cons c cs ih =>
    have hc := hbs c (by simp)
    have hspace : c ≠ ' ' := ne_of_kind hc rfl
    have htab : c ≠ '\t' := ne_of_kind hc rfl
    obtain ⟨m', hm', h⟩ := ih (fun d hd => hbs d (by simp [hd])) (m := m.newLine) rfl (more ++ [c])
    refine ⟨m', hm', ?_⟩
    simpa [readText, hspace, htab, hc] using h

/-- The ends of lines behind a text are read back, or none if the line is ended for it. -/
theorem readText_trailing {t bs : List Char} (ht : t ≠ []) (hbs : ∀ c ∈ bs, isBreak c) {width : Nat} (l : Line)
    (hl : l.column < width) (start m : Mark) (b : Bool) :
    ∃ m' : Mark, m'.column = l.column ∧
      readText false (Tail.keeping t bs) width start m (.line b)
        (bs ++ ((if bs = [] then ['\n'] else []) ++ l.text)) = .ok (bs, ⟨m', l.rest⟩) := by
  have hbreak {c : Char} (hc : isBreak c) (tail : Tail) (cs : List Char) :
      readText false tail width start m (.line b) (c :: cs)
        = readText false tail width start m.newLine (.margin [c] [] b) cs := by
    simp [readText, hc]
  cases bs with
  | nil =>
    have hnil : ∀ c ∈ ([] : List Char), isBreak c := by simp
    obtain ⟨m', hm', h⟩ := readText_breaks .none l hl hnil start (m := m.newLine) rfl ['\n'] [] b
    refine ⟨m', hm', ?_⟩
    simpa [hbreak (c := '\n') rfl, Tail.keeping, Tail.keep] using h
  | cons c cs =>
    have hcs : ∀ d ∈ cs, isBreak d := fun d hd => hbs d (by simp [hd])
    obtain ⟨m', hm', h⟩ := readText_breaks (Tail.keeping t (c :: cs)) l hl hcs start (m := m.newLine) rfl [c] [] b
    refine ⟨m', hm', ?_⟩
    have hkeep : (Tail.keeping t (c :: cs)).keep [c] cs = c :: cs := by
      cases cs <;> simp [Tail.keeping, Tail.keep, ht]
    simpa [hbreak (hbs c (by simp)), hkeep] using h

/-! ## The block -/

/-- The end of the line is written unless the text has ended it. -/
def lineEnd (s : List Char) : List Char := if s.getLast?.any isBreak then [] else ['\n']

theorem lineEnd_append {t bs : List Char} (ht : ∀ c ∈ t.getLast?, isBreak c = false)
    (hbs : ∀ c ∈ bs, isBreak c) : lineEnd (t ++ bs) = if bs = [] then ['\n'] else [] := by
  rcases List.eq_nil_or_concat bs with rfl | ⟨bs, c, rfl⟩
  · rcases List.eq_nil_or_concat t with rfl | ⟨t, c, rfl⟩
    · rfl
    · simp [lineEnd, ht c (by simp)]
  · simp [lineEnd, hbs c (by simp)]

/-- Ends of lines are written as they are. -/
theorem literalBody_breaks {bs : List Char} (hbs : ∀ c ∈ bs, isBreak c) (width : Nat) (atLineStart : Bool) :
    Scalar.literalBody width atLineStart bs = bs := by
  induction bs generalizing atLineStart with
  | nil => rfl
  | cons c cs ih =>
    rw [Scalar.literalBody, if_pos (hbs c (by simp)), ih fun d hd => hbs d (by simp [hd])]

theorem literalBody_append {bs : List Char} (hbs : ∀ c ∈ bs, isBreak c) (width : Nat) (atLineStart : Bool)
    (t : List Char) :
    Scalar.literalBody width atLineStart (t ++ bs) = Scalar.literalBody width atLineStart t ++ bs := by
  induction t generalizing atLineStart with
  | nil => exact literalBody_breaks hbs width atLineStart
  | cons c cs ih =>
    by_cases h : isBreak c <;> simp [Scalar.literalBody, h, ih]

/-- The lines of a text are read back as the header for the text tells. -/
theorem readText_literal {s : List Char} (hne : s ≠ []) (hprintable : ∀ c ∈ s, isPrintable c) {width : Nat}
    (l : Line) (hl : l.column < width) (start : Mark) :
    ∃ tail : Tail, Scalar.literalMarks s = (if isTold s then ['2'] else []) ++ tail.sign ∧
      ∀ m : Mark, m.column = 0 → ∃ m' : Mark, m'.column = l.column ∧
        readText false tail width start m (.margin [] [] false)
          (Scalar.literalBody width true s ++ (lineEnd s ++ l.text)) = .ok (s, ⟨m', l.rest⟩) := by
  obtain ⟨t, bs, rfl, ht, hbs⟩ := exists_trailing s
  refine ⟨Tail.keeping t bs, literalMarks_append hne ht hbs, ?_⟩
  intro m hm
  rw [literalBody_append hbs, lineEnd_append ht hbs, List.append_assoc]
  by_cases htnil : t = []
  · subst htnil
    have hbsne : bs ≠ [] := hne
    obtain ⟨m', hm', h⟩ := readText_breaks .all l hl hbs start hm [] [] false
    refine ⟨m', hm', ?_⟩
    simpa [Scalar.literalBody, hbsne, Tail.keeping, Tail.keep] using h
  · obtain ⟨m₁, b, hread⟩ := readText_body htnil (fun c hc => hprintable c (by simp [hc])) ht
      (Tail.keeping t bs) start (p := .margin [] [] false) (fun _ => hm)
      (bs ++ ((if bs = [] then ['\n'] else []) ++ l.text))
    obtain ⟨m', hm', h⟩ := readText_trailing htnil hbs l hl start m₁ b
    refine ⟨m', hm', hread.trans ?_⟩
    rw [h]
    rfl

/-- Behind the header the text is read from the beginning of its first line, whether the header tells the margin
or that line shows it. -/
theorem read_of_header {s : List Char} (hne : s ≠ []) (hprintable : ∀ c ∈ s, isPrintable c) (outer : Nat)
    {tail : Tail} {start m₁ : Mark} {c : Cursor} (hm₁ : m₁.column = 0) (rest : List Char)
    (h : readHeader start c = .ok (⟨tail, if isTold s then 2 else 0⟩,
      ⟨m₁, Scalar.literalBody (outer + 2) true s ++ rest⟩)) :
    read false outer start c = readText false tail (outer + 2) start m₁ (.margin [] [] false)
      (Scalar.literalBody (outer + 2) true s ++ rest) := by
  by_cases htold : isTold s
  · rw [if_pos htold] at h
    rw [← readLead_bind (by omega) tail start m₁ 0]
    simp only [read, h]
    rfl
  · rw [if_neg htold] at h
    obtain ⟨c, cs, rfl⟩ := List.exists_cons_of_ne_nil hne
    simp only [isTold, List.head?_cons, Option.any_some, Bool.or_eq_true, not_or, Bool.not_eq_true,
      Scalar.isSpace, beq_eq_false_iff_ne] at htold
    obtain ⟨hspace, hbreak⟩ := htold
    have htab : c ≠ '\t' := ne_of_kind (hprintable c (by simp)) (by decide)
    have hbody : Scalar.literalBody (outer + 2) true (c :: cs) ++ rest
        = Scalar.margin (outer + 2) ++ (c :: (Scalar.literalBody (outer + 2) false cs ++ rest)) := by
      simp [Scalar.literalBody, hbreak]
    rw [hbody] at h ⊢
    have hlead := readLead_margin hspace htab hbreak start m₁ (outer + 2)
      (Scalar.literalBody (outer + 2) false cs ++ rest)
    have hwidth : max (m₁.column + (outer + 2)) (outer + 1) = outer + 2 := by omega
    rw [readText_margin tail (by omega)]
    simp only [read, h, bind, Except.bind, if_true, hlead, hwidth]

/-- A literal block is read back, up to the first sign or word of the next line. -/
theorem read_literal {s : List Char} (hne : s ≠ []) (hprintable : ∀ c ∈ s, isPrintable c) {outer : Nat}
    (l : Line) (hl : l.column ≤ outer) (start m : Mark) :
    ∃ m' : Mark, m'.column = l.column ∧
      read false outer start ⟨m, Scalar.literalMarks s ++ '\n' :: (Scalar.literalBody (outer + 2) true s
        ++ (lineEnd s ++ l.text))⟩ = .ok (s, ⟨m', l.rest⟩) := by
  obtain ⟨tail, hmarks, htext⟩ := readText_literal hne hprintable l (show l.column < outer + 2 by omega) start
  obtain ⟨m₁, hm₁, hheader⟩ := readHeader_marks start m (isTold s) tail
    (Scalar.literalBody (outer + 2) true s ++ (lineEnd s ++ l.text))
  obtain ⟨m', hm', h⟩ := htext m₁ hm₁
  refine ⟨m', hm', ?_⟩
  rw [hmarks, read_of_header hne hprintable outer hm₁ _ hheader, h]

end StartupConfig.Yaml.BlockScalar
