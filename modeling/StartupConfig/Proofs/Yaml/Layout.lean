import StartupConfig.Proofs.Yaml.Style

/-!
# Steps of the reader of documents

Between the tokens of written documents the reader is at rest: no token is waiting and no node may be a key.
One statement says how the reader goes over the name of a member with its colon, one how it goes over a scalar
that is a value, and one how the document ends. Block collections end when the reader comes to the line of the
next token.
-/
namespace StartupConfig.Yaml

namespace Layout

/-- A reader at rest, outside flow collections. -/
def resting (c : Cursor) (columns : List Nat) (keyAllowed : Bool) (handedOn : Nat) : Layout :=
  ⟨c, columns, none, [], keyAllowed, [], handedOn⟩

theorem length_passSpace_le (inFlow inComment keyAllowed : Bool) (m : Mark) (cs : List Char) :
    (passSpace inFlow inComment keyAllowed m cs).2.rest.length ≤ cs.length := by
  induction cs generalizing inComment keyAllowed m with
  | nil => simp [passSpace]
  | cons c cs ih =>
    rw [passSpace]
    split
    · exact Nat.le_succ_of_le (ih _ _ _)
    · split
      · exact Nat.le_succ_of_le (ih _ _ _)
      · split
        · exact Nat.le_succ_of_le (ih _ _ _)
        · simp

/-! ## Runs -/

/-- Reading on from one reader leads to another, and tokens with these signs are handed on before it. -/
def Leads (s : Layout) (signs : List Sign) (s' : Layout) : Prop :=
  ∃ ready : List Token, ready.map Token.sign = signs ∧
    Tokens.ofLayout none s = Tokens.after ready (Tokens.ofLayout none s')

theorem Leads.refl (s : Layout) : Leads s [] s := ⟨[], rfl, rfl⟩

theorem Leads.trans {s₁ s₂ s₃ : Layout} {as bs : List Sign} (h : Leads s₁ as s₂) (h' : Leads s₂ bs s₃) :
    Leads s₁ (as ++ bs) s₃ := by
  obtain ⟨ready, hready, hof⟩ := h
  obtain ⟨ready', hready', hof'⟩ := h'
  refine ⟨ready ++ ready', by rw [List.map_append, hready, hready'], ?_⟩
  rw [hof, hof']
  simp [Tokens.after]

/-- A step that goes over some text hands on what it can. -/
theorem Leads.of_step {s s' : Layout} (h : s.step = .ok s') (hgive : s'.giveUp = .ok s')
    (hlength : s'.cursor.rest.length < s.cursor.rest.length) :
    Leads s (s'.release.1.map Token.sign) s'.release.2 := by
  refine ⟨s'.release.1, rfl, ?_⟩
  rw [Tokens.ofLayout]
  simp only [h, Except.bind, hgive, Option.filter_none]
  exact dif_pos hlength

/-- Without candidates nothing is given up. -/
theorem giveUp_eq_self {s : Layout} (h : s.candidate = none) (h' : s.enclosing = []) : s.giveUp = .ok s := by
  cases s
  simp_all [giveUp, candidates]

/-- A candidate on the same line is kept as long as it is near. -/
theorem giveUp_candidate {s : Layout} {k : Candidate} (h : s.candidate = some k) (h' : s.enclosing = [])
    (hstale : Candidate.isStale s.mark k = false) : s.giveUp = .ok s := by
  cases s
  simp_all [giveUp, candidates, mark]

/-- Behind a step that leaves no candidate the reader is at rest. -/
theorem Leads.of_step_resting {s : Layout} {c : Cursor} {columns : List Nat} {keyAllowed : Bool}
    {waiting : List Token} {handedOn : Nat}
    (h : s.step = .ok ⟨c, columns, none, [], keyAllowed, waiting, handedOn⟩)
    (hlength : c.rest.length < s.cursor.rest.length) :
    Leads s (waiting.reverse.map Token.sign) (resting c columns keyAllowed (handedOn + waiting.length)) := by
  have hleads := Leads.of_step h (giveUp_eq_self rfl rfl) hlength
  simpa [release, candidates, resting] using hleads

/-- The innermost collections end whose columns are of a class. -/
theorem close_append {p : Nat → Bool} {s : Layout} (hflow : s.enclosing = []) {inner columns : List Nat}
    (hcolumns : s.columns = inner ++ columns) (hinner : ∀ i ∈ inner, p i) (houter : ∀ i ∈ columns.head?, p i = false) :
    s.close p = { s with waiting := (inner.map fun _ => ⟨.blockEnd, s.mark⟩) ++ s.waiting, columns } := by
  have hends : s.columns.takeWhile p = inner ∧ s.columns.dropWhile p = columns := by
    rw [hcolumns, List.takeWhile_append_of_pos hinner, List.dropWhile_append_of_pos hinner]
    cases columns with
    | nil => simp
    | cons i is => simp [List.takeWhile, List.dropWhile, houter i rfl]
  simp [close, inFlow, hflow, hends]

/-- The reader comes to a token; collections that stand further to the right end. -/
theorem goToToken_resting {c c' : Cursor} {keyAllowed keyAllowed' : Bool}
    (h : passSpace false false keyAllowed c.mark c.rest = (keyAllowed', c')) {inner columns : List Nat}
    (hinner : ∀ i ∈ inner, c'.mark.column < i) (houter : ∀ i ∈ columns.head?, i ≤ c'.mark.column)
    (handedOn : Nat) :
    (resting c (inner ++ columns) keyAllowed handedOn).goToToken
      = .ok ⟨c', columns, none, [], keyAllowed', inner.map fun _ => ⟨.blockEnd, c'.mark⟩, handedOn⟩ := by
  have hclose := close_append (p := fun i => decide (c'.mark.column < i))
    (s := ⟨c', inner ++ columns, none, [], keyAllowed', [], handedOn⟩) rfl rfl (by simpa using hinner)
    (by simpa using houter)
  simp only [goToToken, inFlow, resting, List.isEmpty_nil, Bool.not_true, h, bind, Except.bind,
    giveUp_eq_self, pure, Except.pure, mark]
  refine (congrArg Except.ok hclose).trans ?_
  simp [mark]

theorem step_of_goToToken {s s' : Layout} (h : s.goToToken = .ok s') {c : Char} {cs : List Char}
    (hrest : s'.cursor.rest = c :: cs) : s.step = s'.readAt c := by
  simp only [step, h, bind, Except.bind, hrest]

/-! ## Tokens -/

/-- Where the signs of documents cannot stand a plain text is read as one. -/
theorem readAt_of_isPlain {c : Char} {cs rest : List Char} (h : Scalar.IsPlain (c :: cs)) {s : Layout}
    (hflow : s.enclosing = []) (hrest : s.cursor.rest = c :: (cs ++ rest))
    (hsign : s.mark.column ≠ 0 ∨ c ≠ '-' ∧ c ≠ '.') : s.readAt c = s.readPlain := by
  have hopening := h.hasOpening_eq_false
  have hfirst : Scalar.opening.contains c = false
      ∧ ((c == '?' || c == ':' || c == '-') && isBlankOrEnd cs.head?) = false := by
    unfold Scalar.hasOpening at hopening
    split at hopening <;> simp_all
  have hdocument (sign : Char) (hs : sign = '-' ∨ sign = '.') : s.cursor.isSign sign = false := by
    have hne : s.mark.column ≠ 0 ∨ c ≠ sign := by rcases hs with rfl | rfl <;> exact hsign.imp_right (by simp +contextual)
    simp only [Cursor.isSign, hrest, List.take_succ_cons]
    rcases hne with hne | hne
    · simp [mark] at hne
      simp [hne]
    · simp [hne]
  have hbreak := h.not_isBreak c (by simp)
  have hblank : isBlank c = false := h.not_isBlank.1 c rfl
  have hfollowing : (c == '?' || c == ':' || c == '-') → ∃ d, s.cursor.second? = some d ∧ isBlankOrEnd (some d) = false := by
    intro hc
    have hnext : isBlankOrEnd cs.head? = false := by simpa [hc] using hfirst.2
    cases cs with
    | nil => simp [isBlankOrEnd] at hnext
    | cons d ds => exact ⟨d, by simp [Cursor.second?, hrest], hnext⟩
  have hflow' : s.inFlow = false := by simp [inFlow, hflow]
  by_cases hc : c == '?' || c == ':' || c == '-'
  · obtain ⟨d, hd, hnext⟩ := hfollowing hc
    have hd' : isBlank d = false := by
      simp only [isBlankOrEnd, Bool.or_eq_false_iff] at hnext
      exact hnext.1
    simp only [Bool.or_eq_true, beq_iff_eq] at hc
    rcases hc with (rfl | rfl) | rfl <;>
      simp [readAt, hdocument, hd, hnext, hflow', beginsPlain, hd']
  · simp only [Bool.or_eq_true, beq_iff_eq, not_or] at hc
    have hreserved : c ∉ reserved := by
      have := hfirst.1
      simp_all [reserved, Scalar.opening]
    simp only [reserved, List.mem_cons, List.not_mem_nil, or_false, not_or] at hreserved
    simp [readAt, hdocument, hflow', beginsPlain, hreserved, hblank, hbreak, reserved]

/-! ## Names -/

/-- Each character of a word is one byte. -/
theorem size_of_isWord {cs : List Char} (h : ∀ c ∈ cs, isWord c) : Utf8.size cs = cs.length := by
  induction cs with
  | nil => rfl
  | cons c cs ih =>
    have hc := isOrdinary_of_isWord (h c (by simp))
    simp only [isOrdinary, Bool.and_eq_true, beq_iff_eq] at hc
    simp [Utf8.size, hc, ih fun d hd => h d (by simp [hd]), Nat.add_comm]

/-- A name before a colon is read as a plain scalar. -/
theorem read_name {name : List Char} (h : Scalar.IsName name) {rest : List Char} (hrest : isBlankOrEnd rest.head?)
    (least : Nat) (m : Mark) :
    PlainScalar.read false least m m .none (name ++ ':' :: rest)
      = .ok ⟨name, false, ⟨m.passing name, ':' :: rest⟩⟩ := by
  have hplain := h.isPlain
  have hblank : ¬∃ c ∈ name, isBlank c := by
    rintro ⟨c, hc, hb⟩
    have := isOrdinary_of_isWord (h.isWord c hc)
    simp [isOrdinary, hb] at this
  rw [PlainScalar.read_append hplain.hasInner_eq_false hplain.not_isBreak hplain.not_isBlank.2 rfl
    (by simp [Gap.isSome]) (fun _ => rfl) (by simp [Gap.isSome, hblank]), PlainScalar.read_colon hrest]
  simp [PlainScalar.put, Gap.text]

/-- A reader behind a name that may be a key; tokens in front of the name can be handed on. -/
def behindName (name : List Char) (isRequired : Bool) (m : Mark) (rest : List Char) (columns : List Nat)
    (front : List Token) (handedOn : Nat) : Layout :=
  ⟨⟨m.passing name, ':' :: rest⟩, columns, some ⟨handedOn + front.length, isRequired, m⟩, [], false,
    ⟨.scalar .plain name, m⟩ :: front, handedOn⟩

/-- A name where keys are allowed is remembered as a candidate. -/
theorem readPlain_name {name : List Char} (h : Scalar.IsName name) {rest : List Char}
    (hrest : isBlankOrEnd rest.head?) (m : Mark) (columns : List Nat) (front : List Token) (n : Nat) :
    readPlain ⟨⟨m, name ++ ':' :: rest⟩, columns, none, [], true, front, n⟩
      = .ok (behindName name (columns.head? == some m.column) m rest columns front n) := by
  simp only [readPlain, saveCandidate, if_true, inFlow, List.isEmpty_nil, Bool.not_true, Bool.not_false,
    Bool.true_and, giveUpLatest, bind, Except.bind, pure, Except.pure, mark, number, read_name h hrest]
  rfl

section behindName

variable {name : List Char} (isRequired : Bool) (m : Mark) (rest : List Char) (columns : List Nat)
  (front : List Token) (n : Nat)

/-- The name is on the line of the reader and near enough for a key. -/
theorem giveUp_behindName (h : Scalar.IsName name) :
    (behindName name isRequired m rest columns front n).giveUp
      = .ok (behindName name isRequired m rest columns front n) := by
  refine giveUp_candidate rfl rfl ?_
  have hlength := h.length_le
  simp only [behindName, mark, Mark.passing_of_not_isBreak h.isPlain.not_isBreak, size_of_isWord h.isWord,
    Candidate.isStale, Bool.or_eq_false_iff, decide_eq_false_iff_not]
  omega

theorem release_behindName : (behindName name isRequired m rest columns front n).release
    = (front.reverse, behindName name isRequired m rest columns [] (n + front.length)) := by
  have hkept : n + (front.length + 1) - (n + front.length) = 1 := by omega
  simp [release, behindName, candidates, number, hkept]

/-- The reader stands at the colon. -/
theorem goToToken_behindName (h : Scalar.IsName name) (houter : ∀ i ∈ columns.head?, i ≤ m.column) :
    (behindName name isRequired m rest columns front n).goToToken
      = .ok (behindName name isRequired m rest columns front n) := by
  have hpass := passSpace_of_isSolid (c := ':') rfl false false (m.passing name) rest
  have hcolumn : m.column ≤ (m.passing name).column := by
    simp [Mark.passing_of_not_isBreak h.isPlain.not_isBreak]
  have hclose := close_append (p := fun i => decide ((m.passing name).column < i))
    (s := behindName name isRequired m rest columns front n) rfl (List.nil_append columns).symm (by simp)
    (fun i hi => by
      have := houter i hi
      simp only [decide_eq_false_iff_not]
      omega)
  have hgive := giveUp_behindName isRequired m rest columns front n h
  simp only [goToToken, inFlow, behindName, mark, List.isEmpty_nil, Bool.not_true, hpass, bind, Except.bind,
    pure, Except.pure] at hgive hclose ⊢
  rw [hgive]
  exact congrArg Except.ok hclose

end behindName

/-- The tokens that the first key at a column puts in front of itself. -/
def openSigns (column : Nat) (columns : List Nat) : List Sign :=
  if columns.head? = some column then [] else [.blockRecord]

/-- The columns of open collections behind a key at a column. -/
def openColumns (column : Nat) (columns : List Nat) : List Nat :=
  if columns.head? = some column then columns else column :: columns

/-- At the colon the name turns out to be a key. -/
theorem readValue_behindName (name : List Char) (isRequired : Bool) {m : Mark} (rest : List Char)
    {columns : List Nat} (houter : ∀ i ∈ columns.head?, i ≤ m.column) (n : Nat) :
    ∃ waiting : List Token,
      waiting.reverse.map Token.sign = openSigns m.column columns ++ [.key, .scalar .plain name, .value] ∧
      readValue (behindName name isRequired m rest columns [] n)
        = .ok ⟨⟨(m.passing name).after ':', rest⟩, openColumns m.column columns, none, [], false, waiting, n⟩ := by
  by_cases hopen : columns.head? = some m.column
  · refine ⟨[⟨.value, m.passing name⟩, ⟨.scalar .plain name, m⟩, ⟨.key, m⟩], by simp [openSigns, hopen], ?_⟩
    simp [behindName, readValue, confirm, isOpening, inFlow, addBefore, number, allowKey, pass, add, mark,
      Cursor.next, openColumns, hopen]
  · have hall : columns.head?.all (· < m.column) := by
      cases hhead : columns.head? with
      | none => rfl
      | some i =>
        have hle := houter i hhead
        have hne : i ≠ m.column := fun h => hopen (h ▸ hhead)
        simp only [Option.all_some, decide_eq_true_eq]
        omega
    refine ⟨[⟨.value, m.passing name⟩, ⟨.scalar .plain name, m⟩, ⟨.key, m⟩, ⟨.blockRecord, m⟩],
      by simp [openSigns, hopen], ?_⟩
    simp [behindName, readValue, confirm, isOpening, inFlow, hall, addBefore, number, allowKey, pass, add, mark,
      Cursor.next, openColumns, hopen]

/-- From a line that begins with a name the reader goes over the name. Collections that stand further to the
right end first. -/
theorem leads_name {name : List Char} (h : Scalar.IsName name) {rest : List Char} (hrest : isBlankOrEnd rest.head?)
    {c : Cursor} {keyAllowed : Bool} {m : Mark}
    (hpass : passSpace false false keyAllowed c.mark c.rest = (true, ⟨m, name ++ ':' :: rest⟩))
    {inner columns : List Nat} (hinner : ∀ i ∈ inner, m.column < i) (houter : ∀ i ∈ columns.head?, i ≤ m.column)
    (n : Nat) :
    ∃ (isRequired : Bool) (n' : Nat), Leads (resting c (inner ++ columns) keyAllowed n)
      (List.replicate inner.length .blockEnd) (behindName name isRequired m rest columns [] n') := by
  obtain ⟨d, ds, hname⟩ := List.exists_cons_of_ne_nil h.ne_nil
  have hd := isOrdinary_of_isWord (h.isWord d (by simp [hname]))
  have hdash : d ≠ '-' := by simpa [hname] using h.head_ne
  have hpoint : d ≠ '.' := ne_of_kind hd (by decide)
  have hgo := goToToken_resting hpass hinner houter n
  have hcons : name ++ ':' :: rest = d :: (ds ++ ':' :: rest) := by rw [hname, List.cons_append]
  have hstep := step_of_goToToken hgo hcons
  rw [readAt_of_isPlain (hname ▸ h.isPlain) rfl hcons (.inr ⟨hdash, hpoint⟩), readPlain_name h hrest] at hstep
  have hlength : (':' :: rest).length < c.rest.length := by
    have := length_passSpace_le false false keyAllowed c.mark c.rest
    rw [hpass, hname] at this
    simp only [List.length_append, List.length_cons] at this ⊢
    omega
  have hleads := Leads.of_step hstep (giveUp_behindName _ m rest columns _ n h) hlength
  rw [release_behindName] at hleads
  exact ⟨columns.head? == some m.column, n + inner.length,
    by simpa [Function.comp_def, List.map_const'] using hleads⟩

/-- Behind a name the reader goes over the colon. -/
theorem leads_colon {name : List Char} (h : Scalar.IsName name) {rest : List Char}
    (hrest : isBlankOrEnd rest.head?) {m : Mark} {columns : List Nat} (houter : ∀ i ∈ columns.head?, i ≤ m.column)
    (isRequired : Bool) (n : Nat) :
    ∃ (m' : Mark) (n' : Nat), m.column < m'.column ∧ Leads (behindName name isRequired m rest columns [] n)
      (openSigns m.column columns ++ [.key, .scalar .plain name, .value])
      (resting ⟨m', rest⟩ (openColumns m.column columns) false n') := by
  obtain ⟨waiting, hsigns, hvalue⟩ := readValue_behindName name isRequired rest houter n
  have hcolon : (behindName name isRequired m rest columns [] n).readAt ':'
      = (behindName name isRequired m rest columns [] n).readValue := by
    have hsecond : Cursor.second? ⟨m.passing name, ':' :: rest⟩ = rest.head? := by
      simp [Cursor.second?, List.head?_eq_getElem?]
    simp [readAt, behindName, hsecond, hrest, Cursor.isSign]
  have hstep := step_of_goToToken (goToToken_behindName isRequired m rest columns [] n h houter) rfl
  rw [hcolon, hvalue] at hstep
  have hleads := Leads.of_step_resting hstep (by simp [behindName])
  rw [hsigns] at hleads
  refine ⟨_, _, ?_, hleads⟩
  rw [Mark.passing_of_not_isBreak h.isPlain.not_isBreak, Mark.after_of_not_isBreak rfl]
  simp only
  omega

/-- From a line that begins with a name the reader goes on behind the colon. The first key at its column begins
a record. -/
theorem leads_key {name : List Char} (h : Scalar.IsName name) {rest : List Char} (hrest : isBlankOrEnd rest.head?)
    {c : Cursor} {keyAllowed : Bool} {l : Line} (hl : l.rest = name ++ ':' :: rest) (hc : c.ComesTo keyAllowed l)
    {inner columns : List Nat} (hinner : ∀ i ∈ inner, l.column < i) (houter : ∀ i ∈ columns.head?, i ≤ l.column)
    (n : Nat) :
    ∃ (m : Mark) (n' : Nat), l.column < m.column ∧ Leads (resting c (inner ++ columns) keyAllowed n)
      (List.replicate inner.length .blockEnd ++ (openSigns l.column columns ++ [.key, .scalar .plain name, .value]))
      (resting ⟨m, rest⟩ (openColumns l.column columns) false n') := by
  obtain ⟨m, hm, hpass⟩ := hc
  rw [hl] at hpass
  rw [← hm] at hinner houter ⊢
  obtain ⟨isRequired, n₁, hname⟩ := leads_name h hrest hpass hinner houter n
  obtain ⟨m', n', hm', hcolon⟩ := leads_colon h hrest houter isRequired n₁
  exact ⟨m', n', hm', hname.trans hcolon⟩

/-! ## Values -/

section Values

variable {column : Nat} (columns : List Nat) {m : Mark}

/-- Behind a colon and a space a token begins. -/
theorem goToToken_value (hm : column < m.column) {c : Char} (hsolid : isSolid c) (cs : List Char) (n : Nat) :
    (resting ⟨m, ' ' :: c :: cs⟩ (column :: columns) false n).goToToken
      = .ok (resting ⟨m.next, c :: cs⟩ (column :: columns) false n) := by
  have hpass : passSpace false false false m (' ' :: c :: cs) = (false, ⟨m.next, c :: cs⟩) := by
    have hspace : passSpace false false false m (' ' :: c :: cs)
        = passSpace false false false m.next (c :: cs) := by
      simp [passSpace, isBreak, Mark.after, Mark.next]
      rfl
    rw [hspace, passSpace_of_isSolid hsolid]
  have houter : ∀ i ∈ (column :: columns).head?, i ≤ m.next.column := by
    simp only [List.head?_cons, Option.mem_some_iff, forall_eq', Mark.next]
    omega
  have hinner : ∀ i ∈ ([] : List Nat), m.next.column < i := by simp
  exact goToToken_resting (c := ⟨m, ' ' :: c :: cs⟩) hpass hinner houter n

/-- The reader goes over a token that is a value. -/
theorem leads_value (hm : column < m.column) (token : Token) {c : Char} (hsolid : isSolid c) {cs : List Char}
    {c' : Cursor} {keyAllowed : Bool} {n : Nat}
    (hread : readAt c (resting ⟨m.next, c :: cs⟩ (column :: columns) false n)
      = .ok ⟨c', column :: columns, none, [], keyAllowed, [token], n⟩)
    (hlength : c'.rest.length ≤ cs.length) :
    Leads (resting ⟨m, ' ' :: c :: cs⟩ (column :: columns) false n) [token.sign]
      (resting c' (column :: columns) keyAllowed (n + 1)) := by
  have hstep := (step_of_goToToken (goToToken_value columns hm hsolid cs n) rfl).trans hread
  exact Leads.of_step_resting hstep (by simp only [resting, List.length_cons]; omega)

/-- A plain scalar is a value, up to the next line. -/
theorem leads_plain (hm : column < m.column) {t : List Char} (ht : Scalar.IsPlain t) {l : Line}
    (hl : l.column ≤ column) (n : Nat) :
    ∃ (c : Cursor) (n' : Nat), c.ComesTo true l ∧
      Leads (resting ⟨m, ' ' :: (t ++ '\n' :: l.text)⟩ (column :: columns) false n) [.scalar .plain t]
        (resting c (column :: columns) true n') := by
  have hnext : column + 1 ≤ m.next.column ∧ 0 < m.next.column := by
    simp only [Mark.next]
    omega
  obtain ⟨m', hm', hnewline⟩ := PlainScalar.read_newline l (Nat.lt_succ_of_le hl) m.next (m.next.passing t)
  have hread : PlainScalar.read false (column + 1) m.next m.next .none (t ++ '\n' :: l.text)
      = .ok ⟨t, true, ⟨m', l.rest⟩⟩ := by
    rw [PlainScalar.read_append ht.hasInner_eq_false ht.not_isBreak ht.not_isBlank.2 rfl
      (by simp [Gap.isSome]) (fun _ => rfl) (fun _ => hnext), hnewline]
    simp [PlainScalar.put, Gap.text]
  refine ⟨⟨m', l.rest⟩, n + 1, l.comesTo_rest hm', ?_⟩
  obtain ⟨d, ds, rfl⟩ := List.exists_cons_of_ne_nil ht.ne_nil
  have hplain : readAt d (resting ⟨m.next, d :: (ds ++ '\n' :: l.text)⟩ (column :: columns) false n)
      = .ok ⟨⟨m', l.rest⟩, column :: columns, none, [], true, [⟨.scalar .plain (d :: ds), m.next⟩], n⟩ := by
    have hcolumn : m.next.column ≠ 0 := by omega
    have hat := readAt_of_isPlain ht (s := resting ⟨m.next, d :: (ds ++ '\n' :: l.text)⟩ (column :: columns) false n)
      rfl rfl (.inl hcolumn)
    rw [hat]
    simp only [List.cons_append] at hread
    simp only [readPlain, resting, saveCandidate, Bool.false_eq_true, if_false, bind, Except.bind, inFlow,
      List.isEmpty_nil, Bool.not_true, List.head?_cons, mark, hread]
    rfl
  have hlength := l.length_rest_le
  exact leads_value columns hm _ ht.isSolid_head hplain (by simp only [List.length_append, List.length_cons]; omega)

/-- A quoted scalar is a value, up to the end of its line. -/
theorem leads_quoted (hm : column < m.column) (isDouble : Bool) (body : List Char) {t : List Char} {l : Line}
    (hread : ∃ m' : Mark, QuotedScalar.read isDouble m.next m.next.next (.gap .none) (body ++ '\n' :: l.text)
      = .ok (t, ⟨m', '\n' :: l.text⟩)) (n : Nat) :
    ∃ (c : Cursor) (n' : Nat), c.ComesTo false l ∧
      Leads (resting ⟨m, ' ' :: (if isDouble then '"' else '\'') :: (body ++ '\n' :: l.text)⟩ (column :: columns)
        false n) [.scalar .quoted t] (resting c (column :: columns) false n') := by
  obtain ⟨m', hread⟩ := hread
  refine ⟨⟨m', '\n' :: l.text⟩, n + 1, l.comesTo_newline m' false, ?_⟩
  refine leads_value columns hm ⟨.scalar .quoted t, m.next⟩ (by cases isDouble <;> rfl) ?_ (by simp)
  have hquote : readAt (if isDouble then '"' else '\'') (resting ⟨m.next, (if isDouble then '"' else '\'') ::
      (body ++ '\n' :: l.text)⟩ (column :: columns) false n) = readLeading (readQuoted isDouble) (resting ⟨m.next,
        (if isDouble then '"' else '\'') :: (body ++ '\n' :: l.text)⟩ (column :: columns) false n) := by
    cases isDouble <;> simp [readAt, resting, Cursor.isSign]
  have hnext : (m.next).after (if isDouble then '"' else '\'') = m.next.next := by cases isDouble <;> rfl
  rw [hquote]
  simp only [readLeading, saveCandidate, resting, Bool.false_eq_true, if_false, bind, Except.bind, readQuoted,
    mark, Cursor.next, hnext, hread, pure, Except.pure]
  rfl

/-- A literal block is a value, up to the next line. -/
theorem leads_literal (hm : column < m.column) {t : List Char} (hne : t ≠ []) (hprintable : ∀ c ∈ t, isPrintable c)
    {l : Line} (hl : l.column ≤ column) (n : Nat) :
    ∃ (c : Cursor) (n' : Nat), c.ComesTo true l ∧
      Leads (resting ⟨m, ' ' :: '|' :: (Scalar.literalMarks t ++ '\n' :: (Scalar.literalBody (column + 2) true t
        ++ (BlockScalar.lineEnd t ++ l.text)))⟩ (column :: columns) false n) [.scalar .literal t]
        (resting c (column :: columns) true n') := by
  obtain ⟨m', hm', hread⟩ := BlockScalar.read_literal hne hprintable l hl m.next m.next.next
  refine ⟨⟨m', l.rest⟩, n + 1, l.comesTo_rest hm', ?_⟩
  refine leads_value columns hm ⟨.scalar .literal t, m.next⟩ rfl ?_ ?_
  · have hsign (cs : List Char) : readAt '|' (resting ⟨m.next, '|' :: cs⟩ (column :: columns) false n)
        = readBlock false (resting ⟨m.next, '|' :: cs⟩ (column :: columns) false n) := by
      simp [readAt, resting, Cursor.isSign, inFlow]
    have hnext : (m.next).after '|' = m.next.next := rfl
    rw [hsign]
    simp only [readBlock, giveUpLatest, resting, Bool.false_eq_true, if_false, bind, Except.bind, List.head?_cons,
      Option.getD_some, mark, Cursor.next, hnext, hread, pure, Except.pure]
    rfl
  · have hlength := l.length_rest_le
    simp only [List.length_append, List.length_cons]
    omega

/-- A text is a value in its style, up to the next line. -/
theorem leads_text (hm : column < m.column) (t : List Char) {l : Line} (hl : l.column ≤ column) (n : Nat) :
    ∃ (c : Cursor) (keyAllowed : Bool) (n' : Nat), c.ComesTo keyAllowed l ∧
      Leads (resting ⟨m, ' ' :: (Scalar.writeLine (column + 2) t ++ l.text)⟩ (column :: columns) false n)
        [.scalar (Scalar.style t).form t] (resting c (column :: columns) keyAllowed n') := by
  have hholds := Scalar.holds_style t
  have hcolumn : m.next.next.column ≠ 0 := by simp [Mark.next]
  rw [Scalar.writeLine]
  cases hs : Scalar.style t with
  | plain =>
    rw [hs] at hholds
    obtain ⟨c, n', hc, h⟩ := leads_plain columns hm hholds.1 hl n
    exact ⟨c, true, n', hc, by simpa [Scalar.writeAs, Scalar.Style.form] using h⟩
  | singleQuoted =>
    rw [hs] at hholds
    have hread := QuotedScalar.read_single hholds (show 0 < column + 2 by omega) (g := .none) rfl
      (m := m.next.next) (fun h => absurd h hcolumn) m.next (show ('\n' :: l.text).head? ≠ some '\'' by simp)
    obtain ⟨c, n', hc, h⟩ := leads_quoted columns hm false (Scalar.singleBody (column + 2) false t ++ ['\''])
      (by simpa [Gap.text] using hread) n
    exact ⟨c, false, n', hc, by simpa [Scalar.writeAs, Scalar.Style.form] using h⟩
  | doubleQuoted =>
    have hread := QuotedScalar.read_double t hcolumn (g := .none) rfl m.next ('\n' :: l.text)
    obtain ⟨c, n', hc, h⟩ := leads_quoted columns hm true (t.flatMap Scalar.escape ++ ['"'])
      (by simpa [Gap.text] using hread) n
    exact ⟨c, false, n', hc, by simpa [Scalar.writeAs, Scalar.Style.form] using h⟩
  | literal =>
    rw [hs] at hholds
    obtain ⟨c, n', hc, h⟩ := leads_literal columns hm hholds.1 hholds.2 hl n
    exact ⟨c, true, n', hc, by simpa [Scalar.writeAs, Scalar.Style.form, BlockScalar.lineEnd] using h⟩

/-- A list without items is a value, up to the end of its line. -/
theorem leads_emptyList (hm : column < m.column) (l : Line) (n : Nat) :
    ∃ (c : Cursor) (n' : Nat), c.ComesTo false l ∧
      Leads (resting ⟨m, ' ' :: '[' :: ']' :: '\n' :: l.text⟩ (column :: columns) false n) [.flowList, .flowListEnd]
        (resting c (column :: columns) false n') := by
  refine ⟨⟨m.next.next.next, '\n' :: l.text⟩, n + 2, l.comesTo_newline _ false, ?_⟩
  have hopen : readAt '[' (resting ⟨m.next, '[' :: ']' :: '\n' :: l.text⟩ (column :: columns) false n)
      = .ok ⟨⟨m.next.next, ']' :: '\n' :: l.text⟩, column :: columns, none, [none], true, [⟨.flowList, m.next⟩], n⟩ := by
    have hsign : readAt '[' (resting ⟨m.next, '[' :: ']' :: '\n' :: l.text⟩ (column :: columns) false n)
        = openFlow .flowList (resting ⟨m.next, '[' :: ']' :: '\n' :: l.text⟩ (column :: columns) false n) := by
      simp [readAt, resting, Cursor.isSign]
    rw [hsign]
    rfl
  have hclose : step ⟨⟨m.next.next, ']' :: '\n' :: l.text⟩, column :: columns, none, [none], true, [], n + 1⟩
      = .ok ⟨⟨m.next.next.next, '\n' :: l.text⟩, column :: columns, none, [], false,
        [⟨.flowListEnd, m.next.next⟩], n + 1⟩ := by
    rfl
  have hstep := (step_of_goToToken (goToToken_value columns hm (c := '[') rfl (']' :: '\n' :: l.text) n) rfl).trans hopen
  have hfirst := Leads.of_step hstep rfl (by simp [resting])
  have hlast := Leads.of_step_resting hclose (by simp)
  exact hfirst.trans hlast

end Values

/-! ## Lists and the end -/

/-- From a line that begins with a dash at the column of the record around it the reader goes on behind the
dash, where keys are allowed. -/
theorem leads_item {rest : List Char} {c : Cursor} {keyAllowed : Bool} {l : Line} (hl : l.rest = '-' :: ' ' :: rest)
    (hc : c.ComesTo keyAllowed l) {inner : List Nat} (hinner : ∀ i ∈ inner, l.column < i) (columns : List Nat)
    (n : Nat) :
    ∃ (m : Mark) (n' : Nat), m.column = l.column + 1 ∧
      Leads (resting c (inner ++ l.column :: columns) keyAllowed n) (List.replicate inner.length .blockEnd ++ [.item])
        (resting ⟨m, ' ' :: rest⟩ (l.column :: columns) true n') := by
  obtain ⟨m, hm, hpass⟩ := hc
  rw [hl] at hpass
  rw [← hm] at hinner ⊢
  have hgo := goToToken_resting hpass hinner (show ∀ i ∈ (m.column :: columns).head?, i ≤ m.column by simp) n
  have hitem (waiting : List Token) :
      readAt '-' ⟨⟨m, '-' :: ' ' :: rest⟩, m.column :: columns, none, [], true, waiting, n⟩
        = .ok ⟨⟨m.after '-', ' ' :: rest⟩, m.column :: columns, none, [], true, ⟨.item, m⟩ :: waiting, n⟩ := by
    have hsecond : Cursor.second? ⟨m, '-' :: ' ' :: rest⟩ = some ' ' := rfl
    have hread : readAt '-' ⟨⟨m, '-' :: ' ' :: rest⟩, m.column :: columns, none, [], true, waiting, n⟩
        = readItem ⟨⟨m, '-' :: ' ' :: rest⟩, m.column :: columns, none, [], true, waiting, n⟩ := by
      simp [readAt, hsecond, Cursor.isSign, isBlankOrEnd, isBlank]
    rw [hread]
    simp [readItem, inFlow, openHere, isOpening, mark, giveUpLatest, bind, Except.bind, pure, Except.pure, pass, add,
      allowKey, Cursor.next]
  have hstep := (step_of_goToToken hgo rfl).trans (hitem _)
  have hlength : (' ' :: rest).length < c.rest.length := by
    have := length_passSpace_le false false keyAllowed c.mark c.rest
    rw [hpass] at this
    simp only [List.length_cons] at this ⊢
    omega
  have hleads := Leads.of_step_resting hstep hlength
  refine ⟨m.after '-', n + (inner.length + 1), by rw [Mark.after_of_not_isBreak rfl], ?_⟩
  simpa [Function.comp_def, List.map_const'] using hleads

/-- At the end of a text all collections end, and the tokens end. What is behind them is never looked at. -/
theorem signs_finish {c : Cursor} {keyAllowed : Bool} (hc : c.ComesTo keyAllowed .finish) {inner : List Nat}
    (hinner : ∀ i ∈ inner, 0 < i) (n : Nat) :
    ∃ more : List Sign, (Tokens.ofLayout none (resting c (inner ++ [0]) keyAllowed n)).list.map Token.sign
      = List.replicate (inner.length + 1) .blockEnd ++ .streamEnd :: more := by
  obtain ⟨m, hm, hpass⟩ := hc
  have hcolumn : m.column = 0 := hm
  have hgo := goToToken_resting hpass (by simpa [hcolumn] using hinner)
    (show ∀ i ∈ [0].head?, i ≤ m.column by simp) n
  have hstep : (resting c (inner ++ [0]) keyAllowed n).step = .ok ⟨⟨m, []⟩, [], none, [], false,
      ⟨.streamEnd, m⟩ :: ⟨.blockEnd, m⟩ :: inner.map (fun _ => ⟨.blockEnd, m⟩), n⟩ := by
    simp only [step, hgo, bind, Except.bind]
    simp [Line.finish, endStream, mark, hcolumn, close, inFlow, giveUpLatest, bind, Except.bind, pure, Except.pure,
      allowKey, add]
  have hgive : giveUp ⟨⟨m, []⟩, [], none, [], false,
      ⟨.streamEnd, m⟩ :: ⟨.blockEnd, m⟩ :: inner.map (fun _ => ⟨.blockEnd, m⟩), n⟩ = _ := giveUp_eq_self rfl rfl
  rw [Tokens.ofLayout]
  simp only [hstep, Except.bind, hgive, Option.filter_none]
  split
  · exact ⟨_, by simp [release, candidates, Tokens.after, List.map_const', List.replicate_succ']; rfl⟩
  · exact ⟨[], by simp [release, candidates, List.map_const', List.replicate_succ']⟩

end Layout

end StartupConfig.Yaml
