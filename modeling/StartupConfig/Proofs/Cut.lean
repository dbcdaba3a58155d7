import StartupConfig.Logging.Filter

/-!
# Where texts can be cut

A place is a boundary if some beginning of the text has just so many bytes. Between two boundaries a part can be cut out,
inside a character it cannot. The places that are found in a directive are boundaries of the text without the blanks at
its ends, so reading a directive breaks off only if it begins with a blank.
-/
namespace StartupConfig

@[simp] theorem Utf8.size_nil : Utf8.size [] = 0 := rfl

@[simp] theorem Utf8.size_cons (c : Char) (cs : List Char) : Utf8.size (c :: cs) = c.utf8Size + Utf8.size cs := rfl

@[simp] theorem Utf8.size_append (a b : List Char) : Utf8.size (a ++ b) = Utf8.size a + Utf8.size b := by
  induction a with
  | nil => simp
  | cons c cs ih => simp [ih, Nat.add_assoc]

namespace Cut

/-- A beginning of the text ends at the place. -/
def IsBoundary (text : List Char) (place : Nat) : Prop :=
  ∃ before behind, text = before ++ behind ∧ place = Utf8.size before

theorem isBoundary_size (text : List Char) : IsBoundary text (Utf8.size text) := ⟨text, [], by simp, rfl⟩

theorem around?_append (place first : Nat) (before behind : List Char) (h : first + Utf8.size before ≤ place) :
    around? place first (before ++ behind) = around? place (first + Utf8.size before) behind := by
  induction before generalizing first with
  | nil => simp
  | cons c cs ih =>
    have hc : ¬(first < place ∧ place < first + c.utf8Size) := by
      rw [Utf8.size_cons] at h
      omega
    rw [List.cons_append, around?, if_neg hc, ih (first + c.utf8Size) (by rw [Utf8.size_cons] at h; omega),
      Utf8.size_cons, Nat.add_assoc]

/-- What begins at a place or behind it is not around it. -/
theorem around?_of_le {place first : Nat} (h : place ≤ first) (cs : List Char) : around? place first cs = none := by
  induction cs generalizing first with
  | nil => rfl
  | cons c cs ih =>
    rw [around?, if_neg (by omega), ih (by omega)]

/-- No character is around a boundary. -/
theorem around?_of_isBoundary {text : List Char} {place : Nat} (h : IsBoundary text place) :
    around? place 0 text = none := by
  obtain ⟨before, behind, rfl, rfl⟩ := h
  rw [around?_append _ _ _ _ (by omega), around?_of_le (by omega)]

/-! ## Cutting parts out -/

theorem characters_of_le {first last place : Nat} (h : last ≤ place) (cs : List Char) :
    characters first last place cs = [] := by
  induction cs generalizing place with
  | nil => rfl
  | cons c cs ih =>
    simp only [characters]
    rw [if_neg (by omega), ih (by omega)]

theorem characters_append_of_le {first last place : Nat} (before behind : List Char)
    (h : place + Utf8.size before ≤ first) :
    characters first last place (before ++ behind) = characters first last (place + Utf8.size before) behind := by
  induction before generalizing place with
  | nil => simp
  | cons c cs ih =>
    have hc : 0 < c.utf8Size := c.utf8Size_pos
    rw [Utf8.size_cons] at h
    simp only [List.cons_append, characters]
    rw [if_neg (by omega), ih (by omega), Utf8.size_cons, Nat.add_assoc]

theorem characters_append_of_ge {first last place : Nat} (between behind : List Char) (hfirst : first ≤ place)
    (hlast : place + Utf8.size between ≤ last) :
    characters first last place (between ++ behind)
      = between ++ characters first last (place + Utf8.size between) behind := by
  induction between generalizing place with
  | nil => simp
  | cons c cs ih =>
    have hc : 0 < c.utf8Size := c.utf8Size_pos
    rw [Utf8.size_cons] at hlast
    simp only [List.cons_append, characters]
    rw [if_pos (by omega), ih (by omega) (by omega), Utf8.size_cons, Nat.add_assoc]

theorem part_of_isBoundary {text : List Char} {first last : Nat} (hfirst : IsBoundary text first)
    (hlast : IsBoundary text last) : part text first last = .ok (characters first last 0 text) := by
  rw [part, around?_of_isBoundary hfirst, around?_of_isBoundary hlast]

/-- What stands between two boundaries is cut out. -/
theorem part_append (before between behind : List Char) :
    part (before ++ between ++ behind) (Utf8.size before) (Utf8.size before + Utf8.size between) = .ok between := by
  have hfirst : IsBoundary (before ++ between ++ behind) (Utf8.size before) := ⟨before, between ++ behind, by simp, rfl⟩
  have hlast : IsBoundary (before ++ between ++ behind) (Utf8.size before + Utf8.size between) :=
    ⟨before ++ between, behind, by simp, by simp⟩
  rw [part_of_isBoundary hfirst hlast, List.append_assoc, characters_append_of_le _ _ (by omega),
    characters_append_of_ge _ _ (by omega) (by omega), characters_of_le (by omega), List.append_nil]

end Cut

/-- The character of the text that begins at `first` is around the place. -/
def SplitCharacter.IsIn (s : SplitCharacter) (text : List Char) : Prop :=
  ∃ before behind, text = before ++ s.character :: behind ∧ s.first = Utf8.size before ∧
    s.first < s.place ∧ s.place < s.first + s.character.utf8Size

namespace Cut

theorem exists_of_around? {place first : Nat} {text : List Char} {c : Char} {at_ : Nat}
    (h : around? place first text = some (c, at_)) :
    ∃ before behind, text = before ++ c :: behind ∧ at_ = first + Utf8.size before ∧
      at_ < place ∧ place < at_ + c.utf8Size := by
  induction text generalizing first with
  | nil => cases h
  | cons x xs ih =>
    rw [around?] at h
    split at h
    · next hx =>
      obtain ⟨rfl, rfl⟩ := Prod.mk.inj (Option.some.inj h)
      exact ⟨[], xs, rfl, by simp, hx⟩
    · obtain ⟨before, behind, rfl, hat, hplace⟩ := ih h
      exact ⟨x :: before, behind, rfl, by rw [hat, Utf8.size_cons, Nat.add_assoc], hplace⟩

/-- What is said about a place inside a character is so. -/
theorem isIn_of_part {text : List Char} {first last : Nat} {s : SplitCharacter} (h : part text first last = .error s) :
    s.IsIn text := by
  unfold part at h
  split at h
  · next hfirst =>
    cases h
    obtain ⟨before, behind, htext, hat, hplace⟩ := exists_of_around? hfirst
    exact ⟨before, behind, htext, by simpa using hat, hplace⟩
  · next hlast =>
    cases h
    obtain ⟨before, behind, htext, hat, hplace⟩ := exists_of_around? hlast
    exact ⟨before, behind, htext, by simpa using hat, hplace⟩
  · cases h

end Cut

namespace WrittenDirective

/-! ## Reading a directive -/

variable {text : List Char} {first last : Nat} {s : SplitCharacter}

theorem isIn_of_partOf (h : partOf text first last = .error (.split s)) : s.IsIn text := by
  unfold partOf at h
  split at h
  · cases h
  · next hpart =>
    cases h
    exact Cut.isIn_of_part hpart

theorem partOf_ne_refused : partOf text first last ≠ .error .refused := by
  unfold partOf
  split <;> simp

theorem exists_partOf (hfirst : Cut.IsBoundary text first) (hlast : Cut.IsBoundary text last) :
    ∃ t, partOf text first last = .ok t := by
  rw [partOf, Cut.part_of_isBoundary hfirst hlast]
  exact ⟨_, rfl⟩

/-- The place at which the part that is being read begins. -/
def Part.first? : Part → Option Nat
  | .word first => some first
  | .span first => some first
  | .field first => some first
  | .level first => some first
  | _ => none

/-- What reading one character at a place can come to: the part in front of it cannot be cut out, or it is refused, or it
is read. Then a part that is being read goes on, or one begins at the character or behind it. -/
inductive Progress (text : List Char) (place : Nat) (c : Char) (p : Part) :
    Except FilterFault (WrittenDirective × Part) → Prop
  | split {first : Nat} {s : SplitCharacter} (hfirst : p.first? = some first)
      (hpart : partOf text first place = .error (.split s)) : Progress text place c p (.error (.split s))
  | refused : Progress text place c p (.error .refused)
  | read {d : WrittenDirective} {p' : Part} (hfirst : ∀ first, p'.first? = some first →
      p.first? = some first ∨ first = place ∨ first = place + c.utf8Size) : Progress text place c p (.ok (d, p'))

namespace Progress

variable {place : Nat} {c : Char} {d : WrittenDirective} {p : Part}

theorem goesOn : Progress text place c p (.ok (d, p)) := .read fun _ h => .inl h

/-- A mark of one byte begins a part behind it, or none. -/
theorem marked {p' : Part} (hc : c.utf8Size = 1) (h : ∀ first, p'.first? = some first → first = place + 1) :
    Progress text place c p (.ok (d, p')) := .read fun first hfirst => .inr (.inr (hc ▸ h first hfirst))

theorem ofPart {f : List Char → Except FilterFault (WrittenDirective × Part)} (hfirst : p.first? = some first)
    (h : ∀ t, Progress text place c p (f t)) : Progress text place c p (partOf text first place >>= f) := by
  cases hpart : partOf text first place with
  | ok t => exact h t
  | error e =>
    cases e with
    | split s => exact .split hfirst hpart
    | refused => exact absurd hpart partOf_ne_refused

end Progress

/-- Every step is of this kind. -/
theorem progress_step (text : List Char) (place : Nat) (c : Char) (d : WrittenDirective) (p : Part) :
    Progress text place c p (step text place c d p) := by
  have hbehind {p' : Part} (h : p'.first? = some (place + 1)) (first : Nat) (hfirst : p'.first? = some first) :
      first = place + 1 := Option.some.inj (hfirst.symm.trans h)
  cases p with
  | start =>
    simp only [step]
    split
    · next hc => exact .marked (hc ▸ rfl) (hbehind rfl)
    · split
      · exact .read fun first h => .inr (.inl (Option.some.inj h).symm)
      · exact .refused
  | word first =>
    simp only [step]
    split
    · next hc => exact .ofPart rfl fun t => .marked (hc ▸ rfl) (hbehind rfl)
    · split
      · next hc => exact .ofPart rfl fun t => .marked (hc ▸ rfl) (hbehind rfl)
      · exact .goesOn
  | span first =>
    simp only [step]
    split
    · next hc => exact .ofPart rfl fun t => .marked (hc ▸ rfl) nofun
    · split
      · next hc => exact .ofPart rfl fun t => .marked (hc ▸ rfl) (hbehind rfl)
      · exact .goesOn
  | field first =>
    simp only [step]
    split
    · next hc =>
      refine .ofPart rfl fun t => ?_
      cases fieldOf? t with
      | none => exact .refused
      | some f => exact .marked (hc ▸ rfl) nofun
    · exact .goesOn
  | fields =>
    simp only [step]
    split
    · next hc => exact .marked (hc ▸ rfl) nofun
    · exact .refused
  | target =>
    simp only [step]
    split
    · next hc => exact .marked (hc ▸ rfl) (hbehind rfl)
    · exact .refused
  | level first => exact .goesOn

/-- What is said of a place inside a character when a directive is read is so. -/
theorem isIn_of_scan {place : Nat} {d : WrittenDirective} {p : Part} {cs : List Char}
    (h : scan text place d p cs = .error (.split s)) : s.IsIn text := by
  induction cs generalizing place d p with
  | nil => cases h
  | cons c cs ih =>
    rw [scan] at h
    have hstep := progress_step text place c d p
    generalize step text place c d p = r at hstep h
    cases hstep with
    | split hfirst hpart =>
      cases h
      exact isIn_of_partOf hpart
    | refused => cases h
    | read hfirst => exact ih h

/-- A part begins at a boundary. -/
def Part.IsPlaced (text : List Char) (p : Part) : Prop := ∀ first, p.first? = some first → Cut.IsBoundary text first

/-- At boundaries of the text a part that begins at one is always cut out, so reading goes on with such a part. -/
theorem scan_isPlaced (before : List Char) {cs behind : List Char} (d : WrittenDirective) {p : Part}
    (htext : text = before ++ cs ++ behind) (hp : p.IsPlaced text) :
    scan text (Utf8.size before) d p cs = .error .refused ∨
    ∃ d' p', scan text (Utf8.size before) d p cs = .ok (d', p') ∧ p'.IsPlaced text := by
  induction cs generalizing before d p with
  | nil => exact .inr ⟨d, p, rfl, hp⟩
  | cons c cs ih =>
    have hplace : Cut.IsBoundary text (Utf8.size before) := ⟨before, c :: cs ++ behind, by simp [htext], rfl⟩
    have hnext : Cut.IsBoundary text (Utf8.size before + c.utf8Size) :=
      ⟨before ++ [c], cs ++ behind, by simp [htext], by simp⟩
    rw [scan]
    have hstep := progress_step text (Utf8.size before) c d p
    generalize step text (Utf8.size before) c d p = r at hstep
    cases hstep with
    | split hfirst hpart =>
      obtain ⟨t, ht⟩ := exists_partOf (hp _ hfirst) hplace
      rw [ht] at hpart
      cases hpart
    | refused => exact .inl rfl
    | @read d' p' hfirst =>
      have hp' : p'.IsPlaced text := by
        intro first h
        rcases hfirst first h with h | rfl | rfl
        · exact hp first h
        · exact hplace
        · exact hnext
      have hgoal := ih (before ++ [c]) d' (by simp [htext]) hp'
      rwa [Utf8.size_append, Utf8.size_cons, Utf8.size_nil, Nat.add_zero] at hgoal

theorem partOf_of_bind {α : Type} {f : List Char → Except FilterFault α} (hf : ∀ t, f t ≠ .error (.split s))
    (h : partOf text first last >>= f = .error (.split s)) : partOf text first last = .error (.split s) := by
  cases hpart : partOf text first last with
  | ok t =>
    rw [hpart] at h
    exact absurd h (hf t)
  | error e =>
    rw [hpart] at h
    cases h
    rfl

/-- Behind the last mark only the part that is being read is cut out. -/
theorem exists_part_of_finish {d : WrittenDirective} {p : Part} (h : finish text d p = .error (.split s)) :
    ∃ first, p.first? = some first ∧ partOf text first (Utf8.size text) = .error (.split s) := by
  cases p with
  | word first =>
    refine ⟨first, rfl, partOf_of_bind (fun t => ?_) h⟩
    split <;> exact nofun
  | level first =>
    refine ⟨first, rfl, partOf_of_bind (fun t => ?_) h⟩
    split <;> exact nofun
  | _ => cases h

theorem isIn_of_finish {d : WrittenDirective} {p : Part} (h : finish text d p = .error (.split s)) : s.IsIn text := by
  obtain ⟨first, -, hpart⟩ := exists_part_of_finish h
  exact isIn_of_partOf hpart

theorem finish_ne_split {d : WrittenDirective} {p : Part} (hp : p.IsPlaced text) :
    finish text d p ≠ .error (.split s) := by
  intro h
  obtain ⟨first, hfirst, hpart⟩ := exists_part_of_finish h
  obtain ⟨t, ht⟩ := exists_partOf (hp first hfirst) (Cut.isBoundary_size text)
  rw [ht] at hpart
  cases hpart

/-! ## Blanks in front of a directive -/

/-- The first character is a blank. -/
def BeginsWithBlank (directive : List Char) : Prop := ∃ c cs, directive = c :: cs ∧ isBlank c

/-- Without blanks in front only those at the end are taken off. -/
theorem exists_trim (h : ¬BeginsWithBlank text) : ∃ blanks, text = trim text ++ blanks := by
  have hfront : text.dropWhile isBlank = text := by
    cases text with
    | nil => rfl
    | cons c cs =>
      have hc : ¬isBlank c := fun hc => h ⟨c, cs, rfl, hc⟩
      rw [List.dropWhile_cons_of_neg hc]
  refine ⟨(text.reverse.takeWhile isBlank).reverse, ?_⟩
  rw [trim, hfront, ← List.reverse_append, List.takeWhile_append_dropWhile, List.reverse_reverse]

/-- What is said of a place inside a character is so. -/
theorem isIn_of_read (h : read text = .error (.split s)) : s.IsIn text := by
  unfold read at h
  cases hscan : scan text 0 blank .start (trim text) with
  | error e =>
    rw [hscan] at h
    cases h
    exact isIn_of_scan hscan
  | ok r =>
    rw [hscan] at h
    exact isIn_of_finish h

/-- Reading breaks off only behind a blank. -/
theorem beginsWithBlank_of_read (h : read text = .error (.split s)) : BeginsWithBlank text := by
  apply Classical.byContradiction
  intro hfront
  obtain ⟨blanks, htext⟩ := exists_trim hfront
  have hstart : Part.start.IsPlaced text := nofun
  have hscan : scan text 0 blank .start (trim text) = .error .refused ∨
      ∃ d p, scan text 0 blank .start (trim text) = .ok (d, p) ∧ p.IsPlaced text :=
    scan_isPlaced [] blank htext hstart
  unfold read at h
  rcases hscan with hscan | ⟨d, p, hscan, hp⟩
  · rw [hscan] at h
    cases h
  · rw [hscan] at h
    exact finish_ne_split hp h

end WrittenDirective

theorem exists_mem_of_mapM_eq_error {α β ε : Type} {f : α → Except ε β} {xs : List α} {e : ε}
    (h : xs.mapM f = .error e) : ∃ x ∈ xs, f x = .error e := by
  induction xs with
  | nil => cases h
  | cons x xs ih =>
    rw [List.mapM_cons] at h
    cases hx : f x with
    | error e' =>
      rw [hx] at h
      cases h
      exact ⟨x, List.mem_cons_self, hx⟩
    | ok y =>
      rw [hx] at h
      cases hxs : xs.mapM f with
      | error e' =>
        simp only [hxs] at h
        cases h
        obtain ⟨x', hmem, hx'⟩ := ih hxs
        exact ⟨x', List.mem_cons_of_mem x hmem, hx'⟩
      | ok ys =>
        simp only [hxs] at h
        cases h

namespace Filter

/-! ## Reading a filter -/

/-- Reading a filter breaks off in a directive that begins with a blank, inside one of its characters. -/
theorem exists_directive_of_split? {text : String} {s : SplitCharacter} (h : split? text = some s) :
    ∃ directive ∈ splitAtCommas text.toList, WrittenDirective.BeginsWithBlank directive ∧ s.IsIn directive := by
  have hread : read text = .error (.split s) := by
    unfold split? at h
    split at h
    · next hread =>
      cases h
      exact hread
    · cases h
  unfold read at hread
  cases hparts : ((splitAtCommas text.toList).filter fun t => !t.isEmpty).mapM WrittenDirective.read with
  | ok ds =>
    simp only [hparts] at hread
    change (if _ then _ else _) = _ at hread
    split at hread <;> cases hread
  | error e =>
    simp only [hparts] at hread
    cases hread
    obtain ⟨directive, hmem, hdirective⟩ := exists_mem_of_mapM_eq_error hparts
    exact ⟨directive, (List.mem_filter.1 hmem).1, WrittenDirective.beginsWithBlank_of_read hdirective,
      WrittenDirective.isIn_of_read hdirective⟩

/-- Reading a filter that is accepted does not break off. -/
theorem split?_of_read? {text : String} {f : Filter} (h : read? text = some f) : split? text = none := by
  unfold read? at h
  unfold split?
  split at h
  · next hread => rw [hread]
  · cases h

/-- Reading breaks off, or the filter that is accepted is chosen, and without one that of the verbosity. -/
theorem chosen_eq (written : Option String) (verbosity : Nat) :
    chosen written verbosity =
      match written.bind split? with
      | some s => .error s
      | none => .ok ((written.bind read?).getD (ofLevel (verbosityLevel verbosity))) := by
  cases written with
  | none => rfl
  | some text =>
    simp only [chosen, Option.map_some, Option.bind_some, split?, read?]
    cases read text with
    | ok f => rfl
    | error e => cases e <;> rfl

end Filter

end StartupConfig
