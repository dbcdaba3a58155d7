import Mathlib.Algebra.GroupWithZero.Nat
import StartupConfig.Proofs.CommandLine.Items

/-!
# What a scope gathers

The requests for more and the colour flags of a scope can be told from its arguments one by one (`takeAll_gains`), though
a value may be held or awaited in between. The command is the first argument that is the word of one
(`exists_command_of_readProgram`): such a word is no value of a flag, so where it was taken for one, the reading fails as
soon as the value is stored.
-/
namespace StartupConfig.CommandLine

namespace Argument

/-- How often an argument asks for more: once by the long name, and once by each letter `v` behind one dash, up to the
letter that takes what follows as its value. -/
def requests (a : Argument) : Nat :=
  if a = ofText "--verbose" then 1
  else
    match a with
    | .scalar '-' :: c :: rest =>
      if c = .scalar '-' then 0 else ((c :: rest).takeWhile (· ≠ .scalar 'f')).count (.scalar 'v')
    | _ => 0

/-- Is the argument the colour flag, with or without a value behind it? -/
def isColorFlag (a : Argument) : Bool := a == ofText "--color" || (ofText "--color=").isPrefixOf a

/-- Is the argument the word of a command? -/
def isCommandWord (a : Argument) : Bool := (a.text?.bind Scope.ofWord?).isSome

end Argument

/-- The arguments in front of the first that is the word of a command. -/
def beforeCommand (as : List Argument) : List Argument := as.takeWhile fun a => !a.isCommandWord

/-- The arguments behind the first that is the word of a command. -/
def afterCommand (as : List Argument) : List Argument := (as.dropWhile fun a => !a.isCommandWord).tail

/-- The arguments among which there can be flags: those in front of two dashes alone. -/
def flagged (as : List Argument) : List Argument := as.takeWhile (· ≠ .ofText "--")

/-- How often arguments ask for more. -/
def requests (as : List Argument) : Nat := ((flagged as).map Argument.requests).sum

/-- Is the colour flag among the arguments? -/
def givesColor (as : List Argument) : Bool := (flagged as).any Argument.isColorFlag

/-- How often an item asks for more. -/
def Item.requests : Item → Nat
  | .raised .verbose => 1
  | _ => 0

/-- Does an item fill the colour? -/
def Item.isColor : Item → Bool
  | .raised _ => false
  | .awaited slot => slot == .color
  | .attached slot _ => slot == .color

/-- The slot that a value is awaited or held for. -/
def Waiting.slot? : Waiting → Option Slot
  | .nothing => none
  | .value slot => some slot
  | .held slot _ => some slot

/-- Was the colour flag met? Its value may still be awaited or held. -/
def Progress.isColored (p : Progress) : Bool := p.given.color.isSome || p.waiting.slot? == some .color

/-- From one progress to another there are some requests for more, counted up to the bound, and maybe a colour flag. -/
structure Progress.Gains (requests : Nat) (color : Bool) (p q : Progress) : Prop where
  verbose : p.given.verbose ≤ greatestVerbosity →
    q.given.verbose = min greatestVerbosity (p.given.verbose + requests)
  isColored : q.isColored = (p.isColored || color)

variable {scope : Scope} {slot : Slot} {p q r : Progress} {a : Argument} {items : List Item}

/-! ## Items -/

theorem Progress.Gains.refl (p : Progress) : Gains 0 false p p := by
  refine ⟨?_, (Bool.or_false _).symm⟩
  intro h
  exact (Nat.min_eq_right h).symm

theorem Progress.Gains.trans {m n : Nat} {b c : Bool} (h : Gains m b p q) (h' : Gains n c q r) :
    Gains (m + n) (b || c) p r := by
  constructor
  · intro hp
    have hq := h.verbose hp
    have hr := h'.verbose (by omega)
    omega
  · rw [h'.isColored, h.isColored, Bool.or_assoc]

theorem Progress.Gains.of_nothing {n : Nat} {c : Bool} (h : Gains 0 false p q) (h' : Gains n c q r) : Gains n c p r := by
  simpa using h.trans h'

theorem Given.fill_spec {g g' : Given} (h : g.fill slot a = .ok g') :
    g'.verbose = g.verbose ∧ g'.color.isSome = (g.color.isSome || slot == .color) := by
  cases slot with
  | shell =>
    obtain ⟨v, -, rfl⟩ := map_eq_ok_iff.1 h
    simp
  | _ =>
    rw [fill] at h
    split_ifs at h
    obtain ⟨v, -, rfl⟩ := map_eq_ok_iff.1 h
    simp

theorem Given.raise_spec {g g' : Given} {f : Flag} (h : g.raise f = .ok g') :
    g'.color = g.color ∧
    (g.verbose ≤ greatestVerbosity →
      g'.verbose = min greatestVerbosity (g.verbose + Item.requests (.raised f))) := by
  cases f
  case verbose =>
    cases h
    exact ⟨rfl, fun _ => rfl⟩
  all_goals
    simp only [raise] at h
    first
    | split_ifs at h
      cases h
    | cases h
    exact ⟨rfl, fun hg => (Nat.min_eq_right hg).symm⟩

theorem Progress.settle_spec (h : p.settle = .ok q) :
    Gains 0 false p q ∧ q.waiting = .nothing ∧ q.positionalsOnly = p.positionalsOnly := by
  cases hwaiting : p.waiting with
  | nothing =>
    simp only [settle, hwaiting] at h
    cases h
    exact ⟨.refl p, hwaiting, rfl⟩
  | value slot => exact absurd h (settle_value hwaiting)
  | held slot v =>
    simp only [settle, hwaiting] at h
    obtain ⟨g, hfill, rfl⟩ := map_eq_ok_iff.1 h
    obtain ⟨hverbose, hcolor⟩ := Given.fill_spec hfill
    refine ⟨⟨?_, ?_⟩, rfl, rfl⟩
    · intro hp
      exact hverbose.trans (Nat.min_eq_right hp).symm
    · simp [isColored, hcolor, hwaiting, Waiting.slot?]

theorem Progress.Puts.gains {item : Item} (h : p.Puts item q) :
    Gains item.requests item.isColor p q ∧ q.positionalsOnly = p.positionalsOnly := by
  cases h with
  | raised hsettle _ _ hraise =>
    obtain ⟨hgains, hwaiting, hopen⟩ := settle_spec hsettle
    obtain ⟨hcolor, hverbose⟩ := Given.raise_spec hraise
    refine ⟨hgains.of_nothing ⟨hverbose, ?_⟩, hopen⟩
    simp [isColored, hcolor, Item.isColor]
  | awaited slot hsettle =>
    obtain ⟨hgains, hwaiting, hopen⟩ := settle_spec hsettle
    refine ⟨hgains.of_nothing ⟨fun hp => (Nat.min_eq_right hp).symm, ?_⟩, hopen⟩
    simp [isColored, hwaiting, Waiting.slot?, Item.isColor]
  | attached hsettle hfill =>
    obtain ⟨hgains, hwaiting, hopen⟩ := settle_spec hsettle
    obtain ⟨hverbose, hcolor⟩ := Given.fill_spec hfill
    refine ⟨hgains.of_nothing ⟨fun hp => hverbose.trans (Nat.min_eq_right hp).symm, ?_⟩, hopen⟩
    simp [isColored, hwaiting, hcolor, Waiting.slot?, Item.isColor]

theorem Progress.PutsAll.gains (h : p.PutsAll items q) :
    Gains (items.map Item.requests).sum (items.any Item.isColor) p q ∧ q.positionalsOnly = p.positionalsOnly := by
  induction h with
  | nil p => exact ⟨.refl p, rfl⟩
  | cons hput _ ih => exact ⟨hput.gains.1.trans ih.1, ih.2.trans hput.gains.2⟩

/-! ## Arguments -/

/-- Letters ask for more as often as the items that they spell; no letter fills the colour. -/
theorem SpellsLetters.gains (h : SpellsLetters scope a items) :
    (a.takeWhile (· ≠ .scalar 'f')).count (.scalar 'v') = (items.map Item.requests).sum ∧
    items.any Item.isColor = false := by
  induction h with
  | nil => exact ⟨rfl, rfl⟩
  | @raised f c rest items _ hletter hslot _ ih =>
    obtain ⟨hcount, hcolor⟩ := ih
    have hflag : Utf8.Piece.scalar c ≠ .scalar 'f' ∧
        (if Utf8.Piece.scalar c == .scalar 'v' then 1 else 0) = Item.requests (.raised f) := by
      cases f <;> cases hletter <;> cases hslot <;> decide
    refine ⟨?_, by simp [Item.isColor, hcolor]⟩
    rw [List.takeWhile_cons_of_pos (by simpa using hflag.1), List.count_cons, hcount, hflag.2, List.map_cons,
      List.sum_cons, Nat.add_comm]
  | @awaited f c slot _ hletter hslot =>
    cases f <;> cases hletter <;> cases hslot
    exact ⟨rfl, rfl⟩
  | @assigned f c slot v _ hletter hslot =>
    cases f <;> cases hletter <;> cases hslot
    exact ⟨rfl, rfl⟩
  | @attached f c slot v _ hletter hslot =>
    cases f <;> cases hletter <;> cases hslot
    exact ⟨rfl, rfl⟩

theorem Spells.gains (h : Spells scope a items) :
    a.requests = (items.map Item.requests).sum ∧ a.isColorFlag = items.any Item.isColor := by
  cases h with
  | @raised f _ hslot => cases f <;> cases hslot <;> exact ⟨rfl, rfl⟩
  | @awaited f slot _ hslot => cases f <;> cases hslot <;> exact ⟨rfl, rfl⟩
  | @assigned f slot v _ hslot => cases f <;> cases hslot <;> exact ⟨rfl, rfl⟩
  | @letters c rest items hdash hspells =>
    obtain ⟨hcount, hcolor⟩ := hspells.gains
    constructor
    · rw [← hcount, Argument.requests, if_neg (by simp [Argument.ofText, hdash])]
      exact if_neg hdash
    · rw [hcolor]
      simp [Argument.isColorFlag, Argument.ofText, List.isPrefixOf, hdash, Ne.symm hdash]

theorem Argument.gains_of_plain (h : a.isDashed = false) : a.requests = 0 ∧ a.isColorFlag = false := by
  constructor
  · have hverbose : a ≠ ofText "--verbose" := ne_of_plain h _ _
    unfold requests
    rw [if_neg hverbose]
    split
    · exact absurd rfl (ne_of_plain h _ _)
    · rfl
  · rw [isColorFlag, Bool.or_eq_false_iff, beq_eq_false_iff_ne, ← Bool.not_eq_true, List.isPrefixOf_iff_prefix]
    refine ⟨ne_of_plain h _ _, ?_⟩
    rintro ⟨rest, rfl⟩
    exact ne_of_plain h _ _ rfl

theorem Spells.isDashed (h : Spells scope a items) : a.isDashed ∧ a ≠ .ofText "--" ∧ items ≠ [] := by
  cases h with
  | @raised f => exact ⟨rfl, by cases f <;> decide, List.cons_ne_nil _ _⟩
  | @awaited f => exact ⟨rfl, by cases f <;> decide, List.cons_ne_nil _ _⟩
  | @assigned f slot v => exact ⟨rfl, by simp [Flag.written, Argument.ofText], List.cons_ne_nil _ _⟩
  | letters hdash hspells =>
    refine ⟨rfl, ?_, ?_⟩
    · simp [Argument.ofText, hdash]
    · rintro rfl
      cases hspells

namespace Progress

/-- Two dashes alone end the flags; an argument behind them is no flag, whatever it looks like. -/
theorem Takes.gains (h : p.Takes scope a q) :
    (p.positionalsOnly = false → Gains a.requests a.isColorFlag p q) ∧
    (p.positionalsOnly = true → Gains 0 false p q) ∧
    q.positionalsOnly = (p.positionalsOnly || a == .ofText "--") := by
  cases h with
  | separator hopen ha =>
    subst ha
    exact ⟨fun _ => ⟨(Gains.refl p).verbose, (Gains.refl p).isColored⟩, by simp [hopen], by simp⟩
  | flags hopen hspells hputs =>
    obtain ⟨hrequests, hcolor⟩ := hspells.gains
    obtain ⟨hgains, hq⟩ := hputs.gains
    rw [hrequests, hcolor]
    refine ⟨fun _ => hgains, by simp [hopen], ?_⟩
    rw [hq, beq_eq_false_iff_ne.2 hspells.isDashed.2.1, Bool.or_false]
  | value hopen hdash hwaiting =>
    obtain ⟨hrequests, hcolor⟩ := Argument.gains_of_plain hdash
    have hne : a ≠ .ofText "--" := Argument.ne_of_plain hdash _ _
    rw [hrequests, hcolor]
    refine ⟨fun _ => ⟨(Gains.refl p).verbose, ?_⟩, by simp [hopen], by simp [hne]⟩
    simp [isColored, hwaiting, Waiting.slot?]
  | @positional slot p₁ hslot hdash hshell hheld hsettle =>
    obtain ⟨hgains, hwaiting, hopen⟩ := settle_spec hsettle
    have hheld : Gains 0 false p { p₁ with waiting := .held slot a } := by
      refine ⟨hgains.verbose, ?_⟩
      cases scope <;> cases hslot
      rw [← hgains.isColored]
      simp [isColored, hwaiting, Waiting.slot?]
    refine ⟨?_, fun _ => hheld, ?_⟩
    · intro hp
      obtain ⟨hrequests, hcolor⟩ := Argument.gains_of_plain (hdash hp)
      rwa [hrequests, hcolor]
    · cases hp : p.positionalsOnly with
      | true => simp [hopen, hp]
      | false =>
        have hne : a ≠ .ofText "--" := Argument.ne_of_plain (hdash hp) _ _
        simp [hopen, hp, hne]

/-! ## Scopes -/

variable {color : Argument} {as : List Argument}

theorem takeAll_cons_eq_ok_iff : p.takeAll scope color (a :: as) = .ok q ↔
    ∃ p₁, p.Takes scope a p₁ ∧ p₁.takeAll scope color as = .ok q := by
  rw [takeAll]
  constructor
  · intro h
    cases htake : p.take scope color a with
    | error r => simp [htake] at h
    | ok p₁ =>
      rw [htake] at h
      exact ⟨p₁, take_eq_ok_iff.1 htake, h⟩
  · rintro ⟨p₁, htakes, h⟩
    rw [take_eq_ok_iff.2 htakes]
    exact h

/-- What is shown in help has no say in what is taken. -/
theorem takeAll_of_color (h : p.takeAll scope color as = .ok q) (color' : Argument) :
    p.takeAll scope color' as = .ok q := by
  induction as generalizing p with
  | nil => exact h
  | cons a as ih =>
    obtain ⟨p₁, htakes, hrest⟩ := takeAll_cons_eq_ok_iff.1 h
    exact takeAll_cons_eq_ok_iff.2 ⟨p₁, htakes, ih hrest⟩

theorem takeAll_gains_of_positionalsOnly (h : p.takeAll scope color as = .ok q) (hp : p.positionalsOnly = true) :
    Gains 0 false p q := by
  induction as generalizing p with
  | nil =>
    cases h
    exact .refl _
  | cons a as ih =>
    obtain ⟨p₁, htakes, hrest⟩ := takeAll_cons_eq_ok_iff.1 h
    obtain ⟨-, hgains, hopen⟩ := htakes.gains
    rw [hp, Bool.true_or] at hopen
    exact (hgains hp).trans (ih hrest hopen)

/-- What a scope gathers can be told from its arguments one by one. -/
theorem takeAll_gains (h : p.takeAll scope color as = .ok q) (hp : p.positionalsOnly = false) :
    Gains (requests as) (givesColor as) p q := by
  induction as generalizing p with
  | nil =>
    cases h
    exact .refl _
  | cons a as ih =>
    obtain ⟨p₁, htakes, hrest⟩ := takeAll_cons_eq_ok_iff.1 h
    obtain ⟨hgains, -, hopen⟩ := htakes.gains
    rw [hp, Bool.false_or] at hopen
    by_cases hend : a = .ofText "--"
    · subst hend
      have hnone : flagged (.ofText "--" :: as) = [] := rfl
      rw [requests, givesColor, hnone]
      exact (hgains hp).trans (takeAll_gains_of_positionalsOnly hrest (by simp [hopen]))
    · have hcons : flagged (a :: as) = a :: flagged as := List.takeWhile_cons_of_pos (by simpa using hend)
      rw [requests, givesColor, hcons, List.map_cons, List.sum_cons, List.any_cons]
      exact (hgains hp).trans (ih hrest (by simp [hopen, hend]))

end Progress

/-! ## The command -/

variable {color : Argument} {as : List Argument}

theorem Argument.exists_command (ha : a.isCommandWord) : ∃ s ∈ Scope.commands, a = .ofText s.word := by
  obtain ⟨s, hs⟩ := Option.isSome_iff_exists.1 ha
  obtain ⟨text, htext, hword⟩ := Option.bind_eq_some_iff.1 hs
  have hmem : s ∈ Scope.commands := List.mem_of_find?_eq_some hword
  have heq : s.word.toList = text := by simpa using List.find?_some hword
  refine ⟨s, hmem, ?_⟩
  rw [ofText, heq]
  exact text?_eq_some_iff.1 htext

theorem Argument.plain_of_commandWord (ha : a.isCommandWord) : a.isDashed = false := by
  obtain ⟨s, hs, rfl⟩ := exists_command ha
  cases s with
  | program => exact absurd hs (by decide)
  | _ => rfl

theorem choose_eq_ok_iff {α : Type} {cs : List (Choice α)} {v : α} :
    choose slot cs a = .ok v ↔ ∃ c, a.text?.bind (Choice.find? cs) = some c ∧ c.value = v := by
  rw [choose]
  cases a.text?.bind (Choice.find? cs) <;> simp

theorem choose_commandWord {α : Type} {cs : List (Choice α)} {v : α} (ha : a.isCommandWord)
    (hcs : ∀ s ∈ Scope.commands, (Choice.find? cs s.word.toList).isNone) : choose slot cs a ≠ .ok v := by
  intro h
  obtain ⟨s, hs, rfl⟩ := Argument.exists_command ha
  obtain ⟨c, hc, -⟩ := choose_eq_ok_iff.1 h
  rw [Argument.text?_ofText, Option.bind_some, Option.isNone_iff_eq_none.1 (hcs s hs)] at hc
  cases hc

/-- The word of a command is no value. -/
theorem Given.fill_commandWord {g g' : Given} (ha : a.isCommandWord) : g.fill slot a ≠ .ok g' := by
  intro h
  cases slot with
  | format =>
    rw [fill] at h
    split_ifs at h
    obtain ⟨v, hv, -⟩ := map_eq_ok_iff.1 h
    exact choose_commandWord ha (by decide) hv
  | color =>
    rw [fill] at h
    split_ifs at h
    obtain ⟨v, hv, -⟩ := map_eq_ok_iff.1 h
    exact choose_commandWord ha (by decide) hv
  | shell =>
    obtain ⟨v, hv, -⟩ := map_eq_ok_iff.1 h
    exact choose_commandWord ha (by decide) hv

namespace Progress

theorem settle_commandWord (h : p.waiting = .held slot a) (ha : a.isCommandWord) : p.settle ≠ .ok q := by
  intro hsettle
  simp only [settle, h] at hsettle
  obtain ⟨g, hfill, -⟩ := map_eq_ok_iff.1 hsettle
  exact Given.fill_commandWord ha hfill

theorem Puts.settles {item : Item} (h : p.Puts item q) : ∃ p₁, p.settle = .ok p₁ := by
  cases h with
  | raised hsettle => exact ⟨_, hsettle⟩
  | awaited slot hsettle => exact ⟨_, hsettle⟩
  | attached hsettle => exact ⟨_, hsettle⟩

/-- Where the word of a command is held, only two dashes alone are taken, and it stays held. -/
theorem Takes.waiting_of_commandWord {b : Argument} (h : p.Takes scope b q) (hp : p.waiting = .held slot a)
    (ha : a.isCommandWord) : q.waiting = .held slot a := by
  cases h with
  | separator => exact hp
  | flags hopen hspells hputs =>
    cases hputs with
    | nil => exact absurd rfl hspells.isDashed.2.2
    | cons hput =>
      obtain ⟨p₁, hsettle⟩ := hput.settles
      exact absurd hsettle (settle_commandWord hp ha)
  | value _ _ hwaiting =>
    rw [hp] at hwaiting
    cases hwaiting
  | positional _ _ _ _ hsettle => exact absurd hsettle (settle_commandWord hp ha)

/-- In front of the command, the word of a command is taken only as a value. -/
theorem Takes.held_of_commandWord (h : p.Takes .program a q) (ha : a.isCommandWord) :
    ∃ slot, q.waiting = .held slot a := by
  have hplain := Argument.plain_of_commandWord ha
  cases h with
  | separator _ hend => exact absurd hend (Argument.ne_of_plain hplain _ _)
  | flags _ hspells =>
    rw [hspells.isDashed.1] at hplain
    cases hplain
  | value => exact ⟨_, rfl⟩
  | positional hslot => cases hslot

end Progress

variable {preset : Option Argument} {i : Invocation}

theorem readCommand_eq_ok_iff : readCommand preset p scope as = .ok i ↔
    ∃ q, Progress.start.takeAll scope (preset.getD []) as = .ok q ∧ ∃ inner, q.finish preset = .ok inner ∧
      ∃ command, inner.given.command scope = .ok command ∧ ∃ outer, p.finish preset = .ok outer ∧
        merge outer inner command = i := by
  simp only [readCommand, bind_eq_ok_iff, pure, Except.pure, Except.ok.injEq]

theorem readProgram_nil : readProgram preset p [] ≠ .ok i := by
  intro h
  obtain ⟨s, -, hs⟩ := bind_eq_ok_iff.1 h
  split at hs <;> cases hs

/-- One argument in front of the command: the command itself, or one that is taken. -/
theorem readProgram_cons (h : readProgram preset p (a :: as) = .ok i) :
    (∃ scope, a.text?.bind Scope.ofWord? = some scope ∧
      ∀ preset', readProgram preset' p (a :: as) = readCommand preset' p scope as) ∨
    ∃ q, p.Takes .program a q ∧ ∀ preset', readProgram preset' p (a :: as) = readProgram preset' q as := by
  simp only [readProgram] at h ⊢
  generalize hword : (if p.admitsCommand = true then a.text? else none) = word? at h ⊢
  cases hscope : word?.bind Scope.ofWord? with
  | some scope =>
    refine .inl ⟨scope, ?_, fun _ => rfl⟩
    split_ifs at hword
    · rw [hword]
      exact hscope
    · subst hword
      cases hscope
  | none =>
    simp only [hscope] at h ⊢
    split_ifs at h with hhelp
    cases htake : p.take .program (preset.getD []) a with
    | error r => simp [htake] at h
    | ok q =>
      refine .inr ⟨q, Progress.take_eq_ok_iff.1 htake, ?_⟩
      intro preset'
      rw [if_neg hhelp, Progress.take_eq_ok_iff.2 (Progress.take_eq_ok_iff.1 htake)]

/-- The end of a scope keeps what was gathered. -/
theorem Progress.finish_spec {s : Settled} (h : p.finish preset = .ok s) :
    ∃ p₁, p.settle = .ok p₁ ∧ s.given = p₁.given ∧ s.isGiven = p.isColored := by
  obtain ⟨p₁, hsettle, hs⟩ := bind_eq_ok_iff.1 h
  obtain ⟨hgains, hwaiting, -⟩ := settle_spec hsettle
  have hcolor : p.isColored = p₁.given.color.isSome := by
    rw [← Bool.or_false p.isColored, ← hgains.isColored]
    simp [isColored, hwaiting, Waiting.slot?]
  refine ⟨p₁, hsettle, ?_⟩
  rw [hcolor]
  split at hs
  case h_1 hgiven =>
    cases hs
    exact ⟨rfl, by rw [hgiven, Option.isSome_some]⟩
  case h_2 hgiven =>
    obtain ⟨c, -, hs⟩ := bind_eq_ok_iff.1 hs
    cases hs
    exact ⟨rfl, by rw [hgiven, Option.isSome_none]⟩
  case h_3 hgiven =>
    cases hs
    exact ⟨rfl, by rw [hgiven, Option.isSome_none]⟩

/-- Where the word of a command is held, the reading fails in the end. -/
theorem readProgram_commandWord (hp : p.waiting = .held slot a) (ha : a.isCommandWord) :
    readProgram preset p as ≠ .ok i := by
  induction as generalizing p with
  | nil => exact readProgram_nil
  | cons b as ih =>
    intro h
    rcases readProgram_cons h with ⟨scope, -, hcommand⟩ | ⟨q, htakes, htake⟩
    · rw [hcommand] at h
      obtain ⟨_, -, _, -, _, -, _, hfinish, -⟩ := readCommand_eq_ok_iff.1 h
      obtain ⟨p₁, hsettle, -⟩ := bind_eq_ok_iff.1 hfinish
      exact Progress.settle_commandWord hp ha hsettle
    · rw [htake] at h
      exact ih (htakes.waiting_of_commandWord hp ha) h

/-- A command line that is read to its end has a command, which is the first argument that is the word of one. -/
theorem exists_command_of_readProgram (h : readProgram preset p as = .ok i) :
    ∃ scope q, p.takeAll .program [] (beforeCommand as) = .ok q ∧
      ∀ preset', readProgram preset' p as = readCommand preset' q scope (afterCommand as) := by
  induction as generalizing p with
  | nil => exact absurd h readProgram_nil
  | cons a as ih =>
    rw [beforeCommand, afterCommand]
    rcases readProgram_cons h with ⟨scope, hscope, hcommand⟩ | ⟨q, htakes, htake⟩
    · have ha : a.isCommandWord = true := by rw [Argument.isCommandWord, hscope, Option.isSome_some]
      rw [List.takeWhile_cons_of_neg (by simp [ha]), List.dropWhile_cons_of_neg (by simp [ha])]
      exact ⟨scope, p, rfl, hcommand⟩
    · rw [htake] at h
      -- Otherwise the word would now be held as a value, and the reading could not come to its end.
      have ha : a.isCommandWord = false := by
        by_contra hword
        rw [Bool.not_eq_false] at hword
        obtain ⟨slot, hheld⟩ := htakes.held_of_commandWord hword
        exact readProgram_commandWord hheld hword h
      obtain ⟨scope, r, hall, hcommand⟩ := ih h
      rw [List.takeWhile_cons_of_pos (by simp [ha]), List.dropWhile_cons_of_pos (by simp [ha])]
      refine ⟨scope, r, ?_, fun preset' => (htake preset').trans (hcommand preset')⟩
      exact Progress.takeAll_cons_eq_ok_iff.2 ⟨q, htakes, hall⟩

end StartupConfig.CommandLine
