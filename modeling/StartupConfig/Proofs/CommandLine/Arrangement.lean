import StartupConfig.Proofs.CommandLine.Color

/-!
# Flags in any arrangement

What is wished for can be arranged on a command line in many ways: in any order, with long names or letters, with
letters joined in one argument, with a value attached to its flag or in the next argument, and with the flags of both
scopes in front of the command or behind it. Each step of the reader adds one wish to what it has gathered
(`Progress.Holds`), and what is gathered does not depend on the order, so all arrangements are read alike.
-/
namespace StartupConfig.CommandLine

/-! ## Wishes -/

/-- What can be wished for on a command line. -/
inductive Wish
  | format (value : Format)
  | color (value : ColorChoice)
  | shell (value : Shell)
  | sources
  | verbose
  | quiet
  | logJson
  deriving DecidableEq

namespace Wish

/-- The format that is wished for. -/
def format? : Wish → Option Format
  | .format v => some v
  | _ => none

/-- The colour choice that is wished for. -/
def color? : Wish → Option ColorChoice
  | .color v => some v
  | _ => none

/-- The shell that is wished for. -/
def shell? : Wish → Option Shell
  | .shell v => some v
  | _ => none

/-- The slot of a wish with a value, and the word of the value. -/
def value? : Wish → Option (Slot × Argument)
  | .format v => some (.format, .ofText v.word)
  | .color v => some (.color, .ofText (Choice.wordOf Choice.colors v))
  | .shell v => some (.shell, .ofText (Choice.wordOf Choice.shells v))
  | _ => none

/-- The item that says a wish at once. -/
def item : Wish → Item
  | .format v => .attached .format (.ofText v.word)
  | .color v => .attached .color (.ofText (Choice.wordOf Choice.colors v))
  | .shell v => .attached .shell (.ofText (Choice.wordOf Choice.shells v))
  | .sources => .raised .sources
  | .verbose => .raised .verbose
  | .quiet => .raised .quiet
  | .logJson => .raised .logJson

/-- Two wishes clash if they give a value each to one slot, or are the same; only the request for more may be
repeated. -/
def Clashes (w w' : Wish) : Prop :=
  (∃ slot v v', w.value? = some (slot, v) ∧ w'.value? = some (slot, v')) ∨ w = w' ∧ w ≠ .verbose

/-- No two of the wishes clash. -/
def Free (ws : List Wish) : Prop := ws.Pairwise fun w w' => ¬w.Clashes w'

end Wish

open Wish

/-- What a scope is given by wishes that do not clash. -/
def asked (ws : List Wish) : Given where
  format := ws.findSome? format?
  sources := decide (.sources ∈ ws)
  verbose := min greatestVerbosity (ws.count .verbose)
  quiet := decide (.quiet ∈ ws)
  logJson := decide (.logJson ∈ ws)
  color := ws.findSome? color?
  shell := ws.findSome? shell?

namespace Given

/-- The command of a scope with what it was given, in the format for people if it was given none. A script is made only
for a shell. -/
def command? (g : Given) : Scope → Option Command
  | .program => none
  | .show => some (.show (g.format.getD .human) g.sources)
  | .env => some (.env (g.format.getD .human))
  | .version => some (.version (g.format.getD .human))
  | .completions => g.shell.map .completions

/-- The invocation of a command with what it was given, and with a standard for the colour. -/
def invocation? (g : Given) (scope : Scope) (standard : ColorChoice) : Option Invocation :=
  (g.command? scope).map fun command => ⟨command, g.verbose, g.quiet, g.logJson, g.color.getD standard⟩

end Given

/-- The colour choice where none is given: that of the variable if it is set, or else the documented one. -/
inductive Presets : Option Utf8.Bytes → ColorChoice → Prop
  | unset : Presets none .auto
  | chosen {c : Choice ColorChoice} : c ∈ Choice.colors → Presets (some (Utf8.encode c.word.toList)) c.value

/-- Arguments that say wishes one after the other. An argument with a dash in front says any number of them, with their
values attached; the value of the last may be the next argument. A shell is an argument of its own. -/
inductive Arranges (scope : Scope) : List Wish → List Argument → Prop
  | nil : Arranges scope [] []
  | joined (ws : List Wish) {ws' : List Wish} {a : Argument} {as : List Argument} : Spells scope a (ws.map item) →
      Arranges scope ws' as → Arranges scope (ws ++ ws') (a :: as)
  | parted (ws : List Wish) {ws' : List Wish} {w : Wish} {slot : Slot} {a v : Argument} {as : List Argument} :
      w.value? = some (slot, v) → Spells scope a (ws.map item ++ [.awaited slot]) → Arranges scope ws' as →
      Arranges scope (ws ++ w :: ws') (a :: v :: as)
  | positional {ws' : List Wish} {w : Wish} {slot : Slot} {v : Argument} {as : List Argument} :
      w.value? = some (slot, v) → scope.positional? = some slot → Arranges scope ws' as →
      Arranges scope (w :: ws') (v :: as)

/-! ## Gathering -/

variable {scope : Scope} {ws ws' : List Wish} {w : Wish} {slot : Slot} {v : Argument}

theorem Wish.Free.left (h : Free (ws ++ ws')) : Free ws := (List.pairwise_append.1 h).1

/-- No two wishes have a part of this kind unless they clash. -/
def Wish.IsExclusive {α : Type} (pick : Wish → Option α) : Prop :=
  ∀ w w', pick w ≠ none → pick w' ≠ none → w.Clashes w'

/-- A part that only values of one slot have is such a part. -/
theorem Wish.IsExclusive.of_slot (slot : Slot) {α : Type} {pick : Wish → Option α}
    (h : ∀ w, pick w ≠ none → ∃ v, w.value? = some (slot, v)) : IsExclusive pick := by
  intro w w' hw hw'
  obtain ⟨v, hv⟩ := h w hw
  obtain ⟨v', hv'⟩ := h w' hw'
  exact .inl ⟨slot, v, v', hv, hv'⟩

theorem Wish.isExclusive_format : IsExclusive format? := by
  refine .of_slot .format fun w hw => ?_
  cases w <;> simp [format?, value?] at hw ⊢

theorem Wish.isExclusive_color : IsExclusive color? := by
  refine .of_slot .color fun w hw => ?_
  cases w <;> simp [color?, value?] at hw ⊢

theorem Wish.isExclusive_shell : IsExclusive shell? := by
  refine .of_slot .shell fun w hw => ?_
  cases w <;> simp [shell?, value?] at hw ⊢

/-- A wish that comes last is the only one with its part. -/
theorem Wish.Free.findSome?_eq_none {α : Type} {pick : Wish → Option α} (h : Free (ws ++ [w]))
    (hpick : IsExclusive pick) (hw : pick w ≠ none) : ws.findSome? pick = none := by
  rw [List.findSome?_eq_none_iff]
  intro w' hw'
  by_contra hne
  exact (List.pairwise_append.1 h).2.2 w' hw' w (List.mem_singleton_self w) (hpick w' w hne hw)

theorem Wish.Free.not_mem (h : Free (ws ++ [w])) (hw : w ≠ .verbose) : w ∉ ws := by
  intro hmem
  exact (List.pairwise_append.1 h).2.2 w hmem w (List.mem_singleton_self w) (.inr ⟨rfl, hw⟩)

theorem choose_format (f : Format) : choose .format Choice.formats (.ofText f.word) = .ok f := by
  cases f <;> rfl

theorem choose_color (c : ColorChoice) :
    choose .color Choice.colors (.ofText (Choice.wordOf Choice.colors c)) = .ok c := by
  cases c <;> rfl

theorem choose_shell (s : Shell) : choose .shell Choice.shells (.ofText (Choice.wordOf Choice.shells s)) = .ok s := by
  cases s <;> rfl

/-- A value that does not clash is filled in. -/
theorem fill_asked (h : Free (ws ++ [w])) (hw : w.value? = some (slot, v)) :
    (asked ws).fill slot v = .ok (asked (ws ++ [w])) := by
  cases w with
  | format f =>
    obtain ⟨rfl, rfl⟩ := Prod.mk.inj (Option.some.inj hw)
    have hnone := h.findSome?_eq_none isExclusive_format (by simp [format?])
    simp [Given.fill, asked, hnone, choose_format, Except.map, List.findSome?_append, format?, color?,
      shell?, List.count_append]
  | color c =>
    obtain ⟨rfl, rfl⟩ := Prod.mk.inj (Option.some.inj hw)
    have hnone := h.findSome?_eq_none isExclusive_color (by simp [color?])
    simp [Given.fill, asked, hnone, choose_color, Except.map, List.findSome?_append, format?, color?,
      shell?, List.count_append]
  | shell s =>
    obtain ⟨rfl, rfl⟩ := Prod.mk.inj (Option.some.inj hw)
    have hnone := h.findSome?_eq_none isExclusive_shell (by simp [shell?])
    simp [Given.fill, asked, hnone, choose_shell, Except.map, List.findSome?_append, format?, color?,
      shell?, List.count_append]
  | _ => cases hw

/-- A flag that does not clash is raised. -/
theorem raise_asked {f : Flag} (h : Free (ws ++ [w])) (hw : w.item = .raised f) :
    (asked ws).raise f = .ok (asked (ws ++ [w])) := by
  cases w <;> cases hw
  case verbose =>
    have hcount : min greatestVerbosity (min greatestVerbosity (ws.count .verbose) + 1) =
        min greatestVerbosity (ws.count .verbose + 1) := by omega
    simp [Given.raise, asked, hcount, List.findSome?_append, format?, color?, shell?, List.count_append]
  all_goals
    have hnot := h.not_mem (by simp)
    simp [Given.raise, asked, hnot, List.findSome?_append, format?, color?, shell?, List.count_append]

namespace Progress

/-- How far a scope has come that was given wishes: all of them are stored, or the value of the last is held. -/
inductive Holds : List Wish → Progress → Prop
  | stored (ws : List Wish) : Holds ws ⟨asked ws, .nothing, false⟩
  | held {w : Wish} {slot : Slot} {v : Argument} (ws : List Wish) : w.value? = some (slot, v) →
      Holds (ws ++ [w]) ⟨asked ws, .held slot v, false⟩

variable {p : Progress} (color : Argument)

theorem Holds.positionalsOnly (h : Holds ws p) : p.positionalsOnly = false := by
  cases h <;> rfl

theorem Holds.settle (h : Holds ws p) (hfree : Free ws) : p.settle = .ok ⟨asked ws, .nothing, false⟩ := by
  cases h with
  | stored => rfl
  | held ws hw =>
    rw [Progress.settle]
    simp only [fill_asked hfree hw, Except.map]

/-- An item that says a wish adds it. -/
theorem Holds.puts (h : Holds ws p) (hfree : Free (ws ++ [w])) :
    p.Puts w.item ⟨asked (ws ++ [w]), .nothing, false⟩ := by
  have hsettle := h.settle hfree.left
  cases hw : w.item with
  | raised f =>
    have hanswer : f ≠ .help ∧ f ≠ .version := by cases w <;> cases hw <;> decide
    exact .raised hsettle hanswer.1 hanswer.2 (raise_asked hfree hw)
  | awaited slot => cases w <;> cases hw
  | attached slot v =>
    have hvalue : w.value? = some (slot, v) := by cases w <;> cases hw <;> rfl
    exact .attached hsettle (fill_asked hfree hvalue)

theorem Holds.putsAll (h : Holds ws p) (hfree : Free (ws ++ ws')) :
    ∃ q, p.PutsAll (ws'.map item) q ∧ Holds (ws ++ ws') q := by
  induction ws' generalizing ws p with
  | nil => exact ⟨p, .nil p, by rwa [List.append_nil]⟩
  | cons w ws' ih =>
    rw [List.append_cons] at hfree ⊢
    obtain ⟨q, hputs, hq⟩ := ih (.stored (ws ++ [w])) hfree
    exact ⟨q, .cons (h.puts hfree.left) hputs, hq⟩

theorem PutsAll.append {q r : Progress} {items items' : List Item} (h : p.PutsAll items q) (h' : q.PutsAll items' r) :
    p.PutsAll (items ++ items') r := by
  induction h with
  | nil => exact h'
  | cons hput _ ih => exact .cons hput (ih h')

/-- An argument that says wishes adds them. -/
theorem Holds.take_joined {a : Argument} (h : Holds ws p) (hfree : Free (ws ++ ws'))
    (ha : Spells scope a (ws'.map item)) : ∃ q, p.take scope color a = .ok q ∧ Holds (ws ++ ws') q := by
  obtain ⟨q, hputs, hq⟩ := h.putsAll hfree
  exact ⟨q, take_of_spells h.positionalsOnly ha hputs, hq⟩

/-- The last wish of an argument may have its value in the next one. -/
theorem Holds.take_parted {a : Argument} (h : Holds ws p) (hfree : Free (ws ++ ws'))
    (ha : Spells scope a (ws'.map item ++ [.awaited slot])) (hw : w.value? = some (slot, v)) :
    ∃ q r, p.take scope color a = .ok q ∧ q.waiting = .value slot ∧ q.take scope color v = .ok r ∧
      Holds (ws ++ ws' ++ [w]) r := by
  obtain ⟨q, hputs, hq⟩ := h.putsAll hfree
  have hawaits : q.PutsAll [.awaited slot] ⟨asked (ws ++ ws'), .value slot, false⟩ :=
    putsAll_singleton_iff.2 (.awaited slot (hq.settle hfree))
  have hplain : v.isDashed = false := by
    cases w <;> cases hw
    case format f => cases f <;> rfl
    case color c => cases c <;> rfl
    case shell s => cases s <;> rfl
  refine ⟨_, _, take_of_spells h.positionalsOnly ha (hputs.append hawaits), rfl, ?_, .held (ws ++ ws') hw⟩
  exact take_eq_ok_iff.2 (.value rfl hplain rfl)

/-- A shell is an argument of its own, and must not have been given before. -/
theorem Holds.take_positional (h : Holds ws p) (hfree : Free (ws ++ [w])) (hw : w.value? = some (slot, v))
    (hslot : scope.positional? = some slot) : ∃ q, p.take scope color v = .ok q ∧ Holds (ws ++ [w]) q := by
  have hshell : slot = .shell := by cases scope <;> cases hslot; rfl
  subst hshell
  obtain ⟨s, rfl⟩ : ∃ s, w = .shell s := by cases w <;> cases hw; exact ⟨_, rfl⟩
  have hnone := hfree.findSome?_eq_none isExclusive_shell (by simp [shell?])
  have hplain : v.isDashed = false := by
    cases hw
    cases s <;> rfl
  refine ⟨_, take_eq_ok_iff.2 (.positional hslot (fun _ => hplain) ?_ ?_ (h.settle hfree.left)), .held ws hw⟩
  · cases h with
    | stored => exact hnone
    | held ws₀ _ => exact (List.findSome?_append ▸ hnone |> Option.or_eq_none_iff.1).1
  · intro v' hheld
    cases h with
    | stored => cases hheld
    | @held w₀ slot v₀ ws₀ hw₀ =>
      obtain ⟨rfl, rfl⟩ := Waiting.held.inj hheld
      cases w₀ <;> cases hw₀
      simp [shell?] at hnone

/-- Arguments that say wishes add them. -/
theorem Holds.takeAll {as : List Argument} (h : Holds ws p) (hfree : Free (ws ++ ws')) (has : Arranges scope ws' as) :
    ∃ q, p.takeAll scope color as = .ok q ∧ Holds (ws ++ ws') q := by
  induction has generalizing ws p with
  | nil => exact ⟨p, rfl, by rwa [List.append_nil]⟩
  | joined _ ha _ ih =>
    rw [← List.append_assoc] at hfree ⊢
    obtain ⟨q, htake, hq⟩ := h.take_joined color hfree.left ha
    obtain ⟨r, hall, hr⟩ := ih hq hfree
    exact ⟨r, takeAll_cons_eq_ok_iff.2 ⟨q, take_eq_ok_iff.1 htake, hall⟩, hr⟩
  | @parted ws₁ ws₂ w slot a v as hw ha _ ih =>
    rw [← List.append_assoc, List.append_cons] at hfree ⊢
    obtain ⟨q, r, htake, -, htake', hr⟩ := h.take_parted color hfree.left.left ha hw
    obtain ⟨s, hall, hs⟩ := ih hr hfree
    refine ⟨s, takeAll_cons_eq_ok_iff.2 ⟨q, take_eq_ok_iff.1 htake, ?_⟩, hs⟩
    exact takeAll_cons_eq_ok_iff.2 ⟨r, take_eq_ok_iff.1 htake', hall⟩
  | positional hw hslot _ ih =>
    rw [List.append_cons] at hfree ⊢
    obtain ⟨q, htake, hq⟩ := h.take_positional color hfree.left hw hslot
    obtain ⟨r, hall, hr⟩ := ih hq hfree
    exact ⟨r, takeAll_cons_eq_ok_iff.2 ⟨q, take_eq_ok_iff.1 htake, hall⟩, hr⟩

end Progress

/-! ## In front of the command -/

/-- An argument that is taken in front of the command: a flag, or the value of one. -/
theorem readProgram_take {preset : Option Argument} {p q : Progress} {a : Argument} {as : List Argument}
    (ha : a.isDashed ∨ ∃ slot, p.waiting = .value slot) (htake : p.take .program (preset.getD []) a = .ok q) :
    readProgram preset p (a :: as) = readProgram preset q as := by
  have hword : ((if p.admitsCommand then a.text? else none).bind Scope.ofWord?) = none ∧
      (if p.admitsCommand then a.text? else none) ≠ some helpWord.toList := by
    rcases ha with hdash | ⟨slot, hwaiting⟩
    · have hcommand : a.text?.bind Scope.ofWord? = none := by
        rw [← Option.not_isSome_iff_eq_none]
        intro hword
        rw [Argument.plain_of_commandWord hword] at hdash
        cases hdash
      have hhelp : a.text? ≠ some helpWord.toList := by
        intro htext
        rw [Argument.text?_eq_some_iff.1 htext] at hdash
        cases hdash
      split_ifs
      · exact ⟨hcommand, hhelp⟩
      · exact ⟨rfl, by simp⟩
    · simp [Progress.admitsCommand, hwaiting]
  rw [readProgram]
  simp only [hword.1, if_neg hword.2, htake]

/-- Wishes in front of the command are gathered up to it. -/
theorem Progress.Holds.readProgram (preset : Option Argument) {p : Progress} {as : List Argument} (h : Holds ws p)
    (hfree : Free (ws ++ ws')) (has : Arranges .program ws' as) (rest : List Argument) :
    ∃ q, CommandLine.readProgram preset p (as ++ rest) = CommandLine.readProgram preset q rest ∧
      Holds (ws ++ ws') q := by
  induction has generalizing ws p with
  | nil => exact ⟨p, rfl, by rwa [List.append_nil]⟩
  | joined _ ha _ ih =>
    rw [← List.append_assoc] at hfree ⊢
    obtain ⟨q, htake, hq⟩ := h.take_joined (preset.getD []) hfree.left ha
    obtain ⟨r, hread, hr⟩ := ih hq hfree
    exact ⟨r, (readProgram_take (.inl ha.isDashed.1) htake).trans hread, hr⟩
  | @parted ws₁ ws₂ w slot a v as hw ha _ ih =>
    rw [← List.append_assoc, List.append_cons] at hfree ⊢
    obtain ⟨q, r, htake, hwaiting, htake', hr⟩ := h.take_parted (preset.getD []) hfree.left.left ha hw
    obtain ⟨s, hread, hs⟩ := ih hr hfree
    refine ⟨s, (readProgram_take (.inl ha.isDashed.1) htake).trans ?_, hs⟩
    exact (readProgram_take (.inr ⟨slot, hwaiting⟩) htake').trans hread
  | positional _ hslot => cases hslot

/-- The word of a command leads on to its scope. -/
theorem readProgram_command {preset : Option Argument} {p : Progress} (h : p.Holds ws) (hscope : scope ∈ Scope.commands)
    (as : List Argument) :
    readProgram preset p (.ofText scope.word :: as) = readCommand preset p scope as := by
  have hadmits : p.admitsCommand = true := by cases h <;> rfl
  have hword : Scope.ofWord? scope.word.toList = some scope := by
    cases scope with
    | program => exact absurd hscope (by decide)
    | _ => rfl
  rw [readProgram]
  simp only [hadmits, if_true, Argument.text?_ofText, Option.bind_some, hword]

/-- Is an item one that a scope has a flag for? -/
def Item.IsOf (scope : Scope) : Item → Prop
  | .raised f => f ∈ scope.flags
  | .awaited slot => ∃ f ∈ scope.flags, f.slot? = some slot
  | .attached slot _ => ∃ f ∈ scope.flags, f.slot? = some slot

theorem SpellsLetters.isOf {a : Argument} {items : List Item} (h : SpellsLetters scope a items) :
    ∀ item ∈ items, item.IsOf scope := by
  induction h with
  | nil => simp
  | raised hmem _ _ _ ih => exact List.forall_mem_cons.2 ⟨hmem, ih⟩
  | awaited hmem _ hslot => exact List.forall_mem_singleton.2 ⟨_, hmem, hslot⟩
  | assigned _ hmem _ hslot => exact List.forall_mem_singleton.2 ⟨_, hmem, hslot⟩
  | attached hmem _ hslot => exact List.forall_mem_singleton.2 ⟨_, hmem, hslot⟩

theorem Spells.isOf {a : Argument} {items : List Item} (h : Spells scope a items) : ∀ item ∈ items, item.IsOf scope := by
  cases h with
  | raised hmem => exact List.forall_mem_singleton.2 hmem
  | awaited hmem hslot => exact List.forall_mem_singleton.2 ⟨_, hmem, hslot⟩
  | assigned _ hmem hslot => exact List.forall_mem_singleton.2 ⟨_, hmem, hslot⟩
  | letters _ hspells => exact hspells.isOf

/-- In front of the command there is no wish for a format, a shell or sources. -/
theorem Arranges.isGlobal {as : List Argument} (h : Arranges .program ws as) :
    ∀ w ∈ ws, w.format? = none ∧ w.shell? = none ∧ w ≠ .sources := by
  have hitem {w : Wish} (hw : w.item.IsOf .program) : w.format? = none ∧ w.shell? = none ∧ w ≠ .sources := by
    cases w with
    | format f => exact absurd hw (by simp [item, Item.IsOf, Scope.flags, Scope.ownFlags, Flag.slot?])
    | shell s => exact absurd hw (by simp [item, Item.IsOf, Scope.flags, Scope.ownFlags, Flag.slot?])
    | sources => exact absurd hw (by simp [item, Item.IsOf, Scope.flags, Scope.ownFlags])
    | _ => exact ⟨rfl, rfl, by simp⟩
  induction h with
  | nil => simp
  | joined _ ha _ ih =>
    refine List.forall_mem_append.2 ⟨fun w hw => hitem (ha.isOf _ (List.mem_map_of_mem hw)), ih⟩
  | @parted _ _ w slot _ _ _ hw ha _ ih =>
    refine List.forall_mem_append.2 ⟨fun w hw => hitem (ha.isOf _ (by simp [List.mem_map_of_mem hw])), ?_⟩
    have hslot : ∃ f ∈ Scope.program.flags, f.slot? = some slot := ha.isOf (.awaited slot) (by simp)
    refine List.forall_mem_cons.2 ⟨hitem ?_, ih⟩
    cases w <;> cases hw <;> exact hslot
  | positional _ hslot => cases hslot

/-! ## Whole command lines -/

/-- Which wishes do not clash does not depend on their order. -/
theorem Wish.Free.perm (h : Free ws) (hperm : ws.Perm ws') : Free ws' := by
  refine (hperm.pairwise_iff ?_).1 h
  rintro w w' hclash (⟨slot, v, v', hw, hw'⟩ | ⟨rfl, hne⟩)
  · exact hclash (.inl ⟨slot, v', v, hw', hw⟩)
  · exact hclash (.inr ⟨rfl, hne⟩)

theorem findSome?_perm {α : Type} {pick : Wish → Option α} (hpick : IsExclusive pick) (hperm : ws.Perm ws')
    (h : Free ws) : ws.findSome? pick = ws'.findSome? pick := by
  induction hperm with
  | nil => rfl
  | cons w _ ih => rw [List.findSome?_cons, List.findSome?_cons, ih (List.pairwise_cons.1 h).2]
  | swap w w' ws =>
    have hclash : ¬w'.Clashes w := (List.pairwise_cons.1 h).1 w (by simp)
    have hnone : pick w' = none ∨ pick w = none := by
      by_contra hboth
      rw [not_or] at hboth
      exact hclash (hpick w' w hboth.1 hboth.2)
    rcases hnone with hnone | hnone <;> simp [List.findSome?_cons, hnone]
  | trans hperm₁ _ ih₁ ih₂ => rw [ih₁ h, ih₂ (h.perm hperm₁)]

/-- What is asked for does not depend on the order of the wishes. -/
theorem asked_perm (hperm : ws.Perm ws') (h : Free ws) : asked ws = asked ws' := by
  simp only [asked, findSome?_perm isExclusive_format hperm h, findSome?_perm isExclusive_color hperm h,
    findSome?_perm isExclusive_shell hperm h, hperm.mem_iff, hperm.count_eq]

theorem Presets.choose_eq {preset : Utf8.Bytes} {standard : ColorChoice} (h : Presets (some preset) standard) :
    choose .color Choice.colors (.ofBytes preset) = .ok standard := by
  obtain ⟨c, hc⟩ : ∃ c ∈ Choice.colors, preset = Utf8.encode c.word.toList ∧ standard = c.value := by
    cases h with
    | chosen hc => exact ⟨_, hc, rfl, rfl⟩
  obtain ⟨hmem, rfl, rfl⟩ := hc
  have hall : ∀ c ∈ Choice.colors, choose .color Choice.colors (.ofText c.word) = .ok c.value := by
    simp only [Choice.colors, List.forall_mem_cons]
    exact ⟨rfl, rfl, rfl, by simp⟩
  rw [Argument.ofBytes_encode]
  exact hall c hmem

/-- At the end of a scope what was asked for is kept, and the standard is the colour where none was. -/
theorem Progress.Holds.finish {p : Progress} (h : Holds ws p) (hfree : Free ws) {preset : Option Utf8.Bytes}
    {standard : ColorChoice} (hpreset : Presets preset standard) :
    ∃ isNothing, p.finish (preset.map .ofBytes) =
      .ok ⟨asked ws, (asked ws).color.getD standard, (asked ws).color.isSome, isNothing⟩ := by
  simp only [Progress.finish, h.settle hfree, bind, Except.bind, pure, Except.pure]
  cases hcolor : (asked ws).color with
  | some c => exact ⟨_, rfl⟩
  | none =>
    cases preset with
    | none =>
      cases hpreset
      exact ⟨_, rfl⟩
    | some bytes =>
      simp only [Option.map_some, hpreset.choose_eq]
      exact ⟨_, rfl⟩

theorem command_of_command? {g : Given} {command : Command} (h : g.command? scope = some command) :
    g.command scope = .ok command := by
  cases scope with
  | program => cases h
  | completions =>
    obtain ⟨s, hs, rfl⟩ := Option.map_eq_some_iff.1 h
    simp only [Given.command, hs]
  | _ =>
    cases h
    rfl

variable {front behind : List Wish}

/-- The command has all that is asked for it alone. -/
theorem command?_append (hglobal : ∀ w ∈ front, w.format? = none ∧ w.shell? = none ∧ w ≠ .sources) :
    (asked behind).command? scope = (asked (front ++ behind)).command? scope := by
  have hformat : front.findSome? format? = none := List.findSome?_eq_none_iff.2 fun w hw => (hglobal w hw).1
  have hshell : front.findSome? shell? = none := List.findSome?_eq_none_iff.2 fun w hw => (hglobal w hw).2.1
  have hsources : .sources ∉ front := fun hmem => (hglobal _ hmem).2.2 rfl
  cases scope <;>
    simp [Given.command?, asked, List.findSome?_append, hformat, hshell, hsources]

/-- Both scopes together give what is asked for on either side, if the requests for more are on one side. -/
theorem merge_asked (hfree : Free (front ++ behind)) (hverbose : .verbose ∉ front ∨ .verbose ∉ behind)
    (standard : ColorChoice) (outerNothing innerNothing : Bool) (command : Command) :
    merge ⟨asked front, (asked front).color.getD standard, (asked front).color.isSome, outerNothing⟩
        ⟨asked behind, (asked behind).color.getD standard, (asked behind).color.isSome, innerNothing⟩ command =
      ⟨command, (asked (front ++ behind)).verbose, (asked (front ++ behind)).quiet, (asked (front ++ behind)).logJson,
        (asked (front ++ behind)).color.getD standard⟩ := by
  -- A count behind the command replaces the one in front of it: they add up only where one of them is zero.
  have hcount : (asked (front ++ behind)).verbose =
      if (asked behind).verbose = 0 then (asked front).verbose else (asked behind).verbose := by
    have hboth : (asked (front ++ behind)).verbose =
        min greatestVerbosity (front.count .verbose + behind.count .verbose) := by rw [asked, List.count_append]
    have hfront : (asked front).verbose = min greatestVerbosity (front.count .verbose) := rfl
    have hbehind : (asked behind).verbose = min greatestVerbosity (behind.count .verbose) := rfl
    have hbound : greatestVerbosity = 255 := rfl
    have hnone : front.count .verbose = 0 ∨ behind.count .verbose = 0 :=
      hverbose.imp List.count_eq_zero.2 List.count_eq_zero.2
    split <;> omega
  have hcolor : (asked (front ++ behind)).color.getD standard =
      if (asked front).color.isSome && !(asked behind).color.isSome then (asked front).color.getD standard
      else (asked behind).color.getD standard := by
    have hboth : (asked (front ++ behind)).color = (asked front).color.or (asked behind).color :=
      List.findSome?_append
    rw [hboth]
    cases hfront : (asked front).color with
    | none => rfl
    | some c =>
      obtain ⟨w, hw, hc⟩ := List.exists_of_findSome?_eq_some hfront
      have hbehind : (asked behind).color = none := by
        refine List.findSome?_eq_none_iff.2 fun w' hw' => ?_
        by_contra hne
        exact (List.pairwise_append.1 hfree).2.2 w hw w' hw' (isExclusive_color w w' (by simp [hc]) hne)
      rw [hbehind]
      rfl
  rw [merge, hcount, hcolor]
  simp [asked, Bool.or_comm]

/-- Wishes that do not clash are read alike in any arrangement: in any order and spelling, with the colour variable unset
or set to a choice, and with any of the flags that both scopes have in front of the command, as long as the requests for
more are all on one side of it. The invocation holds exactly what was wished for, and the documented standard for the
rest. -/
theorem read_of_arranges {preset : Option Utf8.Bytes} {standard : ColorChoice} (hpreset : Presets preset standard)
    (hscope : scope ∈ Scope.commands) (hfree : Free ws) (hshell : scope = .completions → ∃ s, .shell s ∈ ws) :
    ∃ i, (asked ws).invocation? scope standard = some i ∧
      ∀ front behind : List Wish, (front ++ behind).Perm ws → (.verbose ∉ front ∨ .verbose ∉ behind) →
        ∀ before after : List Utf8.Bytes, Arranges .program front (before.map .ofBytes) →
          Arranges scope behind (after.map .ofBytes) →
          read preset (before ++ Utf8.encode scope.word.toList :: after) = .ok i := by
  obtain ⟨command, hcommand⟩ : ∃ command, (asked ws).command? scope = some command := by
    cases scope with
    | program => exact absurd hscope (by decide)
    | completions =>
      obtain ⟨s, hs⟩ := hshell rfl
      have hsome : (ws.findSome? shell?).isSome := by
        rw [List.findSome?_isSome_iff]
        exact ⟨_, hs, rfl⟩
      obtain ⟨s', hs'⟩ := Option.isSome_iff_exists.1 hsome
      exact ⟨.completions s', by simp [Given.command?, asked, hs']⟩
    | _ => exact ⟨_, rfl⟩
  refine ⟨_, by rw [Given.invocation?, hcommand, Option.map_some], ?_⟩
  intro front behind hperm hverbose before after hbefore hafter
  have hfree' : Free (front ++ behind) := hfree.perm hperm.symm
  obtain ⟨p, hread, hp⟩ := Progress.Holds.readProgram (preset.map .ofBytes) (.stored []) hfree'.left hbefore
    (.ofText scope.word :: after.map .ofBytes)
  obtain ⟨q, hall, hq⟩ := Progress.Holds.takeAll ((preset.map Argument.ofBytes).getD []) (.stored [])
    (List.pairwise_append.1 hfree').2.1 hafter
  obtain ⟨outerNothing, houter⟩ := hp.finish hfree'.left hpreset
  obtain ⟨innerNothing, hinner⟩ := hq.finish (List.pairwise_append.1 hfree').2.1 hpreset
  have hasked : asked (front ++ behind) = asked ws := asked_perm hperm hfree'
  have hcommand' : (asked behind).command scope = .ok command := by
    apply command_of_command?
    rw [command?_append hbefore.isGlobal, hasked, hcommand]
  rw [read, List.map_append, List.map_cons, Argument.ofBytes_encode]
  refine hread.trans ((readProgram_command hp hscope _).trans ?_)
  refine readCommand_eq_ok_iff.2 ⟨q, hall, _, hinner, command, hcommand', _, houter, ?_⟩
  rw [List.nil_append, List.nil_append, merge_asked hfree' hverbose, hasked]

/-- Letters that are joined, with a value in the next argument and a repeated letter behind it, say the same as letters
in front of the command and a value joined to its letter. -/
theorem read_of_arranges_joined :
    let preset := some (Utf8.encode "always".toList)
    let i : Invocation := ⟨.show .json true, 2, true, false, .never⟩
    read preset (typed ["show", "-qvf", "json", "--sources", "--color=never", "-v"]) = .ok i ∧
    read preset (typed ["-qvv", "--color", "never", "show", "-fjson", "--sources"]) = .ok i := by
  intro preset i
  have hpreset : Presets preset .always := .chosen (c := ⟨"always", "Always use color", .always⟩) (by simp [Choice.colors])
  let ws : List Wish := [.quiet, .verbose, .format .json, .sources, .color .never, .verbose]
  have hfree : Free ws := by simp [ws, Free, Clashes, value?]
  have hquiet {scope : Scope} {rest : Argument} {items : List Item} (h : SpellsLetters scope rest items) :
      SpellsLetters scope (.scalar 'q' :: rest) (.raised .quiet :: items) :=
    .raised (by cases scope <;> decide) rfl rfl h
  have hverbose {scope : Scope} {rest : Argument} {items : List Item} (h : SpellsLetters scope rest items) :
      SpellsLetters scope (.scalar 'v' :: rest) (.raised .verbose :: items) :=
    .raised (by cases scope <;> decide) rfl rfl h
  have hsources : Spells .show (.ofText "--sources") [.raised .sources] := .raised (f := .sources) (by decide) rfl
  have hbehind : Arranges .show ws ((typed ["-qvf", "json", "--sources", "--color=never", "-v"]).map .ofBytes) := by
    rw [map_ofBytes_typed]
    have hletters : Spells .show (.ofText "-qvf") [.raised .quiet, .raised .verbose, .awaited .format] :=
      .letters (by decide) (hquiet (hverbose (.awaited (f := .format) (by decide) rfl rfl)))
    have hcolor : Spells .show (.ofText "--color=never") [.attached .color (.ofText "never")] :=
      .assigned (f := .color) _ (by decide) rfl
    have hletter : Spells .show (.ofText "-v") [.raised .verbose] := .letters (by decide) (hverbose .nil)
    exact .parted [.quiet, .verbose] (w := .format .json) rfl hletters
      (.joined [.sources] hsources (.joined [.color .never] hcolor
        (.joined [.verbose] hletter .nil)))
  have hfront : Arranges .program [.quiet, .verbose, .verbose, .color .never]
      ((typed ["-qvv", "--color", "never"]).map .ofBytes) := by
    rw [map_ofBytes_typed]
    have hletters : Spells .program (.ofText "-qvv") [.raised .quiet, .raised .verbose, .raised .verbose] :=
      .letters (by decide) (hquiet (hverbose (hverbose .nil)))
    have hcolor : Spells .program (.ofText "--color") [.awaited .color] := .awaited (f := .color) (by decide) rfl
    exact .joined [.quiet, .verbose, .verbose] hletters
      (.parted [] (w := .color .never) rfl hcolor .nil)
  have hown : Arranges .show [.format .json, .sources] ((typed ["-fjson", "--sources"]).map .ofBytes) := by
    rw [map_ofBytes_typed]
    have hletter : Spells .show (.ofText "-fjson") [.attached .format (.ofText "json")] :=
      .letters (by decide) (.attached (f := .format) (by decide) rfl rfl (by decide) (by decide))
    exact .joined [.format .json] hletter (.joined [.sources] hsources .nil)
  have hshell : Scope.show = .completions → ∃ s, .shell s ∈ ws := by
    intro h
    cases h
  have hperm : ([quiet, verbose, verbose, Wish.color .never] ++ [Wish.format .json, .sources]).Perm ws := by decide
  obtain ⟨i', hi', hread⟩ := read_of_arranges hpreset (by decide) hfree hshell
  obtain rfl : i = i' := Option.some.inj hi'
  have hread₁ := hread [] ws (List.Perm.refl ws) (.inl (by decide)) [] _ .nil hbehind
  have hread₂ := hread _ _ hperm (.inr (by decide)) _ _ hfront hown
  exact ⟨hread₁, hread₂⟩

end StartupConfig.CommandLine
