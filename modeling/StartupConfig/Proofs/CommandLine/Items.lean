import Mathlib.Data.List.TakeDrop
import Mathlib.Data.List.TakeWhile
import Mathlib.Tactic.SplitIfs
import StartupConfig.CommandLine.Invocation
import StartupConfig.Proofs.Utf8

/-!
# What arguments stand for

An argument with a dash in front spells items: a flag that is raised, a value that is awaited, a value that is attached.
A scope takes such an argument exactly if it takes the items one after the other (`take_eq_ok_iff`), so how an item is
spelt does not matter, and each fact about a scope is one about single items. Every item first stores the value that is
held.
-/
namespace StartupConfig.CommandLine

theorem bind_eq_ok_iff {ε α β : Type} {x : Except ε α} {f : α → Except ε β} {b : β} :
    x >>= f = .ok b ↔ ∃ a, x = .ok a ∧ f a = .ok b := by
  cases x <;> simp [bind, Except.bind]

theorem map_eq_ok_iff {ε α β : Type} {x : Except ε α} {f : α → β} {b : β} :
    x.map f = .ok b ↔ ∃ a, x = .ok a ∧ f a = b := by
  cases x <;> simp [Except.map]

/-! ## Arguments -/

namespace Argument

/-- The argument that is a text. -/
def ofText (text : String) : Argument := text.toList.map .scalar

/-- Is there a dash in front, and something behind it? -/
def isDashed : Argument → Bool
  | .scalar '-' :: _ :: _ => true
  | _ => false

theorem isDashed_iff {a : Argument} : a.isDashed ↔ ∃ c rest, a = .scalar '-' :: c :: rest := by
  unfold isDashed
  split <;> simp_all

theorem ne_of_plain {a : Argument} (h : a.isDashed = false) (c : Utf8.Piece) (rest : Argument) :
    a ≠ .scalar '-' :: c :: rest := by
  rintro rfl
  cases h

@[simp]
theorem text?_nil : text? [] = some [] := rfl

@[simp]
theorem text?_scalar (c : Char) (a : Argument) : text? (.scalar c :: a) = a.text?.map (c :: ·) := by
  rw [text?, text?, List.mapM_cons]
  cases List.mapM Utf8.Piece.scalar? a <;> rfl

@[simp]
theorem text?_malformed (run : Utf8.Bytes) (a : Argument) : text? (.malformed run :: a) = none := by
  simp [text?, Utf8.Piece.scalar?]

theorem text?_eq_some_iff {a : Argument} {text : List Char} : a.text? = some text ↔ a = text.map .scalar := by
  induction a generalizing text with
  | nil => cases text <;> simp
  | cons p ps ih =>
    cases p with
    | malformed run => cases text <;> simp
    | scalar c => cases text <;> simp [ih, and_comm]

theorem ofBytes_encode (text : String) : ofBytes (Utf8.encode text.toList) = ofText text := Utf8.pieces_encode _

theorem text?_ofText (text : String) : (ofText text).text? = some text.toList := text?_eq_some_iff.2 rfl

end Argument

/-- The long name of a flag as an argument. -/
def Flag.written (f : Flag) : Argument := .scalar '-' :: .scalar '-' :: f.long.toList.map .scalar

namespace Flag

theorem long_ne_nil (f : Flag) : f.long.toList.map Utf8.Piece.scalar ≠ [] := by
  cases f <;> decide

theorem not_mem_long (f : Flag) : .scalar '=' ∉ f.long.toList.map Utf8.Piece.scalar := by
  cases f <;> decide

end Flag

variable {scope : Scope} {f : Flag}

theorem Scope.long?_eq_some_iff {name : List Char} :
    scope.long? name = some f ↔ f ∈ scope.flags ∧ f.long.toList = name := by
  constructor
  · intro h
    exact ⟨List.mem_of_find?_eq_some h, by simpa using List.find?_some h⟩
  · rintro ⟨hmem, rfl⟩
    cases scope <;> cases f <;> first | rfl | exact absurd hmem (by decide)

theorem Scope.bind_long?_eq_some_iff {name : Argument} :
    name.text?.bind scope.long? = some f ↔ f ∈ scope.flags ∧ name = f.long.toList.map .scalar := by
  rw [Option.bind_eq_some_iff]
  constructor
  · rintro ⟨text, htext, hname⟩
    obtain ⟨hmem, rfl⟩ := long?_eq_some_iff.1 hname
    exact ⟨hmem, Argument.text?_eq_some_iff.1 htext⟩
  · rintro ⟨hmem, rfl⟩
    exact ⟨f.long.toList, Argument.text?_eq_some_iff.2 rfl, long?_eq_some_iff.2 ⟨hmem, rfl⟩⟩

theorem Scope.letter?_eq_some_iff {c : Char} : scope.letter? c = some f ↔ f ∈ scope.flags ∧ f.letter? = some c := by
  constructor
  · intro h
    exact ⟨List.mem_of_find?_eq_some h, by simpa using List.find?_some h⟩
  · rintro ⟨hmem, hletter⟩
    cases f <;> cases hletter <;> cases scope <;> first | rfl | exact absurd hmem (by decide)

/-- The bytes of arguments that are texts. -/
def typed (texts : List String) : List Utf8.Bytes := texts.map fun text => Utf8.encode text.toList

theorem map_ofBytes_typed (texts : List String) : (typed texts).map Argument.ofBytes = texts.map .ofText := by
  rw [typed, List.map_map]
  exact List.map_congr_left fun text _ => Argument.ofBytes_encode text

/-! ## Items -/

/-- What an argument with a dash in front asks for. -/
inductive Item
  | raised (f : Flag)
  | awaited (slot : Slot)
  | attached (slot : Slot) (value : Argument)

/-- Letters behind one dash spell items; what follows a letter with a slot is its value. -/
inductive SpellsLetters (scope : Scope) : Argument → List Item → Prop
  | nil : SpellsLetters scope [] []
  | raised {f : Flag} {c : Char} {rest : Argument} {items : List Item} : f ∈ scope.flags → f.letter? = some c →
      f.slot? = none → SpellsLetters scope rest items → SpellsLetters scope (.scalar c :: rest) (.raised f :: items)
  | awaited {f : Flag} {c : Char} {slot : Slot} : f ∈ scope.flags → f.letter? = some c → f.slot? = some slot →
      SpellsLetters scope [.scalar c] [.awaited slot]
  | assigned {f : Flag} {c : Char} {slot : Slot} (v : Argument) : f ∈ scope.flags → f.letter? = some c →
      f.slot? = some slot → SpellsLetters scope (.scalar c :: .scalar '=' :: v) [.attached slot v]
  | attached {f : Flag} {c : Char} {slot : Slot} {v : Argument} : f ∈ scope.flags → f.letter? = some c →
      f.slot? = some slot → v ≠ [] → v.head? ≠ some (.scalar '=') →
      SpellsLetters scope (.scalar c :: v) [.attached slot v]

/-- Arguments with a dash in front spell items. -/
inductive Spells (scope : Scope) : Argument → List Item → Prop
  | raised {f : Flag} : f ∈ scope.flags → f.slot? = none → Spells scope f.written [.raised f]
  | awaited {f : Flag} {slot : Slot} : f ∈ scope.flags → f.slot? = some slot →
      Spells scope f.written [.awaited slot]
  | assigned {f : Flag} {slot : Slot} (v : Argument) : f ∈ scope.flags → f.slot? = some slot →
      Spells scope (f.written ++ .scalar '=' :: v) [.attached slot v]
  | letters {c : Utf8.Piece} {rest : Argument} {items : List Item} : c ≠ .scalar '-' →
      SpellsLetters scope (c :: rest) items → Spells scope (.scalar '-' :: c :: rest) items

namespace Progress

/-- What one item does; the flags that ask for help or the version end the reading. -/
inductive Puts (p : Progress) : Item → Progress → Prop
  | raised {p₁ : Progress} {f : Flag} {g : Given} : p.settle = .ok p₁ → f ≠ .help → f ≠ .version →
      p₁.given.raise f = .ok g → Puts p (.raised f) { p₁ with given := g }
  | awaited {p₁ : Progress} (slot : Slot) : p.settle = .ok p₁ →
      Puts p (.awaited slot) { p₁ with waiting := .value slot }
  | attached {p₁ : Progress} {slot : Slot} {v : Argument} {g : Given} : p.settle = .ok p₁ →
      p₁.given.fill slot v = .ok g → Puts p (.attached slot v) { p₁ with given := g }

/-- What items do one after the other. -/
inductive PutsAll : Progress → List Item → Progress → Prop
  | nil (p : Progress) : PutsAll p [] p
  | cons {p q r : Progress} {item : Item} {items : List Item} : p.Puts item q → PutsAll q items r →
      PutsAll p (item :: items) r

/-- What an argument does that is no command. -/
inductive Takes (scope : Scope) (p : Progress) (a : Argument) : Progress → Prop
  | separator : p.positionalsOnly = false → a = .ofText "--" → Takes scope p a { p with positionalsOnly := true }
  | flags {items : List Item} {q : Progress} : p.positionalsOnly = false → Spells scope a items →
      p.PutsAll items q → Takes scope p a q
  | value {slot : Slot} : p.positionalsOnly = false → a.isDashed = false → p.waiting = .value slot →
      Takes scope p a { p with waiting := .held slot a }
  | positional {slot : Slot} {p₁ : Progress} : scope.positional? = some slot →
      (p.positionalsOnly = false → a.isDashed = false) → p.given.shell = none →
      (∀ v, p.waiting ≠ .held .shell v) → p.settle = .ok p₁ →
      Takes scope p a { p₁ with waiting := .held slot a }

variable {p q : Progress} {slot : Slot} {color : Argument}

/-! ## What an item does -/

theorem attach_eq_ok_iff {v : Argument} : p.attach slot v = .ok q ↔ p.Puts (.attached slot v) q := by
  rw [attach, bind_eq_ok_iff]
  constructor
  · rintro ⟨p₁, hsettle, h⟩
    obtain ⟨g, hfill, hq⟩ := bind_eq_ok_iff.1 h
    cases hq
    exact .attached hsettle hfill
  · rintro (_ | _ | ⟨hsettle, hfill⟩)
    exact ⟨_, hsettle, bind_eq_ok_iff.2 ⟨_, hfill, rfl⟩⟩

theorem await_eq_ok_iff : p.await slot = .ok q ↔ p.Puts (.awaited slot) q := by
  rw [await, bind_eq_ok_iff]
  constructor
  · rintro ⟨p₁, hsettle, hq⟩
    cases hq
    exact .awaited slot hsettle
  · rintro (_ | ⟨-, hsettle⟩)
    exact ⟨_, hsettle, rfl⟩

theorem raise_eq_ok_iff {amount : Help.Amount} : raise scope color amount p f = .ok q ↔ p.Puts (.raised f) q := by
  rw [raise, bind_eq_ok_iff]
  constructor
  · rintro ⟨p₁, hsettle, h⟩
    split at h
    case h_1 => cases h
    case h_2 => cases h
    case h_3 hhelp hversion =>
      obtain ⟨g, hraise, hq⟩ := bind_eq_ok_iff.1 h
      cases hq
      exact .raised hsettle hhelp hversion hraise
  · rintro (⟨hsettle, hhelp, hversion, hraise⟩ | _ | _)
    refine ⟨_, hsettle, ?_⟩
    cases f with
    | help => exact absurd rfl hhelp
    | version => exact absurd rfl hversion
    | _ => exact bind_eq_ok_iff.2 ⟨_, hraise, rfl⟩

theorem putsAll_singleton_iff {item : Item} : p.PutsAll [item] q ↔ p.Puts item q := by
  constructor
  · rintro (_ | ⟨hputs, _ | _⟩)
    exact hputs
  · exact fun h => .cons h (.nil q)

/-- Letters are taken only if they spell items that are. -/
theorem exists_items_of_takeLetters {a : Argument} (h : takeLetters scope color p a = .ok q) :
    ∃ items, SpellsLetters scope a items ∧ p.PutsAll items q := by
  induction a generalizing p with
  | nil =>
    cases h
    exact ⟨[], .nil, .nil _⟩
  | cons x rest ih =>
    cases x with
    | malformed run => cases h
    | scalar c =>
      rw [takeLetters] at h
      cases hletter : scope.letter? c with
      | none => simp [hletter] at h
      | some f =>
        simp only [hletter] at h
        obtain ⟨hmem, hc⟩ := Scope.letter?_eq_some_iff.1 hletter
        cases hslot : f.slot? with
        | none =>
          simp only [hslot] at h
          cases hraise : raise scope color .brief p f with
          | error r => simp [hraise] at h
          | ok p₁ =>
            simp only [hraise] at h
            obtain ⟨items, hspells, hputs⟩ := ih h
            exact ⟨_, .raised hmem hc hslot hspells, .cons (raise_eq_ok_iff.1 hraise) hputs⟩
        | some slot =>
          -- The rest of the argument is the value, so the letters end here.
          simp only [hslot] at h
          split at h
          case h_1 => exact ⟨_, .awaited hmem hc hslot, putsAll_singleton_iff.2 (await_eq_ok_iff.1 h)⟩
          case h_2 v => exact ⟨_, .assigned v hmem hc hslot, putsAll_singleton_iff.2 (attach_eq_ok_iff.1 h)⟩
          case h_3 hne hassign =>
            refine ⟨_, .attached hmem hc hslot hne ?_, putsAll_singleton_iff.2 (attach_eq_ok_iff.1 h)⟩
            intro hhead
            obtain ⟨v, hv⟩ := List.head?_eq_some_iff.1 hhead
            exact hassign v hv

/-- Letters do what the items do that they spell. -/
theorem takeLetters_of_spells {a : Argument} {items : List Item} (hspells : SpellsLetters scope a items)
    (hputs : p.PutsAll items q) : takeLetters scope color p a = .ok q := by
  induction hspells generalizing p with
  | nil =>
    cases hputs
    rfl
  | raised hmem hc hslot _ ih =>
    obtain _ | ⟨hput, hputs⟩ := hputs
    rw [takeLetters, Scope.letter?_eq_some_iff.2 ⟨hmem, hc⟩]
    simp only [hslot]
    rw [raise_eq_ok_iff.2 hput]
    exact ih hputs
  | awaited hmem hc hslot =>
    rw [takeLetters, Scope.letter?_eq_some_iff.2 ⟨hmem, hc⟩]
    simp only [hslot]
    exact await_eq_ok_iff.2 (putsAll_singleton_iff.1 hputs)
  | assigned v hmem hc hslot =>
    rw [takeLetters, Scope.letter?_eq_some_iff.2 ⟨hmem, hc⟩]
    simp only [hslot]
    exact attach_eq_ok_iff.2 (putsAll_singleton_iff.1 hputs)
  | attached hmem hc hslot hne hhead =>
    rw [takeLetters, Scope.letter?_eq_some_iff.2 ⟨hmem, hc⟩]
    simp only [hslot]
    split
    · exact absurd rfl hne
    · exact absurd rfl hhead
    · exact attach_eq_ok_iff.2 (putsAll_singleton_iff.1 hputs)

theorem takeLong_none_eq_ok_iff {name : Argument} : p.takeLong scope color name none = .ok q ↔
    ∃ f ∈ scope.flags, name = f.long.toList.map .scalar ∧
      (f.slot? = none ∧ p.Puts (.raised f) q ∨ ∃ slot, f.slot? = some slot ∧ p.Puts (.awaited slot) q) := by
  rw [takeLong]
  constructor
  · intro h
    cases hlong : name.text?.bind scope.long? with
    | none => simp [hlong] at h
    | some f =>
      simp only [hlong] at h
      obtain ⟨hmem, hname⟩ := Scope.bind_long?_eq_some_iff.1 hlong
      refine ⟨f, hmem, hname, ?_⟩
      cases hslot : f.slot? with
      | none =>
        simp only [hslot] at h
        exact .inl ⟨rfl, raise_eq_ok_iff.1 h⟩
      | some slot =>
        simp only [hslot] at h
        exact .inr ⟨slot, rfl, await_eq_ok_iff.1 h⟩
  · rintro ⟨f, hmem, rfl, h⟩
    rw [Scope.bind_long?_eq_some_iff.2 ⟨hmem, rfl⟩]
    rcases h with ⟨hslot, hputs⟩ | ⟨slot, hslot, hputs⟩
    · simp only [hslot]
      exact raise_eq_ok_iff.2 hputs
    · simp only [hslot]
      exact await_eq_ok_iff.2 hputs

theorem takeLong_some_eq_ok_iff {name v : Argument} : p.takeLong scope color name (some v) = .ok q ↔
    ∃ f ∈ scope.flags, name = f.long.toList.map .scalar ∧
      ∃ slot, f.slot? = some slot ∧ p.Puts (.attached slot v) q := by
  rw [takeLong]
  constructor
  · intro h
    cases hlong : name.text?.bind scope.long? with
    | none => simp [hlong] at h
    | some f =>
      simp only [hlong] at h
      obtain ⟨hmem, hname⟩ := Scope.bind_long?_eq_some_iff.1 hlong
      refine ⟨f, hmem, hname, ?_⟩
      cases hslot : f.slot? with
      | none => simp [hslot] at h
      | some slot =>
        simp only [hslot] at h
        exact ⟨slot, rfl, attach_eq_ok_iff.1 h⟩
  · rintro ⟨f, hmem, rfl, slot, hslot, hputs⟩
    rw [Scope.bind_long?_eq_some_iff.2 ⟨hmem, rfl⟩]
    simp only [hslot]
    exact attach_eq_ok_iff.2 hputs

/-! ## Arguments that are taken -/

theorem take_name {name : Argument} (hopen : p.positionalsOnly = false) (hne : name ≠ [])
    (hname : .scalar '=' ∉ name) :
    p.take scope color (.scalar '-' :: .scalar '-' :: name) = p.takeLong scope color name none := by
  have hspan : name.span (· ≠ .scalar '=') = (name, []) := by
    rw [List.span_eq_takeWhile_dropWhile, List.takeWhile_eq_self_iff.2, List.dropWhile_eq_nil_iff.2]
    all_goals
      intro x hx
      simp only [decide_eq_true_eq]
      exact ne_of_mem_of_not_mem hx hname
  cases name with
  | nil => exact absurd rfl hne
  | cons x name =>
    simp only [take, hopen, Bool.false_eq_true, if_false]
    rw [hspan]

theorem take_assignment {name : Argument} (v : Argument) (hopen : p.positionalsOnly = false)
    (hname : .scalar '=' ∉ name) :
    p.take scope color (.scalar '-' :: .scalar '-' :: (name ++ .scalar '=' :: v)) =
      p.takeLong scope color name (some v) := by
  have hspan : (name ++ .scalar '=' :: v).span (· ≠ .scalar '=') = (name, .scalar '=' :: v) := by
    have hall : ∀ x ∈ name, decide (x ≠ .scalar '=') = true := by
      intro x hx
      simp only [decide_eq_true_eq]
      exact ne_of_mem_of_not_mem hx hname
    rw [List.span_eq_takeWhile_dropWhile, List.takeWhile_append_of_pos hall, List.dropWhile_append_of_pos hall]
    simp
  cases hrest : name ++ .scalar '=' :: v with
  | nil => simp at hrest
  | cons x rest =>
    simp only [take, hopen, Bool.false_eq_true, if_false]
    rw [← hrest, hspan]

theorem take_letters {c : Utf8.Piece} {rest : Argument} (hopen : p.positionalsOnly = false) (hc : c ≠ .scalar '-') :
    p.take scope color (.scalar '-' :: c :: rest) = takeLetters scope color p (c :: rest) := by
  simp [take, hopen, hc]

theorem take_separator (hopen : p.positionalsOnly = false) :
    p.take scope color (.ofText "--") = .ok { p with positionalsOnly := true } := by
  change p.take scope color [.scalar '-', .scalar '-'] = _
  simp [take, hopen]

theorem take_positionalsOnly {a : Argument} (h : p.positionalsOnly = true) :
    p.take scope color a = p.takePositional scope a := by
  unfold take
  rw [if_pos h]

theorem take_plain {a : Argument} (hopen : p.positionalsOnly = false) (ha : a.isDashed = false) :
    p.take scope color a =
      match p.waiting with
      | .value slot => .ok { p with waiting := .held slot a }
      | _ => p.takePositional scope a := by
  unfold take
  rw [hopen, if_neg Bool.false_ne_true]
  split
  · exact absurd rfl (Argument.ne_of_plain ha _ _)
  · exact absurd rfl (Argument.ne_of_plain ha _ _)
  · exact absurd rfl (Argument.ne_of_plain ha _ _)
  · rfl

theorem takePositional_eq_ok_iff {a : Argument} : p.takePositional scope a = .ok q ↔
    ∃ slot p₁, scope.positional? = some slot ∧ p.given.shell = none ∧ (∀ v, p.waiting ≠ .held .shell v) ∧
      p.settle = .ok p₁ ∧ q = { p₁ with waiting := .held slot a } := by
  rw [takePositional]
  cases scope.positional? with
  | none =>
    simp only
    split_ifs <;> simp
  | some slot =>
    simp only
    split_ifs with htaken
    · refine iff_of_false (by simp) ?_
      rintro ⟨_, p₁, -, hshell, hheld, -⟩
      rw [hshell] at htaken
      split at htaken
      case h_1 v hwaiting => exact hheld v hwaiting
      case h_2 => cases htaken
    · obtain ⟨hshell, hwaiting⟩ := not_or.1 (mt Bool.or_eq_true_iff.2 htaken)
      rw [bind_eq_ok_iff]
      constructor
      · rintro ⟨p₁, hsettle, hq⟩
        cases hq
        refine ⟨slot, p₁, rfl, Option.not_isSome_iff_eq_none.1 hshell, ?_, hsettle, rfl⟩
        intro v hheld
        exact hwaiting (by rw [hheld])
      · rintro ⟨_, p₁, hslot, -, -, hsettle, rfl⟩
        cases hslot
        exact ⟨p₁, hsettle, rfl⟩

/-- Two dashes and more are taken only if they spell items: the first equals sign ends the name. -/
theorem exists_items_of_take_long {rest : Argument} (hopen : p.positionalsOnly = false) (hne : rest ≠ [])
    (h : p.take scope color (.scalar '-' :: .scalar '-' :: rest) = .ok q) :
    ∃ items, Spells scope (.scalar '-' :: .scalar '-' :: rest) items ∧ p.PutsAll items q := by
  by_cases hequals : .scalar '=' ∈ rest
  · obtain ⟨name, v, rfl, hname⟩ := List.eq_append_cons_of_mem hequals
    rw [take_assignment v hopen hname] at h
    obtain ⟨f, hmem, rfl, slot, hslot, hputs⟩ := takeLong_some_eq_ok_iff.1 h
    exact ⟨_, .assigned v hmem hslot, putsAll_singleton_iff.2 hputs⟩
  · rw [take_name hopen hne hequals] at h
    obtain ⟨f, hmem, rfl, ⟨hslot, hputs⟩ | ⟨slot, hslot, hputs⟩⟩ := takeLong_none_eq_ok_iff.1 h
    · exact ⟨_, .raised hmem hslot, putsAll_singleton_iff.2 hputs⟩
    · exact ⟨_, .awaited hmem hslot, putsAll_singleton_iff.2 hputs⟩

/-- An argument does what the items do that it spells. -/
theorem take_of_spells {a : Argument} {items : List Item} (hopen : p.positionalsOnly = false)
    (hspells : Spells scope a items) (hputs : p.PutsAll items q) : p.take scope color a = .ok q := by
  cases hspells with
  | @raised f hmem hslot =>
    rw [Flag.written, take_name hopen f.long_ne_nil f.not_mem_long]
    exact takeLong_none_eq_ok_iff.2 ⟨f, hmem, rfl, .inl ⟨hslot, putsAll_singleton_iff.1 hputs⟩⟩
  | @awaited f slot hmem hslot =>
    rw [Flag.written, take_name hopen f.long_ne_nil f.not_mem_long]
    exact takeLong_none_eq_ok_iff.2 ⟨f, hmem, rfl, .inr ⟨slot, hslot, putsAll_singleton_iff.1 hputs⟩⟩
  | @assigned f slot v hmem hslot =>
    rw [Flag.written, List.cons_append, List.cons_append, take_assignment v hopen f.not_mem_long]
    exact takeLong_some_eq_ok_iff.2 ⟨f, hmem, rfl, slot, hslot, putsAll_singleton_iff.1 hputs⟩
  | letters hdash hspells =>
    rw [take_letters hopen hdash]
    exact takeLetters_of_spells hspells hputs

theorem settle_value (h : p.waiting = .value slot) : p.settle ≠ .ok q := by
  simp [settle, h]

/-- An argument that is no command does what `Takes` says, and with no other does the reading go on. -/
theorem take_eq_ok_iff {a : Argument} : p.take scope color a = .ok q ↔ p.Takes scope a q := by
  constructor
  · intro h
    cases hopen : p.positionalsOnly with
    | true =>
      rw [take_positionalsOnly hopen] at h
      obtain ⟨slot, p₁, hslot, hshell, hheld, hsettle, rfl⟩ := takePositional_eq_ok_iff.1 h
      exact .positional hslot (by simp [hopen]) hshell hheld hsettle
    | false =>
      cases hdash : a.isDashed with
      | false =>
        rw [take_plain hopen hdash] at h
        split at h
        case h_1 slot hwaiting =>
          cases h
          exact .value hopen hdash hwaiting
        case h_2 =>
          obtain ⟨slot, p₁, hslot, hshell, hheld, hsettle, rfl⟩ := takePositional_eq_ok_iff.1 h
          exact .positional hslot (fun _ => hdash) hshell hheld hsettle
      | true =>
        obtain ⟨c, rest, rfl⟩ := Argument.isDashed_iff.1 hdash
        -- A second dash tells a name from letters, and nothing behind it the end of the flags.
        by_cases hc : c = .scalar '-'
        · subst hc
          by_cases hrest : rest = []
          · subst hrest
            cases (take_separator hopen).symm.trans h
            exact .separator hopen rfl
          · obtain ⟨items, hspells, hputs⟩ := exists_items_of_take_long hopen hrest h
            exact .flags hopen hspells hputs
        · rw [take_letters hopen hc] at h
          obtain ⟨items, hspells, hputs⟩ := exists_items_of_takeLetters h
          exact .flags hopen (.letters hc hspells) hputs
  · intro h
    cases h with
    | separator hopen ha =>
      rw [ha]
      exact take_separator hopen
    | flags hopen hspells hputs => exact take_of_spells hopen hspells hputs
    | value hopen hdash hwaiting => rw [take_plain hopen hdash, hwaiting]
    | @positional slot p₁ hslot hdash hshell hheld hsettle =>
      have hpositional : p.takePositional scope a = .ok { p₁ with waiting := .held slot a } :=
        takePositional_eq_ok_iff.2 ⟨_, _, hslot, hshell, hheld, hsettle, rfl⟩
      cases hopen : p.positionalsOnly with
      | true => exact (take_positionalsOnly hopen).trans hpositional
      | false =>
        rw [take_plain hopen (hdash hopen)]
        split
        case h_1 hwaiting => exact absurd hsettle (settle_value hwaiting)
        case h_2 => exact hpositional

end Progress

end StartupConfig.CommandLine
