import StartupConfig.Proofs.CommandLine.Scopes
import StartupConfig.Proofs.Decoding

/-!
# The colour variable beside the colour flag

Each scope looks at the variable exactly where it was not given a colour, and refuses the command line if its text is no
choice; the colour of a scope that was given one is used all the same. So beside the flag the variable has no say in what
a command line means, but it does have one in whether it is read.
-/
namespace StartupConfig.CommandLine

variable {p q : Progress} {scope : Scope} {as : List Argument} {i : Invocation}

/-- The bytes of the word of a choice, and no others, choose something. -/
theorem isSome_find?_ofBytes {α : Type} (cs : List (Choice α)) (bytes : Utf8.Bytes) :
    ((Argument.text? (.ofBytes bytes)).bind (Choice.find? cs)).isSome ↔
      ∃ c ∈ cs, bytes = Utf8.encode c.word.toList := by
  constructor
  · intro h
    obtain ⟨c, hc⟩ := Option.isSome_iff_exists.1 h
    obtain ⟨text, htext, hfind⟩ := Option.bind_eq_some_iff.1 hc
    have hword : c.word.toList = text := by simpa using List.find?_some hfind
    refine ⟨c, List.mem_of_find?_eq_some hfind, ?_⟩
    rw [hword]
    exact Utf8.pieces_eq_map_iff.1 (Argument.text?_eq_some_iff.1 htext)
  · rintro ⟨c, hc, rfl⟩
    rw [Argument.ofBytes_encode, Argument.text?_ofText, Option.bind_some, Choice.find?, List.find?_isSome]
    exact ⟨c, hc, beq_self_eq_true _⟩

theorem choose_of_word {α : Type} {slot : Slot} {cs : List (Choice α)} {bytes : Utf8.Bytes}
    (h : ∃ c ∈ cs, bytes = Utf8.encode c.word.toList) : ∃ v, choose slot cs (.ofBytes bytes) = .ok v := by
  obtain ⟨c, hc⟩ := Option.isSome_iff_exists.1 ((isSome_find?_ofBytes cs bytes).2 h)
  exact ⟨c.value, choose_eq_ok_iff.2 ⟨c, hc, rfl⟩⟩

theorem choose_of_no_word {α : Type} {slot : Slot} {cs : List (Choice α)} {bytes : Utf8.Bytes}
    (h : ¬∃ c ∈ cs, bytes = Utf8.encode c.word.toList) :
    choose slot cs (.ofBytes bytes) = .error (.invalidValue slot (Utf8.lossy bytes).toList) := by
  have hlossy : Argument.lossy (.ofBytes bytes) = (Utf8.lossy bytes).toList := String.toList_ofList.symm
  rw [choose, Option.not_isSome_iff_eq_none.1 (mt (isSome_find?_ofBytes cs bytes).1 h), hlossy]

/-- A variable that is set is looked at exactly where there was no colour flag. -/
theorem Progress.finish_some {s : Settled} (h : p.finish none = .ok s) (a : Argument) :
    p.finish (some a) =
      if p.isColored then .ok s
      else (choose .color Choice.colors a).map fun c => ⟨s.given, c, false, false⟩ := by
  obtain ⟨p₁, hsettle, hgiven, hcolor⟩ := finish_spec h
  rw [← hcolor]
  simp only [finish, hsettle, bind, Except.bind, pure, Except.pure] at h ⊢
  cases hc : p₁.given.color with
  | some c =>
    simp only [hc] at h ⊢
    cases h
    rfl
  | none =>
    simp only [hc] at h ⊢
    cases h
    cases choose .color Choice.colors a <;> rfl

/-- One scope that was given a colour is enough for the meaning, but each of them looks at the variable. -/
theorem readCommand_some (h : readCommand none p scope as = .ok i) (hcolor : p.isColored ∨ givesColor as)
    (a : Argument) :
    readCommand (some a) p scope as =
      if p.isColored ∧ givesColor as then .ok i
      else (choose .color Choice.colors a).map fun _ => i := by
  obtain ⟨q, hall, inner, hinner, command, hcommand, outer, houter, rfl⟩ := readCommand_eq_ok_iff.1 h
  have hq : q.isColored = givesColor as := (Progress.takeAll_gains hall rfl).isColored
  obtain ⟨-, -, -, hp⟩ := Progress.finish_spec houter
  obtain ⟨-, -, -, hr⟩ := Progress.finish_spec hinner
  rw [hq] at hr
  have hall' : Progress.start.takeAll scope a as = .ok q := Progress.takeAll_of_color hall a
  simp only [readCommand, Option.getD_some, hall', bind, Except.bind, pure, Except.pure, Progress.finish_some hinner,
    Progress.finish_some houter, hq]
  cases hbefore : p.isColored with
  | true =>
    cases hafter : givesColor as with
    | true => simp [hcommand]
    | false =>
      cases choose .color Choice.colors a with
      | error r => simp [Except.map]
      | ok c => simp [Except.map, hcommand, merge, hp, hr, hbefore, hafter]
  | false =>
    have hafter : givesColor as = true := by simpa [hbefore] using hcolor
    cases choose .color Choice.colors a with
    | error r => simp [Except.map, hafter, hcommand]
    | ok c => simp [Except.map, hcommand, merge, hp, hr, hbefore, hafter]

/-- The colour variable beside the colour flag, in a command line that is read to its end without it. Then it is read to
the same end if the variable is a choice, or if both scopes were given a colour; otherwise the variable is refused. -/
theorem color_preset_spec {arguments : List Utf8.Bytes} {i : Invocation} (h : read none arguments = .ok i)
    (hcolor : givesColor (beforeCommand (arguments.map .ofBytes)) ∨ givesColor (afterCommand (arguments.map .ofBytes)))
    (preset : Utf8.Bytes) :
    (read (some preset) arguments = read none arguments ↔
      (∃ c ∈ Choice.colors, preset = Utf8.encode c.word.toList) ∨
      givesColor (beforeCommand (arguments.map .ofBytes)) ∧ givesColor (afterCommand (arguments.map .ofBytes))) ∧
    (read (some preset) arguments ≠ read none arguments →
      read (some preset) arguments = .error (.invalidValue .color (Utf8.lossy preset).toList)) := by
  obtain ⟨scope, q, hall, hread⟩ := exists_command_of_readProgram h
  have hq : q.isColored = givesColor (beforeCommand (arguments.map .ofBytes)) :=
    (Progress.takeAll_gains hall rfl).isColored
  rw [← hq] at hcolor ⊢
  have hnone := h
  rw [read, hread] at hnone
  have hsome : read (some preset) arguments = _ := (hread _).trans (readCommand_some hnone hcolor (.ofBytes preset))
  rw [hsome, h]
  by_cases hboth : q.isColored ∧ givesColor (afterCommand (arguments.map .ofBytes))
  · rw [if_pos hboth]
    exact ⟨iff_of_true rfl (.inr hboth), fun hne => absurd rfl hne⟩
  · rw [if_neg hboth]
    by_cases hword : ∃ c ∈ Choice.colors, preset = Utf8.encode c.word.toList
    · have hchosen : ∃ v, choose .color Choice.colors (.ofBytes preset) = .ok v := choose_of_word hword
      obtain ⟨v, hv⟩ := hchosen
      rw [hv]
      exact ⟨iff_of_true rfl (.inl hword), fun hne => absurd rfl hne⟩
    · rw [choose_of_no_word hword]
      refine ⟨iff_of_false ?_ (not_or.2 ⟨hword, hboth⟩), fun _ => rfl⟩
      intro hok
      cases hok

theorem read_color_behind :
    read none (typed ["show", "--color", "never"]) = .ok ⟨.show .human false, 0, false, false, .never⟩ := by
  rw [read, map_ofBytes_typed]
  decide

/-- A word that is no choice is refused beside a colour behind the command, and not if both scopes were given one. -/
theorem color_preset_spec_unknown :
    let preset := Utf8.encode "sometimes".toList
    read (some preset) (typed ["show", "--color", "never"]) = .error (.invalidValue .color "sometimes".toList) ∧
    read (some preset) (typed ["--color=auto", "show", "--color", "never"]) =
      .ok ⟨.show .human false, 0, false, false, .never⟩ := by
  intro preset
  have hboth : read none (typed ["--color=auto", "show", "--color", "never"]) =
      .ok ⟨.show .human false, 0, false, false, .never⟩ := by
    rw [read, map_ofBytes_typed]
    decide
  have hword : ¬∃ c ∈ Choice.colors, preset = Utf8.encode c.word.toList := by decide
  have hlossy : (Utf8.lossy preset).toList = "sometimes".toList := by rw [Utf8.lossy_encode, String.toList_ofList]
  constructor
  · obtain ⟨hiff, herror⟩ := color_preset_spec read_color_behind (by rw [map_ofBytes_typed]; decide) preset
    rw [hlossy] at herror
    apply herror
    rw [ne_eq, hiff, map_ofBytes_typed, not_or]
    exact ⟨hword, by decide⟩
  · obtain ⟨hiff, -⟩ := color_preset_spec hboth (by rw [map_ofBytes_typed]; decide) preset
    rw [← hboth, hiff, map_ofBytes_typed]
    exact .inr (by decide)

/-- It is not so that the variable has no say beside the flag: it may be set to nothing. -/
theorem not_color_preset_irrelevant :
    ¬∀ (arguments : List Utf8.Bytes) (i : Invocation), read none arguments = .ok i →
      (givesColor (beforeCommand (arguments.map .ofBytes)) ∨ givesColor (afterCommand (arguments.map .ofBytes))) →
      ∀ preset : Utf8.Bytes, read (some preset) arguments = read none arguments := by
  intro h
  have hpreset := h _ _ read_color_behind (by rw [map_ofBytes_typed]; decide) []
  rw [read_color_behind, read, map_ofBytes_typed] at hpreset
  exact absurd hpreset (by decide)

end StartupConfig.CommandLine
