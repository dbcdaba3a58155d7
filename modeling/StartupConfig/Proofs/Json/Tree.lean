import StartupConfig.Proofs.Json.Record

/-!
# Written JSON determines its tree

The first character of a written tree tells its shape, and the tree tells where its text ends. So a tree can be
cancelled from the front of two equal texts, item by item and member by member.
-/
namespace StartupConfig

/-- What a tree is, apart from what it holds. -/
inductive Tree.Shape
  | text
  | integer
  | flag (value : Bool)
  | list
  | record
  deriving DecidableEq, Repr

/-- The shape of a tree. -/
def Tree.shape : Tree → Shape
  | .text _ => .text
  | .integer _ => .integer
  | .flag value => .flag value
  | .list _ => .list
  | .record _ => .record

namespace Json

/-- The shape that the first character of a written tree stands for. -/
def shapeOf (c : Char) : Tree.Shape :=
  if c = '"' then .text
  else if c = 't' then .flag true
  else if c = 'f' then .flag false
  else if c = '[' then .list
  else if c = '{' then .record
  else .integer

theorem exists_render (z : Int) :
    ∃ c cs, Decimal.render z = c :: cs ∧ shapeOf c = .integer ∧ isBlank c = false ∧ c ≠ ']' := by
  have hdigit {c : Char} (hc : c.isDigit) : shapeOf c = .integer := by
    unfold shapeOf
    repeat rw [if_neg (Decimal.ne_of_isDigit hc rfl)]
  obtain ⟨d, ds, hd, hd', -⟩ := Decimal.exists_renderNat z.natAbs
  unfold Decimal.render
  split
  · exact ⟨'-', _, rfl, rfl, rfl, by decide⟩
  · exact ⟨d, ds, hd, hdigit hd', isBlank_digit hd', Decimal.ne_of_isDigit hd' rfl⟩

/-- The first character of a written tree tells its shape; no tree begins with a blank or the end of a list. -/
theorem exists_write (l : Layout) (depth : Nat) (t : Tree) :
    ∃ c cs, write l depth t = c :: cs ∧ shapeOf c = t.shape ∧ isBlank c = false ∧ c ≠ ']' := by
  cases t with
  | text value => exact ⟨'"', _, rfl, rfl, rfl, by decide⟩
  | integer value => exact exists_render value
  | flag value => cases value <;> exact ⟨_, _, rfl, rfl, rfl, by decide⟩
  | list ts => cases ts <;> exact ⟨'[', _, rfl, rfl, rfl, by decide⟩
  | record ms => cases ms <;> exact ⟨'{', _, rfl, rfl, rfl, by decide⟩

/-- Trees whose texts begin alike have the same shape. -/
theorem shape_eq_of_append {l : Layout} {depth : Nat} {t t' : Tree} {rest rest' : List Char}
    (h : write l depth t ++ rest = write l depth t' ++ rest') : t.shape = t'.shape := by
  obtain ⟨c, cs, hc, hshape, -⟩ := exists_write l depth t
  obtain ⟨c', cs', hc', hshape', -⟩ := exists_write l depth t'
  rw [hc, hc'] at h
  rw [← hshape, ← hshape', (List.cons.inj h).1]

/-- A quoted text can be cancelled. -/
theorem quote_append_inj {s s' rest rest' : List Char} (h : quote s ++ rest = quote s' ++ rest') :
    s = s' ∧ rest = rest' := by
  have hread := congrArg (readText "") h
  simpa [readText_quote] using hread

/-! ## Trees -/

/-- A tree can be cancelled from the front of a text, in front of anything that does not go on with an integer. -/
def Cancels (depth : Nat) (t : Tree) : Prop :=
  ∀ (t' : Tree) (rest rest' : List Char), EndsInteger rest → EndsInteger rest' →
    write .indented depth t ++ rest = write .indented depth t' ++ rest' → t = t' ∧ rest = rest'

/-- Items behind the first can be cancelled together with the end of their list. -/
def CancelsItems (depth : Nat) (ts : List Tree) : Prop :=
  ∀ (ts' : List Tree) (outer : Nat) (rest rest' : List Char),
    writeItems .indented depth ts ++ (Layout.indented.lineBreak outer ++ ']' :: rest)
      = writeItems .indented depth ts' ++ (Layout.indented.lineBreak outer ++ ']' :: rest') →
    ts = ts' ∧ rest = rest'

/-- Members behind the first can be cancelled together with the end of their record. -/
def CancelsMembers (depth : Nat) (ms : List (String × Tree)) : Prop :=
  ∀ (ms' : List (String × Tree)) (outer : Nat) (rest rest' : List Char),
    writeMembers .indented depth ms ++ (Layout.indented.lineBreak outer ++ '}' :: rest)
      = writeMembers .indented depth ms' ++ (Layout.indented.lineBreak outer ++ '}' :: rest') →
    ms = ms' ∧ rest = rest'

/-! ### Scalars -/

theorem cancels_text (depth : Nat) (value : String) : Cancels depth (.text value) := by
  intro t' rest rest' _ _ h
  have hshape := shape_eq_of_append h
  cases t' with
  | text value' =>
    obtain ⟨hvalue, hrest⟩ := quote_append_inj h
    exact ⟨congrArg Tree.text (String.toList_inj.1 hvalue), hrest⟩
  | _ => simp [Tree.shape] at hshape

theorem cancels_integer (depth : Nat) (value : Int) : Cancels depth (.integer value) := by
  intro t' rest rest' hrest hrest' h
  have hshape := shape_eq_of_append h
  cases t' with
  | integer value' =>
    obtain ⟨rfl, hrest⟩ := Decimal.render_append_inj (fun c hc => (hrest c hc).1) (fun c hc => (hrest' c hc).1) h
    exact ⟨rfl, hrest⟩
  | _ => simp [Tree.shape] at hshape

theorem cancels_flag (depth : Nat) (value : Bool) : Cancels depth (.flag value) := by
  intro t' rest rest' _ _ h
  have hshape := shape_eq_of_append h
  cases t' with
  | flag value' =>
    obtain rfl : value = value' := by simpa [Tree.shape] using hshape
    exact ⟨rfl, List.append_cancel_left h⟩
  | _ => simp [Tree.shape] at hshape

/-! ### Lists -/

/-- What follows an item begins with a comma or ends the list. -/
theorem endsInteger_writeItems {l : Layout} (hl : l.IsSpaced) (ts : List Tree) (depth outer : Nat) (rest : List Char) :
    EndsInteger (writeItems l depth ts ++ (l.lineBreak outer ++ ']' :: rest)) := by
  have hend : EndsInteger (']' :: rest) := EndsInteger.cons (by decide) rest
  cases ts with
  | nil =>
    rw [writeItems, List.nil_append]
    exact hend.append (hl.lineBreak outer)
  | cons t ts => exact EndsInteger.cons (c := ',') (by decide) _

/-- An item can be cancelled together with the rest of its list. -/
theorem cancel_item {depth outer : Nat} {t t' : Tree} {ts ts' : List Tree} {rest rest' : List Char}
    (ht : Cancels depth t) (hts : CancelsItems depth ts)
    (h : write .indented depth t ++ (writeItems .indented depth ts ++ (Layout.indented.lineBreak outer ++ ']' :: rest))
      = write .indented depth t'
        ++ (writeItems .indented depth ts' ++ (Layout.indented.lineBreak outer ++ ']' :: rest'))) :
    t = t' ∧ ts = ts' ∧ rest = rest' := by
  -- What stands behind an item ends an integer in it, so both items end at the same place.
  have hends := endsInteger_writeItems Layout.isSpaced_indented ts depth outer rest
  have hends' := endsInteger_writeItems Layout.isSpaced_indented ts' depth outer rest'
  obtain ⟨ht, h⟩ := ht t' _ _ hends hends' h
  exact ⟨ht, hts ts' outer rest rest' h⟩

theorem cancels_emptyList (depth : Nat) : Cancels depth (.list []) := by
  intro t' rest rest' _ _ h
  have hshape := shape_eq_of_append h
  cases t' with
  | list ts' =>
    cases ts' with
    | nil => exact ⟨rfl, List.append_cancel_left h⟩
    | cons t' ts' => simp [write, Layout.indented] at h
  | _ => simp [Tree.shape] at hshape

theorem cancels_list {depth : Nat} {t : Tree} {ts : List Tree} (ht : Cancels (depth + 1) t)
    (hts : CancelsItems (depth + 1) ts) : Cancels depth (.list (t :: ts)) := by
  intro t' rest rest' _ _ h
  have hshape := shape_eq_of_append h
  cases t' with
  | list ts' =>
    cases ts' with
    | nil => simp [write, Layout.indented] at h
    | cons t' ts' =>
      simp only [write, List.cons_append, List.append_assoc, List.cons.injEq, true_and, List.nil_append,
        List.append_cancel_left_eq] at h
      obtain ⟨rfl, rfl, hrest⟩ := cancel_item ht hts h
      exact ⟨rfl, hrest⟩
  | _ => simp [Tree.shape] at hshape

theorem cancelsItems_nil (depth : Nat) : CancelsItems depth [] := by
  intro ts' outer rest rest' h
  cases ts' with
  | nil => exact ⟨rfl, by simpa [writeItems] using h⟩
  | cons t' ts' => simp [writeItems, Layout.indented] at h

theorem cancelsItems_cons {depth : Nat} {t : Tree} {ts : List Tree} (ht : Cancels depth t)
    (hts : CancelsItems depth ts) : CancelsItems depth (t :: ts) := by
  intro ts' outer rest rest' h
  cases ts' with
  | nil => simp [writeItems, Layout.indented] at h
  | cons t' ts' =>
    simp only [writeItems, List.cons_append, List.append_assoc, List.cons.injEq, true_and,
      List.append_cancel_left_eq] at h
    obtain ⟨rfl, rfl, hrest⟩ := cancel_item ht hts h
    exact ⟨rfl, hrest⟩

/-! ### Records -/

/-- A member can be cancelled together with the rest of its record. -/
theorem cancel_member {depth outer : Nat} {m m' : String × Tree} {ms ms' : List (String × Tree)}
    {rest rest' : List Char} (ht : Cancels depth m.2) (hms : CancelsMembers depth ms)
    (h : quote m.1.toList ++ (Layout.indented.colon ++ (write .indented depth m.2
        ++ (writeMembers .indented depth ms ++ (Layout.indented.lineBreak outer ++ '}' :: rest))))
      = quote m'.1.toList ++ (Layout.indented.colon ++ (write .indented depth m'.2
        ++ (writeMembers .indented depth ms' ++ (Layout.indented.lineBreak outer ++ '}' :: rest'))))) :
    m = m' ∧ ms = ms' ∧ rest = rest' := by
  have hends := endsInteger_writeMembers Layout.isSpaced_indented ms depth outer rest
  have hends' := endsInteger_writeMembers Layout.isSpaced_indented ms' depth outer rest'
  obtain ⟨hname, h⟩ := quote_append_inj h
  obtain ⟨ht, h⟩ := ht m'.2 _ _ hends hends' (List.append_cancel_left h)
  exact ⟨Prod.ext (String.toList_inj.1 hname) ht, hms ms' outer rest rest' h⟩

theorem cancels_emptyRecord (depth : Nat) : Cancels depth (.record []) := by
  intro t' rest rest' _ _ h
  have hshape := shape_eq_of_append h
  cases t' with
  | record ms' =>
    cases ms' with
    | nil => exact ⟨rfl, List.append_cancel_left h⟩
    | cons m' ms' => simp [write, Layout.indented] at h
  | _ => simp [Tree.shape] at hshape

theorem cancels_record {depth : Nat} {m : String × Tree} {ms : List (String × Tree)}
    (ht : Cancels (depth + 1) m.2) (hms : CancelsMembers (depth + 1) ms) : Cancels depth (.record (m :: ms)) := by
  intro t' rest rest' _ _ h
  have hshape := shape_eq_of_append h
  cases t' with
  | record ms' =>
    cases ms' with
    | nil => simp [write, Layout.indented] at h
    | cons m' ms' =>
      simp only [write, List.cons_append, List.append_assoc, List.cons.injEq, true_and, List.nil_append,
        List.append_cancel_left_eq] at h
      obtain ⟨rfl, rfl, hrest⟩ := cancel_member ht hms h
      exact ⟨rfl, hrest⟩
  | _ => simp [Tree.shape] at hshape

theorem cancelsMembers_nil (depth : Nat) : CancelsMembers depth [] := by
  intro ms' outer rest rest' h
  cases ms' with
  | nil => exact ⟨rfl, by simpa [writeMembers] using h⟩
  | cons m' ms' => simp [writeMembers, Layout.indented] at h

theorem cancelsMembers_cons {depth : Nat} {m : String × Tree} {ms : List (String × Tree)}
    (ht : Cancels depth m.2) (hms : CancelsMembers depth ms) : CancelsMembers depth (m :: ms) := by
  intro ms' outer rest rest' h
  cases ms' with
  | nil => simp [writeMembers, Layout.indented] at h
  | cons m' ms' =>
    simp only [writeMembers, List.cons_append, List.append_assoc, List.cons.injEq, true_and,
      List.append_cancel_left_eq] at h
    obtain ⟨rfl, rfl, hrest⟩ := cancel_member ht hms h
    exact ⟨rfl, hrest⟩

/-! ### Trees -/

mutual

/-- Any tree can be cancelled, at any depth. -/
theorem cancels (depth : Nat) : (t : Tree) → Cancels depth t
  | .text value => cancels_text depth value
  | .integer value => cancels_integer depth value
  | .flag value => cancels_flag depth value
  | .record [] => cancels_emptyRecord depth
  | .record ((_, t) :: ms) => cancels_record (cancels (depth + 1) t) (cancelsMembers (depth + 1) ms)
  | .list [] => cancels_emptyList depth
  | .list (t :: ts) => cancels_list (cancels (depth + 1) t) (cancelsItems (depth + 1) ts)

theorem cancelsItems (depth : Nat) : (ts : List Tree) → CancelsItems depth ts
  | [] => cancelsItems_nil depth
  | t :: ts => cancelsItems_cons (cancels depth t) (cancelsItems depth ts)

theorem cancelsMembers (depth : Nat) : (ms : List (String × Tree)) → CancelsMembers depth ms
  | [] => cancelsMembers_nil depth
  | (_, t) :: ms => cancelsMembers_cons (cancels depth t) (cancelsMembers depth ms)

end

/-- Different trees are written differently. -/
theorem render_injective {t t' : Tree} (h : render t = render t') : t = t' := by
  have hnil : EndsInteger [] := by simp [EndsInteger]
  have happend : write .indented 0 t ++ [] = write .indented 0 t' ++ [] := congrArg (· ++ []) h
  exact (cancels 0 t t' [] [] hnil hnil happend).1

end Json

end StartupConfig
