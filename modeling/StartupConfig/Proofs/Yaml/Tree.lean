import StartupConfig.Proofs.Yaml.Events

/-!
# Written YAML determines its tree

The events of a written tree are read from its text, and they determine the tree in turn: what begins a node tells
its shape, and a list and a record have ends of their own. Events do not keep the types of scalars, so a tree is
determined up to those.
-/
namespace StartupConfig

namespace Tree

mutual

/-- The same tree with every scalar as a text. -/
def untyped : Tree → Tree
  | .text value => .text value
  | .integer value => .text (String.ofList (Decimal.render value))
  | .flag value => .text (if value then "true" else "false")
  | .list ts => .list (untypedItems ts)
  | .record ms => .record (untypedMembers ms)

/-- The same items with every scalar as a text. -/
def untypedItems : List Tree → List Tree
  | [] => []
  | t :: ts => t.untyped :: untypedItems ts

/-- The same members with every scalar as a text. -/
def untypedMembers : List (String × Tree) → List (String × Tree)
  | [] => []
  | (name, t) :: ms => (name, t.untyped) :: untypedMembers ms

end

theorem untypedItems_eq (ts : List Tree) : untypedItems ts = ts.map untyped := by
  induction ts with
  | nil => rfl
  | cons t ts ih => rw [untypedItems, ih, List.map_cons]

end Tree

namespace Yaml

/-- The parts of a tree can be cancelled from the front of others, which tells the tree but for the types of its
scalars. -/
def Tells (t : Tree) : Prop :=
  ∀ (t' : Tree) (ps ps' : List Part), valueParts t ++ ps = valueParts t' ++ ps' → t.untyped = t'.untyped ∧ ps = ps'

/-- So can the parts of items with the end of their list. -/
def TellsItems (ts : List Tree) : Prop :=
  ∀ (ts' : List Tree) (ps ps' : List Part), itemParts ts ++ .listEnd :: ps = itemParts ts' ++ .listEnd :: ps' →
    Tree.untypedItems ts = Tree.untypedItems ts' ∧ ps = ps'

/-- So can the parts of members with the end of their record. -/
def TellsMembers (ms : List (String × Tree)) : Prop :=
  ∀ (ms' : List (String × Tree)) (ps ps' : List Part),
    memberParts ms ++ .recordEnd :: ps = memberParts ms' ++ .recordEnd :: ps' →
    Tree.untypedMembers ms = Tree.untypedMembers ms' ∧ ps = ps'

/-- The parts of a value begin with its content. -/
theorem exists_valueParts (t : Tree) : ∃ c ps, valueParts t = .content c :: ps := by
  cases t <;> exact ⟨_, _, rfl⟩

/-- A scalar is told by its characters. -/
theorem tells_scalar {t : Tree} {form : Form} {s : List Char} (ht : valueParts t = [.content (.scalar form s)])
    (hs : t.untyped = .text (String.ofList s)) : Tells t := by
  intro t' ps ps' h
  rw [ht] at h
  rw [hs]
  cases t' with
  | list ts' => simp [valueParts] at h
  | record ms' => simp [valueParts] at h
  | text value' =>
    obtain ⟨⟨-, rfl⟩, hps⟩ : (_ ∧ s = _) ∧ _ := by simpa [valueParts] using h
    exact ⟨by simp [Tree.untyped], hps⟩
  | integer value' =>
    obtain ⟨⟨-, rfl⟩, hps⟩ : (_ ∧ s = _) ∧ _ := by simpa [valueParts] using h
    exact ⟨rfl, hps⟩
  | flag value' =>
    obtain ⟨⟨-, rfl⟩, hps⟩ : (_ ∧ s = _) ∧ _ := by simpa [valueParts] using h
    exact ⟨by simp [Tree.untyped], hps⟩

theorem tells_list {ts : List Tree} (hts : TellsItems ts) : Tells (.list ts) := by
  intro t' ps ps' h
  cases t' with
  | list ts' =>
    simp only [valueParts, List.cons_append, List.append_assoc, List.nil_append, List.cons.injEq, true_and] at h
    obtain ⟨hitems, hps⟩ := hts ts' ps ps' h
    exact ⟨congrArg Tree.list hitems, hps⟩
  | _ => simp [valueParts] at h

theorem tellsItems_nil : TellsItems [] := by
  intro ts' ps ps' h
  cases ts' with
  | nil => exact ⟨rfl, by simpa [itemParts] using h⟩
  | cons t' ts' =>
    obtain ⟨c, qs, hc⟩ := exists_valueParts t'
    simp [itemParts, hc] at h

theorem tellsItems_cons {t : Tree} {ts : List Tree} (ht : Tells t) (hts : TellsItems ts) : TellsItems (t :: ts) := by
  intro ts' ps ps' h
  cases ts' with
  | nil =>
    obtain ⟨c, qs, hc⟩ := exists_valueParts t
    simp [itemParts, hc] at h
  | cons t' ts' =>
    simp only [itemParts, List.append_assoc] at h
    obtain ⟨htree, h⟩ := ht t' _ _ h
    obtain ⟨hitems, hps⟩ := hts ts' ps ps' h
    exact ⟨by rw [Tree.untypedItems, Tree.untypedItems, htree, hitems], hps⟩

theorem tells_record {ms : List (String × Tree)} (hms : TellsMembers ms) : Tells (.record ms) := by
  intro t' ps ps' h
  cases t' with
  | record ms' =>
    simp only [valueParts, List.cons_append, List.append_assoc, List.nil_append, List.cons.injEq, true_and] at h
    obtain ⟨hmembers, hps⟩ := hms ms' ps ps' h
    exact ⟨congrArg Tree.record hmembers, hps⟩
  | _ => simp [valueParts] at h

theorem tellsMembers_nil : TellsMembers [] := by
  intro ms' ps ps' h
  cases ms' with
  | nil => exact ⟨rfl, by simpa [memberParts] using h⟩
  | cons m' ms' => simp [memberParts] at h

theorem tellsMembers_cons {name : String} {t : Tree} {ms : List (String × Tree)} (ht : Tells t)
    (hms : TellsMembers ms) : TellsMembers ((name, t) :: ms) := by
  intro ms' ps ps' h
  cases ms' with
  | nil => simp [memberParts] at h
  | cons m' ms' =>
    obtain ⟨name', t'⟩ := m'
    simp only [memberParts, List.cons_append, List.append_assoc, List.cons.injEq, Part.content.injEq,
      Content.scalar.injEq, true_and] at h
    obtain ⟨hname, h⟩ := h
    obtain ⟨htree, h⟩ := ht t' _ _ h
    obtain ⟨hmembers, hps⟩ := hms ms' ps ps' h
    exact ⟨by rw [Tree.untypedMembers, Tree.untypedMembers, String.toList_inj.1 hname, htree, hmembers], hps⟩

mutual

/-- Any tree is told by its parts. -/
theorem tells : (t : Tree) → Tells t
  | .text value => tells_scalar rfl (by simp [Tree.untyped])
  | .integer value => tells_scalar rfl rfl
  | .flag value => tells_scalar rfl (by simp [Tree.untyped])
  | .list ts => tells_list (tellsItems ts)
  | .record ms => tells_record (tellsMembers ms)

theorem tellsItems : (ts : List Tree) → TellsItems ts
  | [] => tellsItems_nil
  | t :: ts => tellsItems_cons (tells t) (tellsItems ts)

theorem tellsMembers : (ms : List (String × Tree)) → TellsMembers ms
  | [] => tellsMembers_nil
  | (_, t) :: ms => tellsMembers_cons (tells t) (tellsMembers ms)

end

/-- Records that are written alike differ at most in the types of their scalars. -/
theorem untyped_eq_of_render {ms ms' : List (String × Tree)} (h : IsWritten (.record ms))
    (h' : IsWritten (.record ms')) (heq : render (.record ms) = render (.record ms')) :
    (Tree.record ms).untyped = (Tree.record ms').untyped := by
  obtain ⟨es, hes, hparts⟩ := Document.of_render h
  obtain ⟨es', hes', hparts'⟩ := Document.of_render h'
  -- One text has one list of events, which therefore has the parts of both records.
  rw [heq, hes'] at hes
  obtain rfl : es' = es := (Document.present.inj hes).1
  have hvalue : valueParts (.record ms) = valueParts (.record ms') :=
    (List.map_inj_right fun _ _ => Option.some.inj).1 (hparts.symm.trans hparts')
  exact (tells (.record ms) (.record ms') [] [] (by rw [hvalue])).1

end Yaml

end StartupConfig
