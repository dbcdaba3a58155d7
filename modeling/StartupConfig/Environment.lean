import StartupConfig.Text.Utf8

/-!
# Environments

`Environment` maps names to texts; the bindings are kept sorted by name, so that two environments are
equal exactly when they answer every lookup alike. `ProcessEnvironment` holds raw bytes instead.
-/
namespace StartupConfig

/-- A map from names to texts, in increasing order of names. -/
structure Environment where
  bindings : List (String × String)
  increasing : bindings.Pairwise (fun a b => a.1 < b.1)
  deriving DecidableEq

namespace Environment

/-- Puts a binding in its place, over an earlier one of the same name. -/
def put (name value : String) : List (String × String) → List (String × String)
  | [] => [(name, value)]
  | b :: bs =>
    if name < b.1 then (name, value) :: b :: bs
    else if name = b.1 then (name, value) :: bs
    else b :: put name value bs

theorem mem_put {name value : String} {b : String × String} {bs : List (String × String)} :
    b ∈ put name value bs → b = (name, value) ∨ b ∈ bs := by
  induction bs with
  | nil => simp [put]
  | cons c cs ih =>
    simp only [put]
    split
    · simp
    · split
      · simp only [List.mem_cons]; rintro (h | h) <;> simp [h]
      · simp only [List.mem_cons]; rintro (h | h)
        · simp [h]
        · rcases ih h with h | h <;> simp [h]

theorem pairwise_put (name value : String) {bs : List (String × String)}
    (h : bs.Pairwise (fun a b => a.1 < b.1)) :
    (put name value bs).Pairwise (fun a b => a.1 < b.1) := by
  induction bs with
  | nil => simp [put]
  | cons c cs ih =>
    rw [List.pairwise_cons] at h
    simp only [put]
    split
    · next hlt =>
      refine List.pairwise_cons.2 ⟨fun b hb => ?_, List.pairwise_cons.2 h⟩
      rcases List.mem_cons.1 hb with rfl | hb
      · exact hlt
      · exact String.lt_trans hlt (h.1 b hb)
    · split
      · next heq => exact List.pairwise_cons.2 ⟨fun b hb => heq ▸ h.1 b hb, h.2⟩
      · next hlt hne =>
        refine List.pairwise_cons.2 ⟨fun b hb => ?_, ih h.2⟩
        rcases mem_put hb with rfl | hb
        · exact Std.lt_of_le_of_ne (Std.not_lt.1 hlt) (fun e => hne e.symm)
        · exact h.1 b hb

/-- The environment without bindings. -/
def empty : Environment := ⟨[], .nil⟩

/-- Adds a binding, or replaces the one of the same name. -/
def set (e : Environment) (name value : String) : Environment :=
  ⟨put name value e.bindings, pairwise_put name value e.increasing⟩

/-- The environment of a list of pairs, put in one after the other: the last of equal names holds. -/
def ofList (pairs : List (String × String)) : Environment :=
  pairs.foldl (fun e p => e.set p.1 p.2) empty

/-- The text bound to a name. -/
def lookup (e : Environment) (name : String) : Option String := e.bindings.lookup name

theorem lookup_binding (b : String × String) (bs : List (String × String)) (name : String) :
    (b :: bs).lookup name = if name = b.1 then some b.2 else bs.lookup name := by
  rw [List.lookup_cons]
  by_cases h : name = b.1
  · simp [h]
  · simp [h, beq_false_of_ne h]

theorem lookup_put (name value other : String) (bs : List (String × String)) :
    (put name value bs).lookup other = if other = name then some value else bs.lookup other := by
  induction bs with
  | nil => rw [put, lookup_binding]
  | cons b bs ih =>
    rw [put]
    split
    · rw [lookup_binding]
    · split
      · next heq =>
        rw [lookup_binding, lookup_binding, ← heq]
        split <;> rfl
      · next hne =>
        rw [lookup_binding, lookup_binding, ih]
        by_cases h : other = b.1
        · rw [if_pos h, if_pos h, if_neg (h ▸ Ne.symm hne)]
        · rw [if_neg h, if_neg h]

/-- A binding answers for its own name and for no other. -/
@[simp] theorem lookup_set (e : Environment) (name value other : String) :
    (e.set name value).lookup other = if other = name then some value else e.lookup other :=
  lookup_put name value other e.bindings

@[simp] theorem lookup_empty (name : String) : empty.lookup name = none := rfl

/-- Of equal names in a list of pairs the last one answers. -/
theorem lookup_ofList (pairs : List (String × String)) (name : String) :
    (ofList pairs).lookup name = pairs.reverse.lookup name := by
  suffices h : ∀ e : Environment, (pairs.foldl (fun e p => e.set p.1 p.2) e).lookup name
      = (pairs.reverse.lookup name).or (e.lookup name) by
    rw [ofList, h empty, lookup_empty, Option.or_none]
  induction pairs with
  | nil => simp
  | cons p pairs ih =>
    intro e
    rw [List.foldl_cons, ih, lookup_set, List.reverse_cons, List.lookup_append, lookup_binding]
    cases pairs.reverse.lookup name with
    | some value => simp
    | none => split <;> simp [*]

/-! ## Environments made at once -/

/-- Is a binding in place before another? -/
def isBefore (a b : String × String) : Bool := decide (a.1 ≤ b.1)

theorem isBefore_trans (a b c : String × String) (hab : isBefore a b) (hbc : isBefore b c) : isBefore a c :=
  decide_eq_true (String.le_trans (of_decide_eq_true hab) (of_decide_eq_true hbc))

theorem isBefore_total (a b : String × String) : isBefore a b || isBefore b a := by
  rcases String.le_total a.1 b.1 with h | h <;> simp [isBefore, h]

/-- Of neighbours of the same name only the last stays. -/
def keepLast : List (String × String) → List (String × String)
  | [] => []
  | [b] => [b]
  | b :: c :: bs => if b.1 = c.1 then keepLast (c :: bs) else b :: keepLast (c :: bs)

/-- A binding in front of one of another name is in front of all that follow it. -/
theorem lt_of_ne_next {b c : String × String} {bs : List (String × String)}
    (h : (b :: c :: bs).Pairwise fun a b => isBefore a b) (hne : b.1 ≠ c.1) :
    ∀ d ∈ c :: bs, b.1 < d.1 := by
  obtain ⟨hb, hrest⟩ := List.pairwise_cons.1 h
  have hlt : b.1 < c.1 := Std.lt_of_le_of_ne (of_decide_eq_true (hb c List.mem_cons_self)) hne
  intro d hd
  rcases List.mem_cons.1 hd with rfl | hd
  · exact hlt
  · exact Std.lt_of_lt_of_le hlt (of_decide_eq_true ((List.pairwise_cons.1 hrest).1 d hd))

theorem mem_of_mem_keepLast {b : String × String} {bs : List (String × String)}
    (h : b ∈ keepLast bs) : b ∈ bs := by
  induction bs using keepLast.induct with
  | case1 => exact h
  | case2 c => exact h
  | case3 c d bs heq ih =>
    rw [keepLast, if_pos heq] at h
    exact List.mem_cons_of_mem c (ih h)
  | case4 c d bs hne ih =>
    rw [keepLast, if_neg hne] at h
    rcases List.mem_cons.1 h with rfl | h
    · exact List.mem_cons_self
    · exact List.mem_cons_of_mem c (ih h)

theorem pairwise_keepLast {bs : List (String × String)} (h : bs.Pairwise fun a b => isBefore a b) :
    (keepLast bs).Pairwise fun a b => a.1 < b.1 := by
  induction bs using keepLast.induct with
  | case1 => exact .nil
  | case2 b => exact List.pairwise_singleton _ b
  | case3 b c bs heq ih =>
    rw [keepLast, if_pos heq]
    exact ih (List.pairwise_cons.1 h).2
  | case4 b c bs hne ih =>
    rw [keepLast, if_neg hne]
    refine List.pairwise_cons.2 ⟨?_, ih (List.pairwise_cons.1 h).2⟩
    exact fun d hd => lt_of_ne_next h hne d (mem_of_mem_keepLast hd)

/-- The environment of a list of pairs, made at once: the pairs are put in order, those of one name
staying as they stand, and the last of these is kept. -/
def collect (pairs : List (String × String)) : Environment :=
  ⟨keepLast (pairs.mergeSort isBefore),
    pairwise_keepLast (List.pairwise_mergeSort isBefore_trans isBefore_total pairs)⟩

end Environment

/-- The variables a process is started with: names and raw bytes, in which the last of equal names holds. -/
structure ProcessEnvironment where
  bindings : List (String × Utf8.Bytes)
  deriving DecidableEq

namespace ProcessEnvironment

/-- Names that no variable of a process can have. -/
def isNameless (name : String) : Bool :=
  name.isEmpty || name.toList.any fun c => c == '=' || c == '\x00'

/-- The bytes bound to a name. -/
def bytes? (e : ProcessEnvironment) (name : String) : Option Utf8.Bytes :=
  if isNameless name then none else e.bindings.reverse.lookup name

/-- The text bound to a name; malformed bytes are replaced, so a variable that is set has a text. -/
def lookup (e : ProcessEnvironment) (name : String) : Option String :=
  (e.bytes? name).map Utf8.lossy

/-- The text bound to a name, if its bytes are well formed. -/
def strict? (e : ProcessEnvironment) (name : String) : Option String :=
  (e.bytes? name).bind Utf8.strict?

end ProcessEnvironment

end StartupConfig
