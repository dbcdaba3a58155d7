import StartupConfig.Loading

/-!
# Environments as maps

An environment is determined by what it answers: the bindings are in increasing order, so no name is bound twice and the
same bindings stand in the same order. Hence it does not matter how an environment was made. One by one or at once, of the
pairs of a name the last one holds.
-/
namespace StartupConfig

namespace Environment

/-- The last pair of a name binds it to the value. -/
def Binds (pairs : List (String × String)) (name value : String) : Prop :=
  ∃ before behind, pairs = before ++ (name, value) :: behind ∧ ∀ p ∈ behind, name ≠ p.1

theorem lookup_reverse_eq_some_iff (pairs : List (String × String)) (name value : String) :
    pairs.reverse.lookup name = some value ↔ Binds pairs name value := by
  rw [List.lookup_eq_some_iff]
  constructor
  · rintro ⟨behind, before, hpairs, hbehind⟩
    refine ⟨before.reverse, behind.reverse, ?_, ?_⟩
    · rw [← List.reverse_reverse pairs, hpairs]
      simp
    · intro p hp
      simpa using hbehind p (List.mem_reverse.1 hp)
  · rintro ⟨before, behind, rfl, hbehind⟩
    refine ⟨behind.reverse, before.reverse, by simp, ?_⟩
    intro p hp
    simpa using hbehind p (List.mem_reverse.1 hp)

theorem lookup_reverse_eq_none_iff (pairs : List (String × String)) (name : String) :
    pairs.reverse.lookup name = none ↔ ∀ p ∈ pairs, name ≠ p.1 := by
  simp [List.lookup_eq_none_iff]

/-! ## Environments are determined by what they answer -/

theorem mem_iff_lookup (e : Environment) (name value : String) :
    (name, value) ∈ e.bindings ↔ e.lookup name = some value := by
  rw [lookup, List.lookup_eq_some_iff]
  constructor
  · intro h
    obtain ⟨before, behind, hsplit⟩ := List.append_of_mem h
    refine ⟨before, behind, hsplit, ?_⟩
    intro p hp
    have hlt : p.1 < name := by
      have hincreasing := e.increasing
      rw [hsplit, List.pairwise_append] at hincreasing
      exact hincreasing.2.2 p hp _ List.mem_cons_self
    have hne : name ≠ p.1 := fun heq => String.lt_irrefl _ (heq ▸ hlt)
    simpa using hne
  · rintro ⟨before, behind, hsplit, -⟩
    rw [hsplit]
    simp

theorem nodup_bindings (e : Environment) : e.bindings.Nodup :=
  e.increasing.imp fun {a b} hlt (heq : a = b) => String.lt_irrefl a.1 (heq ▸ hlt)

/-- Two environments that answer alike are equal, as their bindings are in the same order. -/
theorem ext_lookup {e₁ e₂ : Environment} (h : ∀ name, e₁.lookup name = e₂.lookup name) : e₁ = e₂ := by
  have hperm : e₁.bindings.Perm e₂.bindings := by
    rw [List.perm_ext_iff_of_nodup e₁.nodup_bindings e₂.nodup_bindings]
    rintro ⟨name, value⟩
    rw [mem_iff_lookup, mem_iff_lookup, h]
  have hbindings : e₁.bindings = e₂.bindings := by
    refine hperm.eq_of_pairwise ?_ e₁.increasing e₂.increasing
    intro a b _ _ hab hba
    exact absurd (String.lt_trans hab hba) (String.lt_irrefl _)
  cases e₁
  cases e₂
  cases hbindings
  rfl

theorem set_comm (e : Environment) {m n : String} (h : m ≠ n) (v w : String) :
    (e.set m v).set n w = (e.set n w).set m v := by
  apply ext_lookup
  intro name
  simp only [lookup_set]
  by_cases hm : name = m
  · rw [if_pos hm, if_pos hm, if_neg (hm ▸ h)]
  · rw [if_neg hm, if_neg hm]

theorem set_set (e : Environment) (name v w : String) : (e.set name v).set name w = e.set name w := by
  apply ext_lookup
  intro other
  simp only [lookup_set]
  split <;> rfl

/-! ## Environments made at once -/

/-- Only the pairs of a name have a say in what it is bound to. -/
theorem lookup_filter (bs : List (String × String)) (name : String) :
    (bs.filter fun b => b.1 = name).lookup name = bs.lookup name := by
  induction bs with
  | nil => rfl
  | cons b bs ih =>
    by_cases h : b.1 = name
    · rw [List.filter_cons_of_pos (by simpa using h), lookup_binding, lookup_binding, if_pos h.symm, if_pos h.symm]
    · rw [List.filter_cons_of_neg (by simpa using h), lookup_binding, if_neg (Ne.symm h), ih]

/-- Putting pairs in order leaves those of one name as they stand. -/
theorem filter_mergeSort (pairs : List (String × String)) (name : String) :
    (pairs.mergeSort isBefore).filter (fun b => b.1 = name) = pairs.filter fun b => b.1 = name := by
  let mine := pairs.filter fun b => b.1 = name
  have hmine : mine.Pairwise fun a b => isBefore a b := by
    rw [List.pairwise_iff_forall_sublist]
    intro a b hab
    have hname {c : String × String} (hc : c ∈ [a, b]) : c.1 = name :=
      of_decide_eq_true (List.mem_filter.1 (hab.subset hc)).2
    rw [isBefore, hname (c := a) (by simp), hname (c := b) (by simp)]
    exact decide_eq_true (String.le_refl name)
  have hsublist : mine.Sublist (pairs.mergeSort isBefore) :=
    List.sublist_mergeSort isBefore_trans isBefore_total hmine List.filter_sublist
  have hfilter : mine.Sublist ((pairs.mergeSort isBefore).filter fun b => b.1 = name) := by
    have hboth := hsublist.filter fun b => decide (b.1 = name)
    rwa [List.filter_eq_self.2 fun b hb => (List.mem_filter.1 hb).2] at hboth
  have hlength : mine.length = ((pairs.mergeSort isBefore).filter fun b => b.1 = name).length :=
    ((List.mergeSort_perm pairs isBefore).filter _).length_eq.symm
  exact (hfilter.eq_of_length hlength).symm

theorem lookup_reverse_mergeSort (pairs : List (String × String)) (name : String) :
    (pairs.mergeSort isBefore).reverse.lookup name = pairs.reverse.lookup name := by
  rw [← lookup_filter, List.filter_reverse, filter_mergeSort, ← List.filter_reverse, lookup_filter]

theorem lookup_keepLast {bs : List (String × String)} (h : bs.Pairwise fun a b => isBefore a b) (name : String) :
    (keepLast bs).lookup name = bs.reverse.lookup name := by
  induction bs using keepLast.induct with
  | case1 => rfl
  | case2 b => rfl
  | case3 b c bs heq ih =>
    rw [keepLast, if_pos heq, ih (List.pairwise_cons.1 h).2, List.reverse_cons (a := b), List.lookup_append]
    cases hbehind : (c :: bs).reverse.lookup name with
    | some value => rfl
    | none =>
      have hne : name ≠ c.1 := (lookup_reverse_eq_none_iff _ _).1 hbehind c List.mem_cons_self
      rw [lookup_binding, heq, if_neg hne]
      rfl
  | case4 b c bs hne ih =>
    rw [keepLast, if_neg hne, lookup_binding, ih (List.pairwise_cons.1 h).2, List.reverse_cons (a := b),
      List.lookup_append, lookup_binding]
    by_cases hname : name = b.1
    · have hbehind : (c :: bs).reverse.lookup name = none := by
        rw [lookup_reverse_eq_none_iff, hname]
        exact fun d hd heq => String.lt_irrefl _ (heq ▸ lt_of_ne_next h hne d hd)
      rw [hbehind, if_pos hname, if_pos hname]
      rfl
    · rw [if_neg hname, if_neg hname]
      simp

theorem lookup_collect (pairs : List (String × String)) (name : String) :
    (collect pairs).lookup name = pairs.reverse.lookup name := by
  have hsorted := List.pairwise_mergeSort isBefore_trans isBefore_total pairs
  rw [lookup, collect, lookup_keepLast hsorted, lookup_reverse_mergeSort]

theorem lookup_collect_eq_some_iff (pairs : List (String × String)) (name value : String) :
    (collect pairs).lookup name = some value ↔ Binds pairs name value := by
  rw [lookup_collect, lookup_reverse_eq_some_iff]

theorem collect_eq_ofList (pairs : List (String × String)) : collect pairs = ofList pairs :=
  ext_lookup fun name => by rw [lookup_collect, lookup_ofList]

/-- Environments made of pairs are equal if the same pairs come last. -/
theorem collect_eq_collect_iff (pairs others : List (String × String)) :
    collect pairs = collect others ↔ ∀ name value, Binds pairs name value ↔ Binds others name value := by
  constructor
  · intro h name value
    rw [← lookup_collect_eq_some_iff, h, lookup_collect_eq_some_iff]
  · intro h
    apply ext_lookup
    intro name
    apply Option.ext
    intro value
    rw [lookup_collect_eq_some_iff, h, lookup_collect_eq_some_iff]

end Environment

/-- Whatever stands in between, a handle answers as the environment behind it. -/
theorem Handle.lookup_eq (h : Handle) : h.lookup = h.environment.lookup := by
  induction h with
  | owned e => rfl
  | reference target ih => exact ih
  | interface target ih => exact ih

/-- An environment made of pairs at once is the one made of them one by one: a name has the value of the last pair of just
this name, or none. Putting in bindings of different names in either order comes to the same, of one name the later one
stays. Equal are the environments that answer alike, whatever pairs they were made of, and no handle on an environment makes
a load report or tell anything else than a copy that was made at once. -/
theorem Environment.collect_spec (pairs : List (String × String)) :
    collect pairs = pairs.foldl (fun e p => e.set p.1 p.2) empty ∧
    (∀ name value, (collect pairs).lookup name = some value ↔ Binds pairs name value) ∧
    (∀ name, (collect pairs).lookup name = none ↔ ∀ p ∈ pairs, name ≠ p.1) ∧
    (∀ (e : Environment) (m n v w : String),
      (m ≠ n → (e.set m v).set n w = (e.set n w).set m v) ∧ (e.set m v).set m w = e.set m w) ∧
    (∀ e₁ e₂ : Environment, e₁ = e₂ ↔ ∀ name, e₁.lookup name = e₂.lookup name) ∧
    (∀ others, collect pairs = collect others ↔ ∀ name value, Binds pairs name value ↔ Binds others name value) ∧
    ∀ (h : Handle) (others : List (String × String)) (defaults : Record), h.environment = collect pairs →
      (∀ name value, Binds pairs name value ↔ Binds others name value) →
      let direct : Loader := ⟨h.lookup, defaults⟩
      let copied : Loader := ⟨(collect others).lookup, defaults⟩
      direct.report = copied.report ∧ direct.run.diagnostics = copied.run.diagnostics := by
  refine ⟨collect_eq_ofList pairs, lookup_collect_eq_some_iff pairs, ?_, ?_, ?_, collect_eq_collect_iff pairs, ?_⟩
  · intro name
    rw [lookup_collect, lookup_reverse_eq_none_iff]
  · intro e m n v w
    exact ⟨fun h => e.set_comm h v w, e.set_set m v w⟩
  · intro e₁ e₂
    exact ⟨fun h name => by rw [h], ext_lookup⟩
  · intro h others defaults hbehind hlast direct copied
    have hcopied : collect pairs = collect others := (collect_eq_collect_iff pairs others).2 hlast
    have hsource : h.lookup = (collect others).lookup := by rw [h.lookup_eq, hbehind, hcopied]
    have hloader : direct = copied := congrArg (Loader.mk · defaults) hsource
    rw [hloader]
    exact ⟨rfl, rfl⟩

/-- The names may be empty or hold a null character; the integer that comes last is not readable. -/
theorem Environment.collect_spec_overwritten :
    let pairs := [("PYTORCH_INIT_CONTAINER_MAX_TRIES", "3"), ("", "nameless"), ("\x00", ""),
      ("PYTORCH_INIT_CONTAINER_MAX_TRIES", "many")]
    let others := [("\x00", "again"), ("PYTORCH_INIT_CONTAINER_MAX_TRIES", "many"), ("\x00", ""), ("", "nameless")]
    let e := (((empty.set "" "nameless").set "PYTORCH_INIT_CONTAINER_MAX_TRIES" "3").set "\x00" "").set
      "PYTORCH_INIT_CONTAINER_MAX_TRIES" "many"
    let h : Handle := .reference (.interface (.owned e))
    collect pairs = e ∧ e.lookup "" = some "nameless" ∧ e.lookup "\x00" = some "" ∧
    (∀ name value, Binds pairs name value ↔ Binds others name value) ∧
    (Loader.mk h.lookup .documented).report = (Loader.mk (collect others).lookup .documented).report ∧
    (Loader.mk h.lookup .documented).run.diagnostics
      = (Loader.mk (collect others).lookup .documented).run.diagnostics := by
  intro pairs others e h
  obtain ⟨hmade, -, -, -, -, hequal, hload⟩ := Environment.collect_spec pairs
  have he : collect pairs = e := by rw [hmade]; decide
  have hothers : collect pairs = collect others := by rw [he, collect_eq_ofList]; decide
  have hlast := (hequal others).1 hothers
  refine ⟨he, by decide, by decide, hlast, ?_⟩
  exact hload h others .documented he.symm hlast

end StartupConfig
