import StartupConfig.Proofs.Delivery
import StartupConfig.Proofs.Utf8

/-!
# What a line buffer hands on

A line buffer keeps all bytes in their order and moves only the ends of lines between chunks. So a sink that takes
nothing has the fault of the chunk in which the first line ends. The bodies of JSON that commands write have several
lines, and the first of them ends in the body.
-/
namespace StartupConfig

/-! ## Cutting behind the last line break -/

theorem cutLines_append (text : List Char) : (cutLines text).1 ++ (cutLines text).2 = text := by
  fun_induction cutLines text <;> simp_all

/-- Only a text without a line break is held back whole. -/
theorem cutLines_eq_nil_iff (text : List Char) : (cutLines text).1 = [] ↔ '\n' ∉ text := by
  induction text with
  | nil => simp [cutLines]
  | cons c cs ih =>
    rw [cutLines]
    split
    · next held heq =>
      have hcs : '\n' ∉ cs := ih.1 (congrArg Prod.fst heq)
      by_cases hc : c = '\n'
      · simp [hc]
      · simp [hc, Ne.symm hc, hcs]
    · next lines held hlines heq =>
      have hcs : '\n' ∈ cs := by
        apply Decidable.byContradiction
        intro hcs
        rw [heq] at ih
        exact hlines (ih.2 hcs)
      simp [hcs]

namespace Output

theorem byLines_cons (held : List Char) (c : Chunk) (o : Output) :
    byLines held (c :: o) = ⟨c.stage, (cutLines (held ++ c.text)).1⟩ :: byLines (cutLines (held ++ c.text)).2 o := rfl

/-- No byte is lost or moved by a line buffer. -/
theorem bytes_byLines (held : List Char) (o : Output) : (byLines held o).bytes = Utf8.encode held ++ o.bytes := by
  induction o generalizing held with
  | nil => simp [byLines, bytes]
  | cons c o ih =>
    have hcut : Utf8.encode (cutLines (held ++ c.text)).1 ++ Utf8.encode (cutLines (held ++ c.text)).2
        = Utf8.encode held ++ Utf8.encode c.text := by
      rw [Utf8.encode, Utf8.encode, ← List.flatMap_append, cutLines_append, List.flatMap_append]
      rfl
    calc (byLines held (c :: o)).bytes
        = Utf8.encode (cutLines (held ++ c.text)).1 ++ (byLines (cutLines (held ++ c.text)).2 o).bytes := rfl
      _ = Utf8.encode held ++ Utf8.encode c.text ++ bytes o := by rw [ih, ← List.append_assoc, hcut]
      _ = Utf8.encode held ++ bytes (c :: o) := List.append_assoc _ _ _

/-- Plain output stays plain. -/
theorem stage_of_mem_byLines {held : List Char} {o : Output} (h : ∀ c ∈ o, c.stage = .plain) {c : Chunk}
    (hc : c ∈ byLines held o) : c.stage = .plain := by
  induction o generalizing held with
  | nil =>
    obtain rfl := List.mem_singleton.1 hc
    rfl
  | cons d o ih =>
    rw [byLines_cons] at hc
    rcases List.mem_cons.1 hc with rfl | hc
    · exact h d List.mem_cons_self
    · exact ih (fun x hx => h x (List.mem_cons_of_mem d hx)) hc

/-! ## The first byte -/

theorem exists_staged_head {stage : Stage} {text : List Char} (h : text ≠ []) (o : Output) :
    ∃ b, (staged (⟨stage, text⟩ :: o)).head? = some (stage, b) := by
  have hbytes : Utf8.encode text ≠ [] := fun he => h (Utf8.encode_injective he)
  obtain ⟨b, bs, hb⟩ := List.exists_cons_of_ne_nil hbytes
  exact ⟨b, by rw [staged_cons, hb]; rfl⟩

/-- The first byte of JSON on several lines goes with the body. -/
theorem head_byLines_ofJson {t : Tree} (h : '\n' ∈ Json.render t) :
    ∃ b, (byLines [] (ofJson t)).staged.head? = some (.jsonBody, b) := by
  apply exists_staged_head
  intro hlines
  exact (cutLines_eq_nil_iff _).1 hlines h

theorem head_byLines_plain {o : Output} (h : ∀ c ∈ o, c.stage = .plain) (hbytes : o.bytes ≠ []) :
    ∃ b, (byLines [] o).staged.head? = some (.plain, b) := by
  have hstaged : (byLines [] o).staged ≠ [] := by
    intro he
    apply hbytes
    have hnil : (byLines [] o).bytes = [] := by rw [← staged_bytes, he, List.map_nil]
    rwa [bytes_byLines] at hnil
  obtain ⟨b, bs, hb⟩ := List.exists_cons_of_ne_nil hstaged
  have hplain : b.1 = .plain := plain_of_mem_staged (fun c hc => stage_of_mem_byLines h hc) (hb ▸ List.mem_cons_self)
  exact ⟨b.2, by rw [hb, ← hplain]; rfl⟩

end Output

/-- A sink that takes nothing has the fault of the first byte. -/
theorem deliver_full (o : Output) (cause : String) :
    (deliver o (.bounded 0 cause)).1 = o.staged.head?.map (fun b => b.1.refused cause) ∧
    (deliver o (.bounded 0 cause)).2.taken = [] := by
  obtain ⟨hfault, htaken⟩ := deliver_bounded o [] 0 cause
  exact ⟨by rw [List.head?_eq_getElem?]; exact hfault, htaken⟩

end StartupConfig
