import StartupConfig.Proofs.Decoding
import StartupConfig.Proofs.Dependence
import StartupConfig.Proofs.Integer
import StartupConfig.Proofs.Listing

/-!
# Loading from the variables of a process

A variable of a process that is set has a text, whatever its bytes are, so loads and listings see an environment of
texts. A text that was not in the bytes shows a replacement character, and no integer is spelt with one.
-/
namespace StartupConfig

namespace ProcessEnvironment

variable (e : ProcessEnvironment)

/-- The texts of the variables, as an environment. -/
def decoded : Environment := .ofList (e.bindings.map fun b => (b.1, Utf8.lossy b.2))

theorem lookup_map_lossy (bs : List (String × Utf8.Bytes)) (name : String) :
    (bs.map fun b => (b.1, Utf8.lossy b.2)).lookup name = (bs.lookup name).map Utf8.lossy := by
  induction bs with
  | nil => rfl
  | cons b bs ih =>
    rw [List.map_cons, List.lookup_cons, List.lookup_cons, ih]
    cases name == b.1 <;> rfl

/-- A name that a variable can have has the same text there. -/
theorem lookup_decoded {name : String} (h : isNameless name = false) : e.decoded.lookup name = e.lookup name := by
  rw [decoded, Environment.lookup_ofList, ← List.map_reverse, lookup_map_lossy, lookup, bytes?, h]
  rfl

theorem isNameless_variableName (s : Setting) : isNameless s.variableName = false := by
  cases s <;> decide

variable {e} {name : String} {bytes : Utf8.Bytes}

theorem lookup_of_bytes (h : e.bytes? name = some bytes) : e.lookup name = some (Utf8.lossy bytes) := by
  rw [lookup, h, Option.map_some]

end ProcessEnvironment

/-- Bytes that are not those of a text are no integer. -/
theorem not_isLong_lossy {bytes : Utf8.Bytes} (h : ∀ text, bytes ≠ Utf8.encode text) : ¬IsLong (Utf8.lossy bytes) := by
  rintro ⟨n, hn⟩
  have hdenotes := (IntegerType.read_eq_ok_iff (by decide) (by decide)).1 (readInteger_eq_ok_iff.1 hn)
  exact absurd (hdenotes.isDigit (Utf8.replacement_mem_lossy h) (by decide) (by decide)) (by decide)

/-- What is read of the variables of a process. A variable that is set has a text: its own, if its bytes are those of a
text, and in any case that of the characters in its bytes with one replacement character for each malformed run. Loads
and listings are those of an environment with these texts. So a text variable that is set is not defaulted, and an integer
variable whose bytes are not those of a text is rejected, with the text that was read of it. -/
theorem ProcessEnvironment.reading_spec (e : ProcessEnvironment) (d : Record) :
    let l := Loader.mk e.lookup d
    (∀ name, e.lookup name = none ↔ e.bytes? name = none) ∧
    (∀ name bytes, e.bytes? name = some bytes →
      (∀ text, bytes = Utf8.encode text → e.lookup name = some (String.ofList text)) ∧
      (∃ ps, Utf8.Cuts bytes ps) ∧
      ∀ ps, Utf8.Cuts bytes ps → e.lookup name = some (String.ofList (ps.map Utf8.Piece.replaced))) ∧
    (∀ s : Setting, e.decoded.lookup s.variableName = e.lookup s.variableName) ∧
    (∀ m : Environment, (∀ s : Setting, m.lookup s.variableName = e.lookup s.variableName) →
      l.report = (Loader.mk m.lookup d).report ∧
      l.load = (Loader.mk m.lookup d).load ∧
      l.run.diagnostics = (Loader.mk m.lookup d).run.diagnostics ∧
      listing e.lookup = listing m.lookup) ∧
    l.report.resolutions.map Resolution.setting = Setting.all ∧
    ∀ r ∈ l.report.resolutions, ∀ bytes, e.bytes? r.setting.variableName = some bytes →
      (r.setting.kind = .string → r.source = .environment) ∧
      (r.setting.kind = .integer → (∀ text, bytes ≠ Utf8.encode text) →
        r.source = .rejected (Utf8.lossy bytes) ∧ r.value = d.text r.setting ∧ l.report.record.maxTries = d.maxTries) := by
  intro l
  refine ⟨?_, ?_, ?_, ?_, ?_, ?_⟩
  · intro name
    simp [lookup]
  · intro name bytes hbytes
    rw [lookup_of_bytes hbytes]
    refine ⟨?_, ⟨_, Utf8.cuts_pieces bytes⟩, ?_⟩
    · rintro text rfl
      rw [Utf8.lossy_encode]
    · intro ps hps
      rw [← Utf8.cuts_iff.1 hps]
      rfl
  · exact fun s => e.lookup_decoded (isNameless_variableName s)
  · intro m hm
    have hnames (s : Setting) : e.lookup s.variableName = m.lookup s.variableName := (hm s).symm
    have hreport : l.report = (Loader.mk m.lookup d).report := Loader.report_congr d hnames
    refine ⟨hreport, congrArg Report.record hreport, Loader.diagnostics_congr d hnames, ?_⟩
    exact List.map_congr_left fun s _ => by rw [hnames s]
  · rw [l.resolutions_eq, List.map_map]
    exact List.map_id Setting.all
  · intro r hr bytes hbytes
    obtain ⟨hvalue, hsource⟩ := l.mem_resolutions hr
    have htext : l.source r.setting.variableName = some (Utf8.lossy bytes) := lookup_of_bytes hbytes
    constructor
    · intro hkind
      rw [hsource, Loader.sourceOf_eq_environment_iff]
      refine ⟨_, htext, ?_⟩
      intro hset
      rw [(Setting.kind_eq_integer_iff _).2 hset] at hkind
      cases hkind
    · intro hkind hne
      have hset : r.setting = .maxTries := (Setting.kind_eq_integer_iff _).1 hkind
      have hrejected : l.sourceOf r.setting = .rejected (Utf8.lossy bytes) :=
        (l.sourceOf_eq_rejected_iff _ _).2 ⟨htext, (Setting.not_admits_iff _ _).2 ⟨hset, not_isLong_lossy hne⟩⟩
      refine ⟨hsource.trans hrejected, ?_, ?_⟩
      · rw [hvalue]
        exact l.text_load_of_ne (by rw [hrejected]; exact Source.noConfusion)
      · have htries := congrArg Record.maxTries l.load_eq
        have hunread : long? (Utf8.lossy bytes) = none :=
          Option.not_isSome_iff_eq_none.1 (mt (isSome_long?_iff _).1 (not_isLong_lossy hne))
        rwa [← hset, htext, Option.bind_some, hunread, Option.getD_none] at htries

/-- A character that is cut short is one malformed run, and a stray byte behind a digit spoils the integer. -/
theorem ProcessEnvironment.reading_spec_truncated :
    let e : ProcessEnvironment := ⟨[("PYTORCH_INIT_CONTAINER_IMAGE", [0x61, 0xE2, 0x82]),
      ("PYTORCH_INIT_CONTAINER_MAX_TRIES", [0x35, 0xFF])]⟩
    e.lookup "PYTORCH_INIT_CONTAINER_IMAGE" = some "a\uFFFD" ∧
    ∀ r ∈ (Loader.mk e.lookup .documented).report.resolutions,
      (r.setting = .initImage → r.source = .environment) ∧
      (r.setting = .maxTries → r.source = .rejected "5\uFFFD" ∧ r.value = "100") := by
  intro e
  obtain ⟨-, htext, -, -, -, hsource⟩ := ProcessEnvironment.reading_spec e .documented
  have himage : e.bytes? "PYTORCH_INIT_CONTAINER_IMAGE" = some [0x61, 0xE2, 0x82] := by decide
  have htries : e.bytes? "PYTORCH_INIT_CONTAINER_MAX_TRIES" = some [0x35, 0xFF] := by decide
  have hstray : ∀ text, ([0x35, 0xFF] : Utf8.Bytes) ≠ Utf8.encode text := by
    intro text h
    have hcut : Utf8.pieces [0x35, 0xFF] = [.scalar '5', .malformed [0xFF]] := by decide
    have hmem : Utf8.Piece.malformed [0xFF] ∈ text.map Utf8.Piece.scalar := by
      rw [← Utf8.pieces_eq_map_iff.2 h, hcut]
      decide
    simp at hmem
  refine ⟨?_, ?_⟩
  · have hcut : Utf8.Cuts [0x61, 0xE2, 0x82] [.scalar 'a', .malformed [0xE2, 0x82]] := Utf8.cuts_iff.2 (by decide)
    exact (htext _ _ himage).2.2 _ hcut
  · intro r hr
    constructor
    · intro hset
      have hbytes : e.bytes? r.setting.variableName = some [0x61, 0xE2, 0x82] := by rw [hset]; exact himage
      exact (hsource r hr _ hbytes).1 (by rw [hset]; rfl)
    · intro hset
      have hbytes : e.bytes? r.setting.variableName = some [0x35, 0xFF] := by rw [hset]; exact htries
      obtain ⟨hrejected, hvalue, -⟩ := (hsource r hr _ hbytes).2 (by rw [hset]; rfl) hstray
      refine ⟨hrejected.trans ?_, hvalue.trans ?_⟩
      · decide
      · rw [hset]
        decide

end StartupConfig
