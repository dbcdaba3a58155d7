import StartupConfig.Program

/-!
# What a sink holds when it refuses

Delivery is described byte by byte: each byte of an output has the stage of its chunk. A sink with little room
takes the bytes that fit, and the stage of the first one that does not fit decides the fault. So neither the
bytes nor the fault depend on how an output is cut into chunks. The main statement says what this means for
every command and format.
-/
namespace StartupConfig

/-- The bytes of an output, each with the stage that it is written in. -/
def Output.staged (o : Output) : List (Stage × UInt8) :=
  o.flatMap fun c => (Utf8.encode c.text).map fun b => (c.stage, b)

namespace Output

@[simp] theorem staged_nil : staged [] = [] := rfl

@[simp] theorem staged_cons (c : Chunk) (o : Output) :
    staged (c :: o) = (Utf8.encode c.text).map (fun b => (c.stage, b)) ++ staged o := by
  simp [staged]

theorem staged_bytes (o : Output) : o.staged.map Prod.snd = o.bytes := by
  simp [staged, bytes, List.map_flatMap, Function.comp_def]

end Output

/-- A sink without bounds takes everything. -/
theorem deliver_endless (o : Output) (taken : Utf8.Bytes) (cause : String) :
    deliver o ⟨taken, none, cause⟩ = (none, ⟨taken ++ o.bytes, none, cause⟩) := by
  induction o generalizing taken with
  | nil => simp [deliver, Output.bytes]
  | cons c cs ih => simp [deliver, Sink.write, ih, Output.bytes]

theorem deliver_ofJson (t : Tree) :
    deliver (.ofJson t) .endless = (none, ⟨Utf8.encode (Json.render t ++ ['\n']), none, ""⟩) := by
  simp [Output.ofJson, Sink.endless, deliver_endless, Output.bytes, Utf8.encode]

theorem deliver_ofYaml (t : Tree) :
    deliver (.ofYaml t) .endless = (none, ⟨Utf8.encode (Yaml.render t), none, ""⟩) := by
  simp [Output.ofYaml, Output.plain, Sink.endless, deliver_endless, Output.bytes]

/-- A sink with room for `n` more bytes takes as many, and its fault is that of the stage of the byte at
place `n`. -/
theorem deliver_bounded (o : Output) (taken : Utf8.Bytes) (n : Nat) (cause : String) :
    (deliver o ⟨taken, some n, cause⟩).1 = o.staged[n]?.map (fun b => b.1.refused cause) ∧
    (deliver o ⟨taken, some n, cause⟩).2.taken = taken ++ (o.staged.take n).map Prod.snd := by
  induction o generalizing taken n with
  | nil => simp [deliver]
  | cons c cs ih =>
    by_cases h : (Utf8.encode c.text).length ≤ n
    · obtain ⟨hfault, htaken⟩ := ih (taken ++ Utf8.encode c.text) (n - (Utf8.encode c.text).length)
      simp only [deliver, Sink.write, if_pos h]
      rw [hfault, htaken]
      simp [List.getElem?_append_right, h, List.take_append, List.take_of_length_le, Function.comp_def]
    · simp only [deliver, Sink.write, if_neg h]
      have hn : n < (Utf8.encode c.text).length := by omega
      simp [List.getElem?_append_left, List.take_append_of_le_length, hn, Nat.le_of_lt hn,
        List.map_take, Function.comp_def]

/-! ## Commands -/

/-- What a command is asked to write. A report need not come from a load. -/
inductive Request
  | show (report : Report) (format : Format) (sources : Bool)
  | list (lookup : Lookup) (format : Format)
  | version (format : Format)
  | completions (shell : Shell)

namespace Request

/-- The output that a command writes. -/
def output : Request → Output
  | .show report format sources => report.output format sources
  | .list lookup format => listingOutput lookup format
  | .version format => versionOutput format
  | .completions shell => Completion.output shell

/-- The format that is asked for; scripts have none. -/
def format? : Request → Option Format
  | .show _ format _ => some format
  | .list _ format => some format
  | .version format => some format
  | .completions _ => none

end Request

theorem Output.staged_ofJson (t : Tree) :
    (Output.ofJson t).staged = (Utf8.encode (Json.render t)).map (Stage.jsonBody, ·) ++ [(.plain, 10)] := by
  simp only [ofJson, staged_cons, staged_nil, List.append_nil]
  rfl

/-- The bytes of an output all of whose chunks are plain. -/
theorem Output.plain_of_mem_staged {o : Output} (h : ∀ c ∈ o, c.stage = .plain) {b : Stage × UInt8}
    (hb : b ∈ o.staged) : b.1 = .plain := by
  simp only [staged, List.mem_flatMap, List.mem_map] at hb
  obtain ⟨c, hc, x, -, rfl⟩ := hb
  exact h c hc

/-- What a format writes outside JSON is plain, if the form for people is. -/
theorem Format.stage_of_mem_output {f : Format} {human : Output} {t : Tree}
    (hh : ∀ c ∈ human, c.stage = .plain) (hf : f ≠ .json) {c : Chunk} (hc : c ∈ f.output human t) :
    c.stage = .plain := by
  cases f with
  | human => exact hh c hc
  | json => exact absurd rfl hf
  | yaml => simp_all [Format.output, Output.ofYaml, Output.plain]

namespace Request

theorem output_eq_ofJson {q : Request} (h : q.format? = some .json) :
    ∃ t, q.output = .ofJson t := by
  cases q <;> simp only [format?, Option.some.injEq, reduceCtorEq] at h <;> subst h <;> exact ⟨_, rfl⟩

theorem stage_of_mem_output {q : Request} (h : q.format? ≠ some .json) {c : Chunk}
    (hc : c ∈ q.output) : c.stage = .plain := by
  cases q with
  | «show» report format sources =>
    refine Format.stage_of_mem_output ?_ (by simpa [format?] using h) hc
    simp [Report.lines]
  | list lookup format =>
    refine Format.stage_of_mem_output ?_ (by simpa [format?] using h) hc
    simp [listingLines]
  | version format =>
    refine Format.stage_of_mem_output ?_ (by simpa [format?] using h) hc
    simp [Output.plain]
  | completions shell => simp_all [output, Completion.output, Output.plain]

/-- A byte belongs to the body of JSON exactly if the format is JSON and it is not the last one. -/
theorem stage_staged (q : Request) {n : Nat} {b : Stage × UInt8} (h : q.output.staged[n]? = some b) :
    b.1 = if q.format? = some .json ∧ n < q.output.bytes.length - 1 then .jsonBody else .plain := by
  rw [← Output.staged_bytes, List.length_map]
  have hn : n < q.output.staged.length := (List.getElem?_eq_some_iff.1 h).1
  by_cases hf : q.format? = some .json
  · obtain ⟨t, ht⟩ := output_eq_ofJson hf
    rw [ht, Output.staged_ofJson] at h hn ⊢
    simp only [hf, true_and, List.length_append, List.length_map, List.length_singleton,
      Nat.add_sub_cancel] at hn ⊢
    by_cases hbody : n < (Utf8.encode (Json.render t)).length
    · rw [List.getElem?_append_left (by simpa using hbody)] at h
      simp only [List.getElem?_map, Option.map_eq_some_iff] at h
      obtain ⟨x, -, rfl⟩ := h
      simp [hbody]
    · have he : n = (Utf8.encode (Json.render t)).length := by omega
      rw [List.getElem?_append_right (by simp [he])] at h
      simp only [he, List.length_map, Nat.sub_self, List.getElem?_cons_zero, Option.some.injEq] at h
      simp [← h, hbody]
  · simp only [hf, false_and, if_false]
    exact Output.plain_of_mem_staged (fun c hc => stage_of_mem_output hf hc) (List.mem_of_getElem? h)

/-- A sink with room for `n` bytes, however the output is cut into chunks: with enough room it holds the whole
output; with less it holds the first `n` bytes, and the fault tells the body of JSON from everything else. -/
theorem deliver_bounded_spec (q : Request) (o : Output) (h : o.staged = q.output.staged) (n : Nat)
    (cause : String) :
    let full := (deliver q.output .endless).2.taken
    let out := deliver o (.bounded n cause)
    (deliver q.output .endless).1 = none ∧
    (full.length ≤ n → out.1 = none ∧ out.2.taken = full) ∧
    (n < full.length → out.2.taken = full.take n ∧ ∃ fault, out.1 = some fault ∧
      (q.format? = some .json ∧ n < full.length - 1 → fault = .json cause ∧ fault.exitCode.toNat = 2) ∧
      (¬(q.format? = some .json ∧ n < full.length - 1) →
        fault = .output cause ∧ fault.exitCode.toNat = 3)) := by
  intro full out
  have hfull : full = q.output.bytes := by simp [full, Sink.endless, deliver_endless]
  have hlength : full.length = q.output.staged.length := by
    rw [hfull, ← Output.staged_bytes, List.length_map]
  have hfault : out.1 = _ := (deliver_bounded o [] n cause).1
  have htaken : out.2.taken = _ := (deliver_bounded o [] n cause).2
  rw [h] at hfault htaken
  rw [List.map_take, Output.staged_bytes, ← hfull, List.nil_append] at htaken
  refine ⟨by simp [Sink.endless, deliver_endless], fun hn => ?_, fun hn => ⟨htaken, ?_⟩⟩
  · exact ⟨by simpa [← hlength, hn] using hfault, htaken.trans (List.take_of_length_le hn)⟩
  · obtain ⟨b, hb⟩ : ∃ b, q.output.staged[n]? = some b :=
      ⟨_, List.getElem?_eq_getElem (hlength ▸ hn)⟩
    have hstage := q.stage_staged hb
    rw [← hfull] at hstage
    refine ⟨b.1.refused cause, by simpa [hb] using hfault, fun hj => ?_, fun hj => ?_⟩
    · rw [hstage, if_pos hj]
      exact ⟨rfl, rfl⟩
    · rw [hstage, if_neg hj]
      exact ⟨rfl, rfl⟩

/-- The version in JSON, its body in two chunks: the last byte of the body and the end of the line fail
differently. -/
theorem deliver_bounded_spec_version :
    let o : Output := [⟨.jsonBody, (Json.render versionTree).take 12⟩,
      ⟨.jsonBody, (Json.render versionTree).drop 12⟩, ⟨.plain, ['\n']⟩]
    o.staged = (Request.version .json).output.staged ∧
    (deliver o (.bounded 61 "closed")).1 = some (.json "closed") ∧
    (deliver o (.bounded 62 "closed")).1 = some (.output "closed") := by
  intro o
  have h : o.staged = (Request.version .json).output.staged := by decide
  obtain ⟨-, body, hbody, hj, -⟩ := (deliver_bounded_spec _ o h 61 "closed").2.2 (by decide)
  obtain ⟨-, last, hlast, -, hp⟩ := (deliver_bounded_spec _ o h 62 "closed").2.2 (by decide)
  exact ⟨h, by rw [hbody, (hj (by decide)).1], by rw [hlast, (hp (by decide)).1]⟩

end Request

end StartupConfig
