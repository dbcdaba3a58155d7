import StartupConfig.Proofs.Yaml.Tokens
import StartupConfig.Yaml.Document

/-!
# The events of written trees

The tokens of a written tree lead to the events that its shape tells. No node has an anchor or a tag, so events
are compared by what they are apart from their places. A list at the margin of its record ends when the next key
comes or the record ends.
-/
namespace StartupConfig.Yaml

/-- What an event of a written tree is, apart from its place. -/
inductive Part
  | content (c : Content)
  | listEnd
  | recordEnd
  deriving DecidableEq, Repr

/-- The part that an event is, if it is one. -/
def Event.part? {α : Type} : Event α → Option Part
  | .node none ⟨none, c, _⟩ => some (.content c)
  | .listEnd => some .listEnd
  | .recordEnd => some .recordEnd
  | _ => none

mutual

/-- The parts of a value. -/
def valueParts : Tree → List Part
  | .text value => [.content (.scalar (Scalar.style value.toList).form value.toList)]
  | .integer value => [.content (.scalar .plain (Decimal.render value))]
  | .flag value => [.content (.scalar .plain (if value then "true" else "false").toList)]
  | .list ts => .content .list :: itemParts ts ++ [.listEnd]
  | .record ms => .content .record :: memberParts ms ++ [.recordEnd]

/-- The parts of items. -/
def itemParts : List Tree → List Part
  | [] => []
  | t :: ts => valueParts t ++ itemParts ts

/-- The parts of members. -/
def memberParts : List (String × Tree) → List Part
  | [] => []
  | (name, t) :: ms => .content (.scalar .plain name.toList) :: valueParts t ++ memberParts ms

end

/-! ## Feeding tokens -/

namespace Frame

/-- A token that begins a node is taken, with the node for its event. -/
theorem begin_of_node {t : Token} {site : Site} {content : Content} {inside : List Frame}
    (h : t.node? site = some (content, inside)) (hs : Handles) (below : List Frame) :
    begin hs site t below = .take (.node none ⟨none, content, t.start⟩) (inside ++ below) := by
  obtain ⟨sign, start⟩ := t
  cases sign <;> simp_all [begin, begin?, Properties.ofToken?, Token.node?]

/-- So it is where a node may be left out. -/
theorem feed_slot {t : Token} {place : Slot} {content : Content} {inside : List Frame}
    (h : t.node? place.site = some (content, inside)) (homitted : place.isOmittedBefore t.sign = false)
    (hs : Handles) (finish : Mark) (below : List Frame) :
    feed hs t (.slot place finish :: below) = .take (.node none ⟨none, content, t.start⟩) (inside ++ below) := by
  simp [feed, homitted, begin_of_node h]

end Frame

namespace Document

/-- Events in front of the events of a document. -/
def inFront (es : List NamedEvent) (r : List NamedEvent × Ending) : List NamedEvent × Ending := (es ++ r.1, r.2)

theorem inFront_inFront (es es' : List NamedEvent) (r : List NamedEvent × Ending) :
    inFront es (inFront es' r) = inFront (es ++ es') r := by
  simp [inFront]

theorem events_take {hs : Handles} {t : Token} {frames frames' : List Frame} {e : NamedEvent}
    (h : Frame.feed hs t frames = .take e frames') (stop : Stop) (ts : List Token) :
    events hs stop frames (t :: ts) = inFront [e] (events hs stop frames' ts) := by
  rw [events, h]
  rfl

theorem events_pass {hs : Handles} {t : Token} {frames frames' : List Frame}
    (h : Frame.feed hs t frames = .pass frames') (stop : Stop) (ts : List Token) :
    events hs stop frames (t :: ts) = events hs stop frames' ts := by
  rw [events, h]
  rfl

/-- An event that the next token only brings to light. -/
theorem events_after {hs : Handles} {t : Token} {frames frames' : List Frame} {e : NamedEvent}
    (h : Frame.feed hs t frames = .after e (Frame.feed hs t frames')) (stop : Stop) (ts : List Token) :
    events hs stop frames (t :: ts) = inFront [e] (events hs stop frames' (t :: ts)) := by
  rw [events, events, h]
  simp only [Feed.after]
  split <;> simp_all [inFront]

/-- The tokens before which a value of a record ends. -/
def Follows (t : Token) : Prop := t.sign = .key ∨ t.sign = .blockEnd

/-! ## Events of trees -/

/-- The tokens of a value give its parts, and the token behind it goes on in its record. -/
def GivesValue (hs : Handles) (t : Tree) : Prop :=
  ∀ {tokens : List Token}, tokens.map Token.sign = valueSigns t → ∀ (finish : Mark) (below : List Frame),
    ∃ es : List NamedEvent, es.map Event.part? = (valueParts t).map some ∧
      ∀ (stop : Stop) {next : Token}, Follows next → ∀ more : List Token,
        events hs stop (.slot .value finish :: below) (tokens ++ next :: more)
          = inFront es (events hs stop below (next :: more))

/-- The tokens of members and the end of their record give the parts of both. -/
def GivesMembers (hs : Handles) (ms : List (String × Tree)) : Prop :=
  ∀ {tokens : List Token}, tokens.map Token.sign = memberSigns ms ++ [.blockEnd] →
    ∀ (start : Mark) (below : List Frame),
      ∃ es : List NamedEvent, es.map Event.part? = (memberParts ms ++ [Part.recordEnd]).map some ∧
        ∀ (stop : Stop) (more : List Token),
          events hs stop (.keys start :: below) (tokens ++ more) = inFront es (events hs stop below more)

/-- The tokens of items give their parts, and the token behind them ends the list. -/
def GivesItems (hs : Handles) (ts : List Tree) : Prop :=
  ∀ {tokens : List Token}, tokens.map Token.sign = itemSigns ts → ∀ below : List Frame,
    ∃ es : List NamedEvent, es.map Event.part? = (itemParts ts ++ [Part.listEnd]).map some ∧
      ∀ (stop : Stop) {next : Token}, Follows next → ∀ more : List Token,
        events hs stop (.bareItems :: below) (tokens ++ next :: more)
          = inFront es (events hs stop below (next :: more))

variable {hs : Handles}

theorem givesValue_scalar {t : Tree} {form : Form} {text : List Char}
    (hsigns : valueSigns t = [.scalar form text]) (hparts : valueParts t = [.content (.scalar form text)]) :
    GivesValue hs t := by
  intro tokens htokens finish below
  rw [hsigns] at htokens
  obtain ⟨token, rfl, hsign⟩ := List.map_eq_singleton_iff.1 htokens
  refine ⟨[.node none ⟨none, .scalar form text, token.start⟩], by simp [hparts, Event.part?], ?_⟩
  intro stop next _ more
  have hnode : token.node? Slot.value.site = some (.scalar form text, []) := by simp [Token.node?, hsign]
  exact events_take (Frame.feed_slot hnode (by simp [Slot.isOmittedBefore, hsign]) hs finish below) stop (next :: more)

theorem givesValue_emptyList : GivesValue hs (.list []) := by
  intro tokens htokens finish below
  obtain ⟨first, tokens, rfl, hfirst, htokens⟩ := List.map_eq_cons_iff.1 htokens
  obtain ⟨last, rfl, hlast⟩ := List.map_eq_singleton_iff.1 htokens
  refine ⟨[.node none ⟨none, .list, first.start⟩, .listEnd], rfl, ?_⟩
  intro stop next _ more
  have hnode : first.node? Slot.value.site = some (.list, [.flowItems true first.start]) := by
    simp [Token.node?, hfirst]
  have hopen := Frame.feed_slot hnode (by simp [Slot.isOmittedBefore, hfirst]) hs finish below
  have hclose : Frame.feed hs last (.flowItems true first.start :: below) = .take .listEnd below := by
    simp [Frame.feed, Frame.flowItem, hlast]
  rw [List.cons_append, events_take hopen, List.cons_append, List.nil_append, List.cons_append, List.nil_append,
    events_take hclose, inFront_inFront]
  rfl

theorem givesMembers_nil : GivesMembers hs [] := by
  intro tokens htokens start below
  obtain ⟨last, rfl, hlast⟩ := List.map_eq_singleton_iff.1 htokens
  refine ⟨[.recordEnd], rfl, fun stop more => events_take ?_ stop more⟩
  simp [Frame.feed, hlast]

/-- Behind a member another key comes, or the end of the record. -/
theorem exists_follows {ms : List (String × Tree)} {tokens : List Token}
    (h : tokens.map Token.sign = memberSigns ms ++ [.blockEnd]) :
    ∃ next rest, tokens = next :: rest ∧ Follows next := by
  match ms with
  | [] =>
    obtain ⟨next, rest, rfl, hsign, -⟩ := List.map_eq_cons_iff.1 h
    exact ⟨next, rest, rfl, .inr hsign⟩
  | (name, t) :: ms =>
    rw [memberSigns] at h
    obtain ⟨next, rest, rfl, hsign, -⟩ := List.map_eq_cons_iff.1 h
    exact ⟨next, rest, rfl, .inl hsign⟩

theorem givesMembers_cons {name : String} {t : Tree} {ms : List (String × Tree)} (ht : GivesValue hs t)
    (hms : GivesMembers hs ms) : GivesMembers hs ((name, t) :: ms) := by
  intro tokens htokens start below
  simp only [memberSigns, List.cons_append, List.append_assoc] at htokens
  obtain ⟨key, tokens, rfl, hkey, htokens⟩ := List.map_eq_cons_iff.1 htokens
  obtain ⟨word, tokens, rfl, hword, htokens⟩ := List.map_eq_cons_iff.1 htokens
  obtain ⟨colon, tokens, rfl, hcolon, htokens⟩ := List.map_eq_cons_iff.1 htokens
  obtain ⟨value, others, rfl, hvalue, hothers⟩ := List.map_eq_append_iff.1 htokens
  obtain ⟨es, hes, hevents⟩ := ht hvalue colon.finish (.keys start :: below)
  obtain ⟨es', hes', hevents'⟩ := hms hothers start below
  obtain ⟨next, rest, rfl, hfollows⟩ := exists_follows hothers
  refine ⟨.node none ⟨none, .scalar .plain name.toList, word.start⟩ :: (es ++ es'), ?_, ?_⟩
  · simp [memberParts, hes, hes', Event.part?]
  · intro stop more
    have hpass : Frame.feed hs key (.keys start :: below)
        = .pass (.slot .key key.finish :: .value :: .keys start :: below) := by
      simp [Frame.feed, hkey]
    have hnode : word.node? Slot.key.site = some (.scalar .plain name.toList, []) := by simp [Token.node?, hword]
    have htake := Frame.feed_slot hnode (by simp [Slot.isOmittedBefore, hword]) hs key.finish
      (.value :: .keys start :: below)
    have hpass' : Frame.feed hs colon (.value :: .keys start :: below)
        = .pass (.slot .value colon.finish :: .keys start :: below) := by
      simp [Frame.feed, hcolon]
    simp only [List.cons_append, List.append_assoc]
    rw [events_pass hpass, events_take htake, List.nil_append, events_pass hpass', hevents stop hfollows,
      ← List.cons_append, hevents' stop, inFront_inFront, inFront_inFront]
    rfl

/-- The tokens of a record give its parts where a node may begin. -/
theorem events_record {ms : List (String × Tree)} (hms : GivesMembers hs ms) {frames below : List Frame}
    (hframes : ∀ t : Token, t.sign = .blockRecord →
      Frame.feed hs t frames = .take (.node none ⟨none, .record, t.start⟩) (.keys t.start :: below))
    {tokens : List Token} (htokens : tokens.map Token.sign = valueSigns (.record ms)) :
    ∃ es : List NamedEvent, es.map Event.part? = (valueParts (.record ms)).map some ∧
      ∀ (stop : Stop) (more : List Token),
        events hs stop frames (tokens ++ more) = inFront es (events hs stop below more) := by
  simp only [valueSigns, List.cons_append] at htokens
  obtain ⟨first, tokens, rfl, hfirst, htokens⟩ := List.map_eq_cons_iff.1 htokens
  obtain ⟨es, hes, hevents⟩ := hms htokens first.start below
  refine ⟨.node none ⟨none, .record, first.start⟩ :: es, ?_, ?_⟩
  · simp [valueParts, hes, Event.part?]
  · intro stop more
    rw [List.cons_append, events_take (hframes first hfirst), hevents, inFront_inFront]
    rfl

theorem feed_blockRecord {place : Slot} (hplace : place = .value ∨ place = .bareItem) {t : Token}
    (ht : t.sign = .blockRecord) (finish : Mark) (below : List Frame) :
    Frame.feed hs t (.slot place finish :: below)
      = .take (.node none ⟨none, .record, t.start⟩) (.keys t.start :: below) := by
  have hnode : t.node? place.site = some (.record, [.keys t.start]) := by
    rcases hplace with rfl | rfl <;> simp [Token.node?, Slot.site, ht]
  have homitted : place.isOmittedBefore t.sign = false := by
    rcases hplace with rfl | rfl <;> simp [Slot.isOmittedBefore, ht]
  exact Frame.feed_slot hnode homitted hs finish below

theorem givesValue_record {ms : List (String × Tree)} (hms : GivesMembers hs ms) : GivesValue hs (.record ms) := by
  intro tokens htokens finish below
  obtain ⟨es, hes, hevents⟩ := events_record hms (fun t ht => feed_blockRecord (.inl rfl) ht finish below) htokens
  exact ⟨es, hes, fun stop next _ more => hevents stop (next :: more)⟩

theorem givesItems_nil : GivesItems hs [] := by
  intro tokens htokens below
  obtain rfl : tokens = [] := List.map_eq_nil_iff.1 htokens
  refine ⟨[.listEnd], rfl, fun stop next hnext more => events_after ?_ stop more⟩
  rcases hnext with h | h <;> simp [Frame.feed, h]

/-- Behind the dash of an item come its record and the further items. -/
theorem events_items {ms : List (String × Tree)} {ts : List Tree} (hms : GivesMembers hs ms)
    (hts : GivesItems hs ts) {tokens : List Token}
    (htokens : tokens.map Token.sign = valueSigns (.record ms) ++ itemSigns ts) (finish : Mark) (below : List Frame) :
    ∃ es : List NamedEvent, es.map Event.part? = (itemParts (.record ms :: ts) ++ [Part.listEnd]).map some ∧
      ∀ (stop : Stop) {next : Token}, Follows next → ∀ more : List Token,
        events hs stop (.slot .bareItem finish :: .bareItems :: below) (tokens ++ next :: more)
          = inFront es (events hs stop below (next :: more)) := by
  obtain ⟨record, others, rfl, hrecord, hothers⟩ := List.map_eq_append_iff.1 htokens
  obtain ⟨es, hes, hevents⟩ := events_record hms
    (fun t ht => feed_blockRecord (.inr rfl) ht finish (.bareItems :: below)) hrecord
  obtain ⟨es', hes', hevents'⟩ := hts hothers below
  refine ⟨es ++ es', ?_, ?_⟩
  · simp [itemParts, hes, hes']
  · intro stop next hnext more
    rw [List.append_assoc, hevents, hevents' stop hnext, inFront_inFront]

theorem givesItems_cons {ms : List (String × Tree)} {ts : List Tree} (hms : GivesMembers hs ms)
    (hts : GivesItems hs ts) : GivesItems hs (.record ms :: ts) := by
  intro tokens htokens below
  rw [itemSigns, List.cons_append] at htokens
  obtain ⟨dash, tokens, rfl, hdash, htokens⟩ := List.map_eq_cons_iff.1 htokens
  obtain ⟨es, hes, hevents⟩ := events_items hms hts htokens dash.finish below
  refine ⟨es, hes, ?_⟩
  intro stop next hnext more
  have hpass : Frame.feed hs dash (.bareItems :: below)
      = .pass (.slot .bareItem dash.finish :: .bareItems :: below) := by
    simp [Frame.feed, hdash]
  rw [List.cons_append, events_pass hpass, hevents stop hnext]

/-- The dash of the first item begins the list. -/
theorem givesValue_list {ms : List (String × Tree)} {ts : List Tree} (hms : GivesMembers hs ms)
    (hts : GivesItems hs ts) : GivesValue hs (.list (.record ms :: ts)) := by
  intro tokens htokens finish below
  rw [valueSigns, itemSigns, List.cons_append] at htokens
  obtain ⟨dash, tokens, rfl, hdash, htokens⟩ := List.map_eq_cons_iff.1 htokens
  obtain ⟨es, hes, hevents⟩ := events_items hms hts htokens dash.finish below
  refine ⟨.node none ⟨none, .list, dash.start⟩ :: es, ?_, ?_⟩
  · simp [valueParts, hes, Event.part?]
  · intro stop next hnext more
    have hnode : dash.node? Slot.value.site = some (.list, [.slot .bareItem dash.finish, .bareItems]) := by
      simp [Token.node?, Slot.site, hdash]
    have htake := Frame.feed_slot hnode (by simp [Slot.isOmittedBefore, hdash]) hs finish below
    rw [List.cons_append, events_take htake, List.cons_append, List.cons_append, List.nil_append,
      hevents stop hnext, inFront_inFront]
    rfl

mutual

theorem givesValue : (t : Tree) → IsWritten t → GivesValue hs t
  | .text _, _ => givesValue_scalar rfl rfl
  | .integer _, _ => givesValue_scalar rfl rfl
  | .flag _, _ => givesValue_scalar rfl rfl
  | .list [], _ => givesValue_emptyList
  | .list (.record ms :: ts), h => givesValue_list (givesMembers ms h.1.2) (givesItems ts h.2)
  | .record ms, h => givesValue_record (givesMembers ms h.2)

theorem givesItems : (ts : List Tree) → AreItems ts → GivesItems hs ts
  | [], _ => givesItems_nil
  | .record ms :: ts, h => givesItems_cons (givesMembers ms h.1.2) (givesItems ts h.2)

theorem givesMembers : (ms : List (String × Tree)) → AreMembers ms → GivesMembers hs ms
  | [], _ => givesMembers_nil
  | (_, t) :: ms, h => givesMembers_cons (givesValue t h.2.1) (givesMembers ms h.2.2)

end

/-! ## Documents -/

theorem replaceAlias?_of_part? {α β : Type} {e : Event α} {p : Part} (h : e.part? = some p) (f : α → Option β) :
    ∃ e' : Event β, e.replaceAlias? f = some e' ∧ e'.part? = some p := by
  match e, h with
  | .node none ⟨none, c, m⟩, h => exact ⟨.node none ⟨none, c, m⟩, rfl, h⟩
  | .listEnd, h => exact ⟨.listEnd, rfl, h⟩
  | .recordEnd, h => exact ⟨.recordEnd, rfl, h⟩

/-- Events without anchors leave the anchors as they are, and none of them is an alias. -/
theorem number_cons {e : NamedEvent} {p : Part} (h : e.part? = some p) (as : Anchors) (es : List NamedEvent)
    (ending : Ending) :
    number as (e :: es) ending = ((e.replaceAlias? fun _ => none).toList ++ (number as es ending).1,
      (number as es ending).2.1, (number as es ending).2.2) := by
  match e, h with
  | .node none ⟨none, c, m⟩, _ => rfl
  | .listEnd, _ => rfl
  | .recordEnd, _ => rfl

theorem number_of_parts {es : List NamedEvent} {ps : List Part} (h : es.map Event.part? = ps.map some)
    (as : Anchors) (ending : Ending) :
    (number as es ending).1.map Event.part? = ps.map some ∧ (number as es ending).2.1 = ending := by
  induction es generalizing ps with
  | nil =>
    obtain rfl : ps = [] := by simpa using h
    exact ⟨rfl, rfl⟩
  | cons e es ih =>
    obtain ⟨p, ps, rfl, hp, hps⟩ := List.map_eq_cons_iff.1 h.symm
    obtain ⟨e', he', hpart⟩ := replaceAlias?_of_part? hp.symm (fun _ => (none : Option Nat))
    obtain ⟨hparts, hending⟩ := ih hps.symm
    rw [number_cons hp.symm, he']
    exact ⟨by simp [hpart, hparts], hending⟩

theorem filterMap_of_parts {α β : Type} {es : List (Event α)} {ps : List Part}
    (h : es.map Event.part? = ps.map some) (f : α → Option β) :
    (es.filterMap (·.replaceAlias? f)).map Event.part? = ps.map some := by
  induction es generalizing ps with
  | nil => exact h
  | cons e es ih =>
    obtain ⟨p, ps, rfl, hp, hps⟩ := List.map_eq_cons_iff.1 h.symm
    obtain ⟨e', he', hpart⟩ := replaceAlias?_of_part? hp.symm f
    simp [he', hpart, ih hps.symm]

/-- Events without anchors and aliases are not changed by what anchors stand for. -/
theorem resolve_of_parts {es : List NamedEvent} {ps : List Part} (h : es.map Event.part? = ps.map some)
    (ending : Ending) :
    (resolve es ending).1.map Event.part? = ps.map some ∧ (resolve es ending).2 = ending := by
  obtain ⟨hparts, hending⟩ := number_of_parts h .empty ending
  exact ⟨filterMap_of_parts hparts _, hending⟩

/-- A written record is the only document of its text, with the events that its shape tells. -/
theorem of_render {ms : List (String × Tree)} (h : IsWritten (.record ms)) :
    ∃ es : List (Event Node), of (render (.record ms)) = .present es .end ∧
      es.map Event.part? = (valueParts (.record ms)).map some := by
  obtain ⟨more, hsigns⟩ := signs_render h
  obtain ⟨tokens, others, htokens, hrecord, hothers⟩ := List.map_eq_append_iff.1 hsigns
  obtain ⟨last, rest, rfl, hlast, -⟩ := List.map_eq_cons_iff.1 hothers
  have hroot (t : Token) (ht : t.sign = .blockRecord) :
      Frame.feed Directives.empty.allHandles t [.node (.block false) none]
        = .take (.node none ⟨none, .record, t.start⟩) [.keys t.start] := by
    have hnode : t.node? (.block false) = some (.record, [.keys t.start]) := by simp [Token.node?, ht]
    simp [Frame.feed, Frame.begin_of_node hnode]
  obtain ⟨es, hes, hevents⟩ := events_record (givesMembers ms h.2) hroot hrecord
  have hend (stop : Stop) : events Directives.empty.allHandles stop [] (last :: rest) = ([], .end) := by
    simp [events, Frame.feed, endingOf, hlast]
  have hbegin (stop : Stop) : ofTokens stop .empty (tokens ++ last :: rest)
      = .present (resolve es .end).1 (resolve es .end).2 := by
    have hall := hevents stop (last :: rest)
    rw [hend, inFront, List.append_nil] at hall
    rw [valueSigns, List.cons_append] at hrecord
    obtain ⟨first, tokens, rfl, hfirst, -⟩ := List.map_eq_cons_iff.1 hrecord
    rw [List.cons_append] at hall ⊢
    simp only [ofTokens, hfirst, Directives.isEmpty, Directives.empty, Option.isNone_none, List.isEmpty_nil,
      Bool.and_self, if_true]
    change (fun r : List NamedEvent × Ending => Document.present (resolve r.1 r.2).1 (resolve r.1 r.2).2)
      (events Directives.empty.allHandles stop _ _) = _
    rw [hall]
  obtain ⟨hparts, hending⟩ := resolve_of_parts hes .end
  refine ⟨(resolve es .end).1, ?_, hparts⟩
  rw [of, htokens, hbegin, hending]

end Document

end StartupConfig.Yaml
