import StartupConfig.Yaml.Event

/-!
# The first document of a text

A text holds no document, or a first one with its events and what follows it. Aliases are replaced by the nodes
that their names come to stand for.
-/
namespace StartupConfig.Yaml

/-- What follows the events of the first document. -/
inductive Ending
  | end
  | furtherDocument
  | fault (stop : Stop)
  deriving DecidableEq, Repr

/-- The first document of a text; if there is none, the place where the text ends. -/
inductive Document
  | absent (mark : Mark)
  | present (events : List (Event Node)) (ending : Ending)
  deriving DecidableEq, Repr

/-! ## Anchors -/

/-- What anchors name. Each anchor that is set gets the count of names known before as its number; the same
number may so come to be given twice, and the later node, which stands first, stands for it then. -/
structure Anchors where
  numbers : List (Name × Nat)
  nodes : List (Nat × Node)
  deriving DecidableEq, Repr

namespace Anchors

/-- No anchors. -/
def empty : Anchors := ⟨[], []⟩

/-- Sets an anchor. -/
def set (name : Name) (node : Node) (as : Anchors) : Anchors :=
  let number := as.numbers.length
  ⟨(name, number) :: as.numbers.filter (·.1 ≠ name), (number, node) :: as.nodes⟩

/-- The anchors behind an event. -/
def behind (e : NamedEvent) (as : Anchors) : Anchors :=
  match e with
  | .node (some name) node => as.set name node
  | _ => as

end Anchors

/-- An event with another alias; nothing if there is no other alias for it. -/
def Event.replaceAlias? {α β : Type} (f : α → Option β) : Event α → Option (Event β)
  | .node anchor content => some (.node anchor content)
  | .alias target => (f target).map .alias
  | .listEnd => some .listEnd
  | .recordEnd => some .recordEnd

/-- Replaces the names of aliases by the numbers they have there, up to the first alias of an unknown name;
then come what follows and the anchors that were set. -/
def number (as : Anchors) : List NamedEvent → Ending → List (Event Nat) × Ending × Anchors
  | [], ending => ([], ending, as)
  | .alias (name, mark) :: es, ending =>
    match as.numbers.lookup name with
    | none => ([], .fault (.unknownAnchor mark), as)
    | some n =>
      let (rest, ending, as) := number as es ending
      (.alias n :: rest, ending, as)
  | e :: es, ending =>
    let (rest, ending, as) := number (as.behind e) es ending
    ((e.replaceAlias? fun _ => none).toList ++ rest, ending, as)

/-- Replaces aliases by the nodes that their numbers stand for in the end. Each number stands for one. -/
def resolve (es : List NamedEvent) (ending : Ending) : List (Event Node) × Ending :=
  let (es, ending, as) := number .empty es ending
  (es.filterMap (·.replaceAlias? fun n => as.nodes.lookup n), ending)

namespace Document

/-- What follows a document, from the first token behind its root on. -/
def endingOf (ts : List Token) : Ending :=
  match ts.dropWhile (·.sign == .documentEnd) with
  | t :: _ => if t.sign = .streamEnd then .end else .furtherDocument
  | [] => .furtherDocument

/-- The events of a document from expectations on. When the tokens run out there is a fault. -/
def events (hs : Handles) (stop : Stop) : List Frame → List Token → List NamedEvent × Ending
  | _, [] => ([], .fault stop)
  | frames, t :: ts =>
    let f := Frame.feed hs t frames
    match f.next with
    | .error e => (f.events, .fault e)
    | .ok none => (f.events, endingOf (t :: ts))
    | .ok (some frames) =>
      let (rest, ending) := events hs stop frames ts
      (f.events ++ rest, ending)

/-- The directives that were read before a document. -/
structure Directives where
  version : Option (Nat × Nat)
  handles : Handles
  deriving DecidableEq, Repr

namespace Directives

/-- No directives. -/
def empty : Directives := ⟨none, []⟩

/-- Is there none? -/
def isEmpty (d : Directives) : Bool := d.version.isNone && d.handles.isEmpty

/-- What tag handles stand for in the document. -/
def allHandles (d : Directives) : Handles := d.handles ++ Handles.standard

end Directives

/-- The document from the first token on: directives, and then its root. -/
def ofTokens (stop : Stop) (d : Directives) : List Token → Document
  | [] => .present [] (.fault stop)
  | t :: ts =>
    let body (frames : List Frame) (ts : List Token) : Document :=
      let (es, ending) := events d.allHandles stop frames ts
      let (es, ending) := resolve es ending
      .present es ending
    match t.sign with
    | .version major minor =>
      if d.version.isSome then .present [] (.fault (.plain .repeatedVersion t.start))
      else if major ≠ 1 ∨ (minor ≠ 1 ∧ minor ≠ 2) then .present [] (.fault (.plain .wrongVersion t.start))
      else ofTokens stop { d with version := some (major, minor) } ts
    | .tagPrefix handle value =>
      if (d.handles.lookup handle).isSome then .present [] (.fault (.plain .repeatedHandle t.start))
      else ofTokens stop { d with handles := (handle, value) :: d.handles } ts
    | .documentStart => body [.slot .root t.finish] ts
    | .streamEnd =>
      if d.isEmpty then .absent t.start else .present [] (.fault (.plain .noDocumentStart t.start))
    | _ =>
      if d.isEmpty then body [.node (.block false) none] (t :: ts)
      else .present [] (.fault (.plain .noDocumentStart t.start))

/-- The first document of a text. -/
def of (text : List Char) : Document :=
  let tokens := Tokens.of text
  ofTokens (tokens.stop.getD .endOfValue) .empty tokens.list

end Document

end StartupConfig.Yaml
