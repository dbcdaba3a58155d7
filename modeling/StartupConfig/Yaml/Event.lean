import StartupConfig.Yaml.Layout

/-!
# From tokens to events

The events of a document are its scalars, its aliases, and the beginnings and ends of its lists and records.
They come from a stack of expectations that is fed with one token at a time: a token either meets what is
expected first, or ends it and goes on to what is expected next. A node that is left out is an empty scalar.
-/
namespace StartupConfig.Yaml

/-- A scalar, or the beginning of a list or of a record. -/
inductive Content
  | scalar (form : Form) (text : List Char)
  | list
  | record
  deriving DecidableEq, Repr

/-- A node with its tag and the place where it begins. -/
structure Node where
  tag : Option Utf8.Bytes
  content : Content
  mark : Mark
  deriving DecidableEq, Repr

/-- An event; what an alias holds is a parameter. -/
inductive Event (α : Type)
  | node (anchor : Option Name) (node : Node)
  | alias (target : α)
  | listEnd
  | recordEnd
  deriving DecidableEq, Repr

/-- An event whose alias is a name with the place where it stands. -/
abbrev NamedEvent := Event (Name × Mark)

/-- A node that was left out. -/
def Event.missing (m : Mark) : NamedEvent := .node none ⟨none, .scalar .plain [], m⟩

/-- Where a node stands: block collections begin only in a block, and a list without a margin of its own only in
a block record. -/
inductive Site
  | block (allowsBareList : Bool)
  | flow
  deriving DecidableEq, Repr

/-- What stands in front of a node: an anchor, a tag with its place, and the place of the first of them. -/
structure Properties where
  anchor : Option Name
  tag : Option ((Name × Utf8.Bytes) × Mark)
  start : Mark
  deriving DecidableEq, Repr

/-- Places for nodes that may be left out. -/
inductive Slot
  | root
  | item
  | bareItem
  | key
  | value
  | flowKey
  | flowValue
  | pairKey
  | pairValue
  deriving DecidableEq, Repr

namespace Slot

/-- Does a token tell that the node was left out? -/
def isOmittedBefore (sign : Sign) : Slot → Bool
  | .root =>
    match sign with
    | .version .. | .tagPrefix .. | .documentStart | .documentEnd | .streamEnd => true
    | _ => false
  | .item => sign == .item || sign == .blockEnd
  | .bareItem => sign == .item || sign == .key || sign == .value || sign == .blockEnd
  | .key | .value => sign == .key || sign == .value || sign == .blockEnd
  | .flowKey => sign == .value || sign == .comma || sign == .flowRecordEnd
  | .flowValue => sign == .comma || sign == .flowRecordEnd
  | .pairKey => sign == .value || sign == .comma || sign == .flowListEnd
  | .pairValue => sign == .comma || sign == .flowListEnd

/-- Where the node stands. -/
def site : Slot → Site
  | .root | .item | .bareItem => .block false
  | .key | .value => .block true
  | _ => .flow

/-- Is the place of a node that was left out the end of the sign in front of it? -/
def followsSign : Slot → Bool
  | .item | .bareItem | .key | .value => true
  | _ => false

end Slot

/-- What is expected next in a document. Collections remember where they begin; a flow collection that is open
may go on without a comma. -/
inductive Frame
  | slot (place : Slot) (finish : Mark)
  | node (site : Site) (properties : Option Properties)
  | items (start : Mark)
  | bareItems
  | keys (start : Mark)
  | value
  | flowItems (isOpen : Bool) (start : Mark)
  | flowKeys (isOpen : Bool) (start : Mark)
  | flowValue
  | flowNoValue
  | pairValue
  | pairEnd
  deriving DecidableEq, Repr

/-- What a token leads to: events, and then what is expected next, nothing if the document ended before the
token, or a fault. -/
structure Feed where
  events : List NamedEvent
  next : Except Stop (Option (List Frame))

namespace Feed

/-- The token is taken, with an event. -/
def take (e : NamedEvent) (frames : List Frame) : Feed := ⟨[e], .ok (some frames)⟩

/-- The token is taken, without an event. -/
def pass (frames : List Frame) : Feed := ⟨[], .ok (some frames)⟩

/-- The token is refused. -/
def refuse (s : Stop) : Feed := ⟨[], .error s⟩

/-- An event before others. -/
def after (e : NamedEvent) (f : Feed) : Feed := { f with events := e :: f.events }

end Feed

/-- What tag handles stand for. -/
abbrev Handles := List (Name × Utf8.Bytes)

namespace Handles

/-- What handles stand for if nothing else is said. -/
def standard : Handles := [(['!'], Utf8.encode ['!']), (['!', '!'], Utf8.encode "tag:yaml.org,2002:".toList)]

/-- The tag of a handle and a suffix. -/
def tag? (hs : Handles) (parts : Name × Utf8.Bytes) : Option Utf8.Bytes :=
  if parts.1.isEmpty then some parts.2 else (hs.lookup parts.1).map (· ++ parts.2)

end Handles

namespace Properties

/-- Properties that begin with an anchor or a tag. -/
def ofToken? (t : Token) : Option Properties :=
  match t.sign with
  | .anchor name => some ⟨some name, none, t.start⟩
  | .tag handle suffix => some ⟨none, some ((handle, suffix), t.start), t.start⟩
  | _ => none

/-- The properties with one more token, unless there is one of its kind. -/
def add? (p : Properties) (t : Token) : Option Properties :=
  match t.sign, p.anchor, p.tag with
  | .anchor name, none, _ => some { p with anchor := some name }
  | .tag handle suffix, _, none => some { p with tag := some ((handle, suffix), t.start) }
  | _, _, _ => none

/-- The tag of a node. -/
def tag? (hs : Handles) (p : Properties) : Except Stop (Option Utf8.Bytes) :=
  match p.tag with
  | none => .ok none
  | some (parts, mark) =>
    match hs.tag? parts with
    | some tag => .ok (some tag)
    | none => .error (.within .node p.start .undefinedHandle mark)

end Properties

/-- The node that a token begins, and what is expected inside it. A list without a margin begins with its first
item, whose token goes on to the list. -/
def Token.node? (t : Token) (site : Site) : Option (Content × List Frame) :=
  match t.sign, site with
  | .scalar form text, _ => some (.scalar form text, [])
  | .flowList, _ => some (.list, [.flowItems true t.start])
  | .flowRecord, _ => some (.record, [.flowKeys true t.start])
  | .blockList, .block _ => some (.list, [.items t.start])
  | .blockRecord, .block _ => some (.record, [.keys t.start])
  | .item, .block true => some (.list, [.slot .bareItem t.finish, .bareItems])
  | _, _ => none

namespace Frame

/-- Begins a node with a token. Nothing is said if the token begins none. -/
def begin? (hs : Handles) (site : Site) (p : Option Properties) (t : Token) (below : List Frame) :
    Option Feed :=
  match p, t.sign with
  | none, .alias name => some (.take (.alias (name, t.start)) below)
  | none, _ =>
    match Properties.ofToken? t with
    | some p => some (.pass (.node site (some p) :: below))
    | none => (t.node? site).map fun (content, inside) =>
        .take (.node none ⟨none, content, t.start⟩) (inside ++ below)
  | some p, _ =>
    match p.add? t with
    | some p => some (.pass (.node site (some p) :: below))
    | none =>
      match p.tag? hs with
      | .error e => some (.refuse e)
      | .ok tag => (t.node? site).map fun (content, inside) =>
          .take (.node p.anchor ⟨tag, content, p.start⟩) (inside ++ below)

/-- The fault where a node is expected and none begins. -/
def noNode (site : Site) (start : Mark) (t : Token) : Stop :=
  .within (match site with | .block _ => .blockNode | .flow => .flowNode) start .noNode t.start

/-- Begins a node that has to be there. -/
def begin (hs : Handles) (site : Site) (t : Token) (below : List Frame) : Feed :=
  (begin? hs site none t below).getD (.refuse (noNode site t.start t))

/-- Goes on in a flow list, where an item or a pair may begin. -/
def flowItem (hs : Handles) (start : Mark) (t : Token) (below : List Frame) : Feed :=
  match t.sign with
  | .flowListEnd => .take .listEnd below
  | .key =>
    .take (.node none ⟨none, .record, t.start⟩)
      (.slot .pairKey t.finish :: .pairValue :: .pairEnd :: .flowItems false start :: below)
  | _ => begin hs .flow t (.flowItems false start :: below)

/-- Goes on in a flow record, where a key may begin. -/
def flowKey (hs : Handles) (start : Mark) (t : Token) (below : List Frame) : Feed :=
  match t.sign with
  | .flowRecordEnd => .take .recordEnd below
  | .key => .pass (.slot .flowKey t.finish :: .flowValue :: .flowKeys false start :: below)
  | _ => begin hs .flow t (.flowNoValue :: .flowKeys false start :: below)

/-- Feeds a token to what is expected, first things first. -/
def feed (hs : Handles) (t : Token) : List Frame → Feed
  | [] => ⟨[], .ok none⟩
  | .slot place finish :: below =>
    if place.isOmittedBefore t.sign then
      if place = .pairKey then .take (.missing t.finish) below
      else .after (.missing (if place.followsSign then finish else t.start)) (feed hs t below)
    else begin hs place.site t below
  | .node site none :: below => begin hs site t below
  | .node site (some p) :: below =>
    match begin? hs site (some p) t below with
    | some f => f
    | none =>
      match p.tag? hs with
      | .error e => .refuse e
      | .ok tag =>
        .after (.node p.anchor ⟨tag, .scalar .plain [], p.start⟩) (feed hs t below)
  | .items start :: below =>
    match t.sign with
    | .item => .pass (.slot .item t.finish :: .items start :: below)
    | .blockEnd => .take .listEnd below
    | _ => .refuse (.within .blockList start .noItem t.start)
  | .bareItems :: below =>
    match t.sign with
    | .item => .pass (.slot .bareItem t.finish :: .bareItems :: below)
    | _ => .after .listEnd (feed hs t below)
  | .keys start :: below =>
    match t.sign with
    | .key => .pass (.slot .key t.finish :: .value :: .keys start :: below)
    | .blockEnd => .take .recordEnd below
    | _ => .refuse (.within .blockRecord start .noKey t.start)
  | .value :: below =>
    match t.sign with
    | .value => .pass (.slot .value t.finish :: below)
    | _ => .after (.missing t.start) (feed hs t below)
  | .flowItems isOpen start :: below =>
    if isOpen ∨ t.sign = .flowListEnd then flowItem hs start t below
    else if t.sign = .comma then .pass (.flowItems true start :: below)
    else .refuse (.within .flowList start .noListEnd t.start)
  | .flowKeys isOpen start :: below =>
    if isOpen ∨ t.sign = .flowRecordEnd then flowKey hs start t below
    else if t.sign = .comma then .pass (.flowKeys true start :: below)
    else .refuse (.within .flowRecord start .noRecordEnd t.start)
  | .flowValue :: below =>
    match t.sign with
    | .value => .pass (.slot .flowValue t.finish :: below)
    | _ => .after (.missing t.start) (feed hs t below)
  | .flowNoValue :: below => .after (.missing t.start) (feed hs t below)
  | .pairValue :: below =>
    match t.sign with
    | .value => .pass (.slot .pairValue t.finish :: below)
    | _ => .after (.missing t.start) (feed hs t below)
  | .pairEnd :: below => .after .recordEnd (feed hs t below)

end Frame

end StartupConfig.Yaml
