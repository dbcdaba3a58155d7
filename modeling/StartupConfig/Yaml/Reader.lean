import StartupConfig.Delivery
import StartupConfig.Draft
import StartupConfig.Yaml.Document

/-!
# Reading records from YAML

A record is the first document of a text, a YAML record with a member for each setting, in any order and among
others that are passed over. A kind is a word, or a node whose tag is the word and that is null. No further
document may follow.
-/
namespace StartupConfig.Yaml

/-- A tag of the standard types. -/
def standardTag (name : String) : Utf8.Bytes := Utf8.encode ("tag:yaml.org,2002:" ++ name).toList

/-- The tag of integers. -/
def integerTag : Utf8.Bytes := standardTag "int"

/-- Does a tag belong to a document, and not to the standard types? -/
def isLocalTag (tag : Utf8.Bytes) : Bool := tag.head? == some 33

namespace Node

/-- What a scalar without quotes is taken for. -/
def untagged (text : List Char) : Found := .untagged (Untagged.resolve text) text

/-- What a text is found as if it is not what its tag says. -/
def checked (found : Option Untagged) (text : List Char) (tagWanted wanted : String) : Cause :=
  match found with
  | some value => .wrongType (.untagged value text) wanted
  | none => .wrongText text tagWanted

/-- The cause of refusing a scalar where something else is wanted. A standard tag decides what the scalar is. -/
def unwantedScalar (tag : Option Utf8.Bytes) (form : Form) (text : List Char) (wanted : String) : Cause :=
  let asText : Cause := .wrongType (.untagged .text text) wanted
  let asPlain : Cause := if form = .plain then .wrongType (untagged text) wanted else asText
  match tag with
  | none => asPlain
  | some tag =>
    if tag = standardTag "bool" then
      checked ((Untagged.boolean? text).map .boolean) text "a boolean" wanted
    else if tag = integerTag then
      checked ((Untagged.integer? text).map .integer) text "an integer" wanted
    else if tag = standardTag "float" then checked (Untagged.float? text) text "a float" wanted
    else if tag = standardTag "null" then
      checked (if Untagged.isNullWord text then some .null else none) text "null" wanted
    else if isLocalTag tag then asPlain
    else asText

/-- The cause of refusing a node where something else is wanted. -/
def unwanted (n : Node) (wanted : String) : Cause :=
  match n.content with
  | .scalar form text => unwantedScalar n.tag form text wanted
  | .list => .wrongType .list wanted
  | .record => .wrongType .record wanted

/-- The fault of a node where something else is wanted. -/
def refuse (n : Node) (path : List Char) (wanted : String) : Stop :=
  .unfit path (n.unwanted wanted) (some n.mark)

/-- The text of a scalar, however it is written. -/
def text (n : Node) (path : List Char) (wanted : String) : Except Stop (List Char) :=
  match n.content with
  | .scalar _ text => .ok text
  | _ => .error (n.refuse path wanted)

/-- May an integer be written in this way? -/
def holdsInteger (tag : Option Utf8.Bytes) : Form → Bool
  | .plain => true
  | .literal => tag == some integerTag
  | _ => false

/-- An integer of the record. -/
def long (n : Node) (path : List Char) : Except Stop Long :=
  match n.content with
  | .scalar form text =>
    if holdsInteger n.tag form then
      match Untagged.signed? (.signed 64) text with
      | some z => if h : (IntegerType.signed 64).Contains z then .ok ⟨z, h⟩ else .error (n.refuse path "i64")
      | none => .error (n.refuse path "i64")
    else .error (n.refuse path "i64")
  | _ => .error (n.refuse path "i64")

end Node

/-! ## Events -/

/-- The node of an event: its own, or the one that an alias stands for. -/
def Event.node? : Event Node → Option Node
  | .node _ n => some n
  | .alias n => some n
  | _ => none

/-- Goes over events until a number of open collections has ended. -/
def skipOpen : Nat → List (Event Node) → List (Event Node)
  | 0, es => es
  | _ + 1, [] => []
  | n + 1, e :: es =>
    match e with
    | .node _ ⟨_, .list, _⟩ => skipOpen (n + 2) es
    | .node _ ⟨_, .record, _⟩ => skipOpen (n + 2) es
    | .listEnd => skipOpen n es
    | .recordEnd => skipOpen n es
    | _ => skipOpen (n + 1) es

/-- Goes over the events of one node, as far as they go. -/
def skipNode : List (Event Node) → List (Event Node)
  | [] => []
  | .node _ ⟨_, .list, _⟩ :: es => skipOpen 1 es
  | .node _ ⟨_, .record, _⟩ :: es => skipOpen 1 es
  | _ :: es => es

theorem length_skipOpen_le (n : Nat) (es : List (Event Node)) : (skipOpen n es).length ≤ es.length := by
  fun_induction skipOpen n es <;> grind

theorem length_skipNode_le (es : List (Event Node)) : (skipNode es).length ≤ es.length := by
  have := length_skipOpen_le
  unfold skipNode
  grind

/-! ## Records -/

/-- Reads the value of a setting. -/
def readSetting (s : Setting) (path : List Char) (d : Draft) (n : Node) : Except Stop Draft := do
  match s with
  | .templateFile => return { d with templateFile := String.ofList (← n.text path "a string") }
  | .initImage => return { d with initImage := String.ofList (← n.text path "a string") }
  | .deliveryImage => return { d with deliveryImage := String.ofList (← n.text path "a string") }
  | .maxTries => return { d with maxTries := some (← n.long path) }

/-- The path of a member, in front of faults of its value. The name behind an alias is not told. -/
def memberPath (name : List Char) : Event Node → List Char
  | .alias _ => ['?']
  | _ => name

/-- Reads the members of a record that begins at a mark; `stop` is the fault where the events run out. -/
def readMembers (stop : Stop) (start : Mark) (d : Draft) (es : List (Event Node)) : Except Stop Record :=
  match es with
  | [] => .error stop
  | e :: rest =>
    match e.node? with
    | none =>
      match d.complete with
      | .ok r => .ok r
      | .error s => .error (.unfit [] (.missingField s.field) (some start))
    | some key =>
      match key.text [] "field identifier" with
      | .error e => .error e
      | .ok name =>
        match Setting.ofField? (String.ofList name) with
        | none => readMembers stop start d (skipNode rest)
        | some s =>
          if d.has s then .error (.unfit [] (.repeatedField s.field) (some start))
          else
            match rest with
            | [] => .error stop
            | v :: rest =>
              match v.node? with
              | none => .error stop
              | some n =>
                match readSetting s (memberPath name e) d n with
                | .error e => .error e
                | .ok d => readMembers stop start d rest
termination_by es.length
decreasing_by
  · have := length_skipNode_le rest
    simp only [List.length_cons]
    omega
  · simp only [List.length_cons]
    omega

/-- Reads a record. An empty node is a record without members. -/
def readRecord (role : Role) (stop : Stop) (es : List (Event Node)) : Except Stop Record :=
  match es with
  | [] => .error stop
  | e :: rest =>
    match e.node? with
    | none => .error stop
    | some n =>
      match n.content with
      | .record => readMembers stop n.mark .empty rest
      | .scalar .plain [] =>
        .error (.unfit [] (.missingField Setting.templateFile.field) (some n.mark))
      | _ => .error (n.refuse [] ("struct " ++ role.name))

/-! ## Kinds -/

/-- The name that a tag of the document gives. -/
def localName? : Option Utf8.Bytes → Option (List Char)
  | none => none
  | some tag =>
    if isLocalTag tag then
      (Utf8.strict? (if tag.length = 1 then tag else tag.drop 1)).map String.toList
    else none

/-- The kind of a name, with the place that is told if there is none. -/
def kindOf (name : List Char) (mark : Option Mark) : Except Stop Kind :=
  if name = Kind.string.name.toList then .ok .string
  else if name = Kind.integer.name.toList then .ok .integer
  else .error (.unfit [] (.unknownKind name) mark)

/-- A node behind its tag that has to be null. -/
def checkNull (n : Node) : Except Stop Unit :=
  match n.content with
  | .scalar form text =>
    if form = .plain ∧ Untagged.isNull text then .ok ()
    else .error (.unfit [] (.wrongText text "null") (some n.mark))
  | .list => .error (.unfit [] (.wrongType .list "unit") (some n.mark))
  | .record => .error (.unfit [] (.wrongType .record "unit") (some n.mark))

/-- Reads a kind. -/
def readKind (stop : Stop) (es : List (Event Node)) : Except Stop Kind :=
  match es.head?.bind Event.node? with
  | none => .error stop
  | some n =>
    match localName? n.tag with
    | some name => do
      let kind ← kindOf name none
      checkNull n
      return kind
    | none =>
      match n.content with
      | .scalar _ text => kindOf text (some n.mark)
      | _ => .error (n.refuse [] "a YAML tag starting with '!'")

/-! ## Texts -/

/-- Reads a whole text. A fault in the value is told before one behind it. -/
def readWhole {α : Type} (absent : Mark → Stop) (read : Stop → List (Event Node) → Except Stop α)
    (text : List Char) : Except Stop α :=
  match Document.of text with
  | .absent mark => .error (absent mark)
  | .present es .end => read .endOfValue es
  | .present es .furtherDocument => (read .endOfValue es).bind fun _ => .error .severalDocuments
  | .present es (.fault stop) => (read stop es).bind fun _ => .error stop

/-- Reads a whole text, with the wording of a fault. -/
def decode {α : Type} (absent : Mark → Stop) (read : Stop → List (Event Node) → Except Stop α)
    (text : String) : Except Fault α :=
  (readWhole absent read text.toList).mapError fun s => .yaml (String.ofList s.message)

/-- The record that a text holds. Without a document there are no members. -/
def decodeRecord (role : Role) (text : String) : Except Fault Record :=
  decode (fun mark => .unfit [] (.missingField Setting.templateFile.field) (some mark)) (readRecord role)
    text

/-- The kind that a text holds. -/
def decodeKind (text : String) : Except Fault Kind := decode (fun _ => .endOfValue) readKind text

end StartupConfig.Yaml
