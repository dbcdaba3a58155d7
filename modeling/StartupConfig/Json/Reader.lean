import StartupConfig.Delivery
import StartupConfig.Draft
import StartupConfig.Json.Number
import StartupConfig.Json.Skip

/-!
# Reading records from JSON

A record is a JSON record with a member for each setting, in any order and among others that are passed over,
or a list of the four values in order. A kind is one of two words, or a record with that word for its only
name and null for its value. Nothing but blanks may follow.
-/
namespace StartupConfig.Json

/-- The fault of a value of another type than the one wanted. Lists and records are not looked into. -/
def unexpected (wanted : String) (cs : List Char) : Stop :=
  let after (found : Found) : Except Stop (List Char) → Stop
    | .ok rest => .here (.wrongType found wanted) rest
    | .error e => e
  let afterNumber : Except Stop (Number × List Char) → Stop
    | .ok (.integer z, rest) => .here (.wrongType (.integer z) wanted) rest
    | .ok (.float x, rest) => .here (.wrongType (.float x) wanted) rest
    | .error e => e
  match cs with
  | [] => ⟨.expectedValue, 0⟩
  | c :: rest =>
    if c = 'n' then after .null (skipWord ['u', 'l', 'l'] rest)
    else if c = 't' then after (.boolean true) (skipWord ['r', 'u', 'e'] rest)
    else if c = 'f' then after (.boolean false) (skipWord ['a', 'l', 's', 'e'] rest)
    else if c = '-' then afterNumber (readNumber true rest)
    else if c.isDigit then afterNumber (readNumber false (c :: rest))
    else if c = '"' then
      match readString rest with
      | .ok (s, rest) => .here (.wrongType (.text s) wanted) rest
      | .error e => e
    else if c = '[' then .here (.wrongType .list wanted) cs
    else if c = '{' then .here (.wrongType .record wanted) cs
    else .next .expectedValue cs

/-- Reads a string. -/
def readText (wanted : String) (cs : List Char) : Except Stop (List Char × List Char) :=
  match dropBlank cs with
  | [] => .error ⟨.endInValue, 0⟩
  | '"' :: rest => readString rest
  | rest => .error (unexpected wanted rest)

/-- A number as an integer of the record. -/
def toLong : Number × List Char → Except Stop (Long × List Char)
  | (.integer z, rest) =>
    if h : (IntegerType.signed 64).Contains z then .ok (⟨z, h⟩, rest)
    else .error (.here (.wrongValue (.integer z) "i64") rest)
  | (.float x, rest) => .error (.here (.wrongType (.float x) "i64") rest)

/-- Reads an integer of the record. -/
def readLong (cs : List Char) : Except Stop (Long × List Char) :=
  match dropBlank cs with
  | [] => .error ⟨.endInValue, 0⟩
  | '-' :: rest => (readNumber true rest).bind toLong
  | c :: rest =>
    if c.isDigit then (readNumber false (c :: rest)).bind toLong else .error (unexpected "i64" (c :: rest))

/-- Reads the value of a setting into a draft. -/
def readSetting (s : Setting) (d : Draft) (cs : List Char) : Except Stop (Draft × List Char) :=
  let text (put : String → Draft) : Except Stop (Draft × List Char) :=
    match readText "a string" cs with
    | .ok (t, rest) => .ok (put (String.ofList t), rest)
    | .error e => .error e
  match s with
  | .templateFile => text fun t => { d with templateFile := some t }
  | .initImage => text fun t => { d with initImage := some t }
  | .deliveryImage => text fun t => { d with deliveryImage := some t }
  | .maxTries =>
    match readLong cs with
    | .ok (n, rest) => .ok ({ d with maxTries := some n }, rest)
    | .error e => .error e

/-- Reads the name of a member where one must stand. -/
def readName : List Char → Except Stop (Option (List Char) × List Char)
  | [] => .error ⟨.endInValue, 0⟩
  | '"' :: rest =>
    match readString rest with
    | .ok (name, rest) => .ok (some name, rest)
    | .error e => .error e
  | '}' :: rest => .error (.next .trailingComma ('}' :: rest))
  | rest => .error (.next .nameNotString rest)

/-- Reads the name of the next member, or nothing at the end of the record. -/
def nextName (isFirst : Bool) (cs : List Char) : Except Stop (Option (List Char) × List Char) :=
  match dropBlank cs with
  | [] => .error ⟨.endInRecord, 0⟩
  | '}' :: rest => .ok (none, rest)
  | c :: rest =>
    if isFirst then readName (c :: rest)
    else if c = ',' then readName (dropBlank rest)
    else .error (.next .expectedRecordEnd (c :: rest))

/-- Reads the colon behind a name. -/
def readColon (cs : List Char) : Except Stop (List Char) :=
  match dropBlank cs with
  | [] => .error ⟨.endInRecord, 0⟩
  | ':' :: rest => .ok rest
  | rest => .error (.next .expectedColon rest)

/-- A fault that concerns a record as a whole: its place is behind the record if that ends here. -/
def inRecord (cause : Cause) (cs : List Char) : Stop :=
  match dropBlank cs with
  | '}' :: rest => .here cause rest
  | rest => .here cause rest

/-- Reads the value of a member: into the draft, or past it when the name is no setting's. -/
def readMember (name : List Char) (d : Draft) (cs : List Char) : Except Stop (Draft × List Char) :=
  match Setting.ofField? (String.ofList name) with
  | some s =>
    if d.has s then .error (inRecord (.repeatedField s.field) cs)
    else (readColon cs).bind (readSetting s d)
  | none =>
    match (readColon cs).bind skipValue with
    | .ok rest => .ok (d, rest)
    | .error e => .error e

/-! ## What is left is shorter -/

theorem length_readText {wanted : String} {cs s rest : List Char}
    (h : readText wanted cs = .ok (s, rest)) : rest.length < cs.length := by
  unfold readText at h
  split at h
  · simp at h
  · next hb => exact Nat.lt_trans (length_readString h) (length_of_dropBlank hb)
  · simp at h

theorem length_toLong {x : Number × List Char} {n : Long} {rest : List Char}
    (h : toLong x = .ok (n, rest)) : rest = x.2 := by
  unfold toLong at h
  grind

theorem length_readLong {cs rest : List Char} {n : Long} (h : readLong cs = .ok (n, rest)) :
    rest.length < cs.length := by
  have key : ∀ {negative : Bool} {ds : List Char},
      (readNumber negative ds).bind toLong = .ok (n, rest) → rest.length < ds.length := by
    intro negative ds hd
    cases hr : readNumber negative ds with
    | error e => simp [hr, Except.bind] at hd
    | ok x =>
      rw [hr] at hd
      rw [length_toLong hd]
      exact length_readNumber hr
  have hb := length_dropBlank_le cs
  unfold readLong at h
  grind

theorem length_readSetting {s : Setting} {d d' : Draft} {cs rest : List Char}
    (h : readSetting s d cs = .ok (d', rest)) : rest.length < cs.length := by
  have h₁ := @length_readText "a string" cs
  have h₂ := @length_readLong cs
  unfold readSetting at h
  grind

theorem length_nextName {isFirst : Bool} {cs rest : List Char} {name : Option (List Char)}
    (h : nextName isFirst cs = .ok (name, rest)) : rest.length < cs.length := by
  have key : ∀ {ds : List Char}, readName ds = .ok (name, rest) → rest.length < ds.length := by
    intro ds hd
    have := @length_readString
    unfold readName at hd
    grind
  have hb := length_dropBlank_le
  unfold nextName at h
  grind

theorem length_readColon {cs rest : List Char} (h : readColon cs = .ok rest) :
    rest.length < cs.length := by
  have := length_dropBlank_le cs
  unfold readColon at h
  grind

theorem length_readMember {name : List Char} {d d' : Draft} {cs rest : List Char}
    (h : readMember name d cs = .ok (d', rest)) : rest.length < cs.length := by
  unfold readMember at h
  cases hc : readColon cs with
  | error e => grind [Except.bind]
  | ok ds =>
    have h₁ := length_readColon hc
    have h₂ := @length_readSetting
    have h₃ : ∀ {rest}, skipValue ds = .ok rest → rest.length ≤ ds.length := length_skip
    grind [Except.bind]

/-! ## Records and kinds -/

/-- Reads the members of a record up to its end. -/
def readMembers (isFirst : Bool) (d : Draft) (cs : List Char) : Except Stop (Record × List Char) :=
  match _h : nextName isFirst cs with
  | .error e => .error e
  | .ok (none, rest) =>
    match d.complete with
    | .ok r => .ok (r, rest)
    | .error s => .error (.here (.missingField s.field) rest)
  | .ok (some name, rest) =>
    match _hm : readMember name d rest with
    | .error e => .error e
    | .ok (d, rest') => readMembers false d rest'
termination_by cs.length
decreasing_by exact Nat.lt_trans (length_readMember _hm) (length_nextName _h)

/-- Goes to the next item of a list; false at the end of the list. -/
def nextItem (isFirst : Bool) (cs : List Char) : Except Stop (Bool × List Char) :=
  match dropBlank cs with
  | [] => .error ⟨.endInList, 0⟩
  | ']' :: rest => .ok (false, ']' :: rest)
  | c :: rest =>
    if isFirst then .ok (true, c :: rest)
    else if c = ',' then
      match dropBlank rest with
      | [] => .error ⟨.endInValue, 0⟩
      | ']' :: rest => .error (.next .trailingComma (']' :: rest))
      | rest => .ok (true, rest)
    else .error (.next .expectedListEnd (c :: rest))

/-- The end of a list. -/
def endList (cs : List Char) : Except Stop (List Char) :=
  match dropBlank cs with
  | [] => .error ⟨.endInList, 0⟩
  | ']' :: rest => .ok rest
  | ',' :: rest =>
    match dropBlank rest with
    | ']' :: rest => .error (.next .trailingComma (']' :: rest))
    | rest => .error (.next .trailingCharacters rest)
  | rest => .error (.next .trailingCharacters rest)

/-- What a list of values is wanted for. -/
def wantedList (role : Role) : String := "struct " ++ role.name ++ " with 4 elements"

/-- Reads the values of settings in order, and the end of the list. -/
def readItems (role : Role) : List Setting → Draft → List Char → Except Stop (Draft × List Char)
  | [], d, cs =>
    match endList cs with
    | .ok rest => .ok (d, rest)
    | .error e => .error e
  | s :: ss, d, cs =>
    let read := Setting.all.length - (s :: ss).length
    match nextItem (read == 0) cs with
    | .error e => .error e
    | .ok (false, rest) => .error (.here (.wrongLength read (wantedList role)) (rest.drop 1))
    | .ok (true, rest) =>
      match readSetting s d rest with
      | .error e => .error e
      | .ok (d, rest) => readItems role ss d rest

/-- Reads a record. -/
def readRecord (role : Role) (cs : List Char) : Except Stop (Record × List Char) :=
  match dropBlank cs with
  | [] => .error ⟨.endInValue, 0⟩
  | '[' :: rest =>
    match readItems role Setting.all .empty rest with
    | .error e => .error e
    | .ok (d, rest) =>
      match d.complete with
      | .ok r => .ok (r, rest)
      | .error s => .error (.here (.missingField s.field) rest)
  | '{' :: rest => readMembers true .empty rest
  | rest => .error (unexpected ("struct " ++ role.name) rest)

/-- Goes to the name in a record that has to hold one. -/
def onlyName (cs : List Char) : Except Stop (List Char) :=
  match dropBlank cs with
  | [] => .error ⟨.endInRecord, 0⟩
  | '"' :: rest => .ok ('"' :: rest)
  | '}' :: rest => .error (.next .expectedValue ('}' :: rest))
  | rest => .error (.next .nameNotString rest)

/-- Reads the word of a kind. -/
def readKindWord (cs : List Char) : Except Stop (Kind × List Char) :=
  match readText "variant identifier" cs with
  | .error e => .error e
  | .ok (word, rest) =>
    if word = Kind.string.name.toList then .ok (.string, rest)
    else if word = Kind.integer.name.toList then .ok (.integer, rest)
    else .error (.here (.unknownKind word) rest)

/-- Reads null, which is all that a kind holds. -/
def readNull (cs : List Char) : Except Stop (List Char) :=
  match dropBlank cs with
  | [] => .error ⟨.endInValue, 0⟩
  | 'n' :: rest => skipWord ['u', 'l', 'l'] rest
  | rest => .error (unexpected "unit" rest)

/-- Reads a kind. -/
def readKind (cs : List Char) : Except Stop (Kind × List Char) :=
  match dropBlank cs with
  | [] => .error ⟨.endInValue, 0⟩
  | '"' :: rest => readKindWord ('"' :: rest)
  | '{' :: rest => do
    let (kind, rest) ← readKindWord (← onlyName rest)
    let rest ← readColon rest
    let rest ← readNull rest
    match dropBlank rest with
    | '}' :: rest => .ok (kind, rest)
    | [] => .error ⟨.endInRecord, 0⟩
    | rest => .error (.here .expectedValue rest)
  | rest => .error (.next .expectedValue rest)

/-- Reads a whole text: nothing but blanks may follow what is read. -/
def readWhole {α : Type} (read : List Char → Except Stop (α × List Char)) (text : List Char) :
    Except Stop α :=
  match read text with
  | .error e => .error e
  | .ok (value, rest) =>
    match dropBlank rest with
    | [] => .ok value
    | rest => .error (.next .trailingCharacters rest)

/-- Reads a whole text, with the wording of a fault. -/
def decode {α : Type} (read : List Char → Except Stop (α × List Char)) (text : String) :
    Except Fault α :=
  (readWhole read text.toList).mapError fun e => .json (String.ofList (e.message text.toList))

/-- The record that a text holds. -/
def decodeRecord (role : Role) (text : String) : Except Fault Record := decode (readRecord role) text

/-- The kind that a text holds. -/
def decodeKind (text : String) : Except Fault Kind := decode readKind text

end StartupConfig.Json
