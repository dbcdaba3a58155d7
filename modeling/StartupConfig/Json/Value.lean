import StartupConfig.Json.Reader

/-!
# Reading any JSON value

A value is read whole, with everything that stands in it. The lists and records that are open are kept on a stack,
the innermost first, each with what has been read of it.
-/
namespace StartupConfig.Json

/-- A value of JSON. The members of a record keep their order, and also members of one name. -/
inductive Value
  | null
  | flag (value : Bool)
  | number (value : Number)
  | text (value : String)
  | list (items : List Value)
  | record (members : List (String × Value))

/-- The value of the first member with a name. -/
def Value.member? : Value → String → Option Value
  | .record ms, name => ms.lookup name
  | _, _ => none

/-- A list or a record that is open, the last of its parts first. The name is that of the member whose value is read. -/
inductive Open
  | list (items : List Value)
  | record (members : List (String × Value)) (name : String)

/-- What is read next: a value, or what follows one. -/
inductive Goal
  | value
  | behind (value : Value)

/-- Reads a value that holds no other values. -/
def readScalar : List Char → Except Stop (Value × List Char)
  | [] => .error ⟨.endInValue, 0⟩
  | c :: cs =>
    if c = 'n' then (skipWord ['u', 'l', 'l'] cs).map fun rest => (.null, rest)
    else if c = 't' then (skipWord ['r', 'u', 'e'] cs).map fun rest => (.flag true, rest)
    else if c = 'f' then (skipWord ['a', 'l', 's', 'e'] cs).map fun rest => (.flag false, rest)
    else if c = '-' then (readNumber true cs).map fun r => (.number r.1, r.2)
    else if c.isDigit then (readNumber false (c :: cs)).map fun r => (.number r.1, r.2)
    else if c = '"' then (readString cs).map fun r => (.text (String.ofList r.1), r.2)
    else .error (.next .expectedValue (c :: cs))

/-- Reads the name of the next member with its colon, or nothing at the end of the record. -/
def nextMember (isFirst : Bool) (cs : List Char) : Except Stop (Option String × List Char) :=
  match nextName isFirst cs with
  | .error e => .error e
  | .ok (none, rest) => .ok (none, rest)
  | .ok (some name, rest) => (readColon rest).map fun rest => (some (String.ofList name), rest)

/-! ## What is left is shorter -/

theorem exists_of_map {α β : Type} {f : α → β} {r : Except Stop α} {b : β} (h : r.map f = .ok b) :
    ∃ a, r = .ok a ∧ f a = b := by
  cases r with
  | error e => cases h
  | ok a => exact ⟨a, rfl, Except.ok.inj h⟩

theorem length_readScalar {cs rest : List Char} {v : Value} (h : readScalar cs = .ok (v, rest)) :
    rest.length < cs.length := by
  have h₁ := @length_skipWord
  have h₂ := @length_readNumber
  have h₃ := @length_readString
  unfold readScalar at h
  grind [→ exists_of_map]

theorem length_nextMember {isFirst : Bool} {cs rest : List Char} {name : Option String}
    (h : nextMember isFirst cs = .ok (name, rest)) : rest.length < cs.length := by
  have h₁ := @length_nextName
  have h₂ := @length_readColon
  unfold nextMember at h
  grind [→ exists_of_map]

theorem length_nextItem {cs rest : List Char} {isItem : Bool} (h : nextItem false cs = .ok (isItem, rest)) :
    (rest.drop (if isItem then 0 else 1)).length < cs.length := by
  have h₁ := length_dropBlank_le
  unfold nextItem at h
  grind

/-! ## Values -/

/-- Reads up to the end of the value that was begun first. -/
def readValue (goal : Goal) (stack : List Open) (cs : List Char) : Except Stop (Value × List Char) :=
  match goal with
  | .value =>
    match _h : dropBlank cs with
    | '[' :: rest =>
      match _hi : dropBlank rest with
      | ']' :: rest' => readValue (.behind (.list [])) stack rest'
      | rest' => readValue .value (.list [] :: stack) rest'
    | '{' :: rest =>
      match _hm : nextMember true rest with
      | .error e => .error e
      | .ok (none, rest') => readValue (.behind (.record [])) stack rest'
      | .ok (some name, rest') => readValue .value (.record [] name :: stack) rest'
    | rest =>
      match _hs : readScalar rest with
      | .error e => .error e
      | .ok (v, rest') => readValue (.behind v) stack rest'
  | .behind v =>
    match stack with
    | [] => .ok (v, cs)
    | .list vs :: stack =>
      match _hi : nextItem false cs with
      | .error e => .error e
      | .ok (true, rest) => readValue .value (.list (v :: vs) :: stack) rest
      | .ok (false, rest) => readValue (.behind (.list (v :: vs).reverse)) stack (rest.drop 1)
    | .record ms name :: stack =>
      match _hm : nextMember false cs with
      | .error e => .error e
      | .ok (none, rest) => readValue (.behind (.record ((name, v) :: ms).reverse)) stack rest
      | .ok (some next, rest) => readValue .value (.record ((name, v) :: ms) next :: stack) rest
termination_by cs.length
decreasing_by
  · have h₁ := length_of_dropBlank _h
    have h₂ := length_of_dropBlank _hi
    omega
  · have h₁ := length_of_dropBlank _h
    have h₂ := length_dropBlank_le rest
    rw [_hi] at h₂
    omega
  · have h₁ := length_of_dropBlank _h
    have h₂ := length_nextMember _hm
    omega
  · have h₁ := length_of_dropBlank _h
    have h₂ := length_nextMember _hm
    omega
  · have h₁ := length_dropBlank_le cs
    have h₂ := length_readScalar _hs
    rw [_h] at h₁
    omega
  · exact length_nextItem _hi
  · exact length_nextItem _hi
  · exact length_nextMember _hm
  · exact length_nextMember _hm

/-- The value that a text holds. -/
def Value.read? (text : List Char) : Option Value := (readWhole (readValue .value []) text).toOption

end StartupConfig.Json
