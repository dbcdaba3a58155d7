import StartupConfig.Json.Token

/-!
# Passing over JSON values

A value that nobody asked for is passed over at any depth: the lists and records that are open are kept on a
stack, the innermost first.
-/
namespace StartupConfig.Json

/-- A list or a record that is open. -/
inductive Frame
  | list
  | record
  deriving DecidableEq, Repr

namespace Frame

/-- The character that closes it. -/
def close : Frame → Char
  | .list => ']'
  | .record => '}'

/-- The fault where the text ends within it. -/
def atEnd : Frame → Cause
  | .list => .endInList
  | .record => .endInRecord

/-- The fault where neither a comma nor the end of it is found. -/
def unclosed : Frame → Cause
  | .list => .expectedListEnd
  | .record => .expectedRecordEnd

end Frame

/-- What is passed over next: a value, what follows the opening character of a list or record, an item of a
list or record, or what follows a value. -/
inductive Task
  | value
  | opened (frame : Frame)
  | item (frame : Frame)
  | closed
  deriving DecidableEq, Repr

/-- The order of tasks that may follow each other before a character is passed over. -/
def Task.rank : Task → Nat
  | .closed => 0
  | .value => 1
  | .item _ => 2
  | .opened _ => 3

theorem length_of_dropBlank {cs rest : List Char} {c : Char} (h : dropBlank cs = c :: rest) :
    rest.length < cs.length := by
  have := length_dropBlank_le cs
  rw [h, List.length_cons] at this
  omega

/-- Carries out a task, and then passes over what is left of the lists and records that are open. -/
def skip (task : Task) (stack : List Frame) (cs : List Char) : Except Stop (List Char) :=
  match task with
  | .value =>
    match _h : dropBlank cs with
    | '[' :: rest => skip (.opened .list) stack rest
    | '{' :: rest => skip (.opened .record) stack rest
    | rest =>
      match _hs : skipScalar rest with
      | .error e => .error e
      | .ok rest' => skip .closed stack rest'
  | .opened frame =>
    match _h : dropBlank cs with
    | [] => .error ⟨frame.atEnd, 0⟩
    | c :: rest =>
      if c = frame.close then skip .closed stack rest else skip (.item frame) stack (c :: rest)
  | .item .list => skip .value (.list :: stack) cs
  | .item .record =>
    match _h : dropBlank cs with
    | [] => .error ⟨.endInRecord, 0⟩
    | '"' :: rest =>
      match _hs : skipString rest with
      | .error e => .error e
      | .ok rest' =>
        match _hc : dropBlank rest' with
        | [] => .error ⟨.endInRecord, 0⟩
        | ':' :: rest'' => skip .value (.record :: stack) rest''
        | rest'' => .error (.next .expectedColon rest'')
    | rest => .error (.next .nameNotString rest)
  | .closed =>
    match stack with
    | [] => .ok cs
    | frame :: stack =>
      match _h : dropBlank cs with
      | [] => .error ⟨frame.atEnd, 0⟩
      | c :: rest =>
        if c = ',' then skip (.item frame) stack rest
        else if c = frame.close then skip .closed stack rest
        else .error (.next frame.unclosed (c :: rest))
termination_by (cs.length, task.rank)
decreasing_by
  · exact Prod.Lex.left _ _ (length_of_dropBlank _h)
  · exact Prod.Lex.left _ _ (length_of_dropBlank _h)
  · have hle := length_dropBlank_le cs
    rw [_h] at hle
    exact Prod.Lex.left _ _ (Nat.lt_of_lt_of_le (length_skipScalar _hs) hle)
  · exact Prod.Lex.left _ _ (length_of_dropBlank _h)
  · rcases Nat.lt_or_ge (c :: rest).length cs.length with hlt | hge
    · exact Prod.Lex.left _ _ hlt
    · have := length_of_dropBlank _h
      rw [show (c :: rest).length = cs.length by rw [List.length_cons] at *; omega]
      exact Prod.Lex.right _ (by simp [Task.rank])
  · exact Prod.Lex.right _ (by simp [Task.rank])
  · have h₁ := length_of_dropBlank _h
    have h₂ := length_skipString _hs
    exact Prod.Lex.left _ _ (by have := length_of_dropBlank _hc; omega)
  · exact Prod.Lex.left _ _ (length_of_dropBlank _h)
  · exact Prod.Lex.left _ _ (length_of_dropBlank _h)

/-- Passes over a value. -/
def skipValue (cs : List Char) : Except Stop (List Char) := skip .value [] cs

theorem length_skip {task : Task} {stack : List Frame} {cs rest : List Char}
    (h : skip task stack cs = .ok rest) : rest.length ≤ cs.length := by
  have h₁ := @length_of_dropBlank
  have h₂ := @length_skipScalar
  have h₃ := @length_skipString
  have h₄ := length_dropBlank_le
  fun_induction skip task stack cs <;> grind

end StartupConfig.Json
