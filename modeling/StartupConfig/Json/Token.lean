import StartupConfig.Json.Fault

/-!
# The smallest parts of JSON texts

Blanks, words, strings and numbers. Each reading function returns what it read and what is left; a function
that passes over a part checks less of it than one that reads it. What is left is never longer, which is what
lets the readers of larger parts end.
-/
namespace StartupConfig.Json

/-- Characters between the parts of a text. -/
def isBlank (c : Char) : Bool := c == ' ' || c == '\n' || c == '\t' || c == '\r'

/-- The text from the next character that is not blank. -/
def dropBlank (cs : List Char) : List Char := cs.dropWhile isBlank

/-- Passes over the rest of a word. -/
def skipWord : List Char → List Char → Except Stop (List Char)
  | [], cs => .ok cs
  | _ :: _, [] => .error ⟨.endInValue, 0⟩
  | w :: ws, c :: cs => if c = w then skipWord ws cs else .error (.next .expectedWord (c :: cs))

/-- The number that four hexadecimal digits denote. -/
def hex4? (a b c d : Char) : Option Nat := do
  let a ← Digits.value? 16 a
  let b ← Digits.value? 16 b
  let c ← Digits.value? 16 c
  let d ← Digits.value? 16 d
  return ((a * 16 + b) * 16 + c) * 16 + d

/-- The fault where four hexadecimal digits are wanted and not found. -/
def hexStop (cs : List Char) : Stop :=
  if Utf8.size cs < 4 then ⟨.endInString, 0⟩ else ⟨.invalidEscape, Utf8.size cs - 4⟩

/-- The character that a letter stands for behind a backslash. -/
def unescape? (c : Char) : Option Char :=
  [('"', '"'), ('\\', '\\'), ('/', '/'), ('b', '\x08'), ('f', '\x0c'), ('n', '\n'), ('r', '\r'),
    ('t', '\t')].lookup c

/-- The first half of a pair that denotes one character. -/
def isHighSurrogate (n : Nat) : Bool := 0xD800 ≤ n && n ≤ 0xDBFF

/-- The second half of a pair. -/
def isLowSurrogate (n : Nat) : Bool := 0xDC00 ≤ n && n ≤ 0xDFFF

/-- The character that a pair denotes. -/
def ofSurrogates (high low : Nat) : Char :=
  Char.ofNat ((high - 0xD800) * 0x400 + (low - 0xDC00) + 0x10000)

/-- The fault where the second half of a pair is wanted and not found. -/
def pairStop : List Char → Stop
  | [] => ⟨.endInString, 0⟩
  | '\\' :: [] => ⟨.endInString, 0⟩
  | '\\' :: 'u' :: cs => hexStop cs
  | '\\' :: cs => .next .brokenSurrogatePair cs
  | cs => .next .brokenSurrogatePair cs

/-- A character in front of a string that was read. -/
def push (c : Char) : Except Stop (List Char × List Char) → Except Stop (List Char × List Char)
  | .ok (s, rest) => .ok (c :: s, rest)
  | .error e => .error e

/-- Reads a string behind its first quotation mark. -/
def readString : List Char → Except Stop (List Char × List Char)
  | [] => .error ⟨.endInString, 0⟩
  | c :: cs =>
    if c = '"' then .ok ([], cs)
    else if c = '\\' then
      match cs with
      | [] => .error ⟨.endInString, 0⟩
      | 'u' :: ds =>
        match ds with
        | w :: x :: y :: z :: es =>
          match hex4? w x y z with
          | none => .error (hexStop ds)
          | some n =>
            if isLowSurrogate n then .error (.here .loneSurrogate es)
            else if isHighSurrogate n then
              match es with
              | '\\' :: 'u' :: w' :: x' :: y' :: z' :: fs =>
                match hex4? w' x' y' z' with
                | none => .error (pairStop es)
                | some m =>
                  if isLowSurrogate m then push (ofSurrogates n m) (readString fs)
                  else .error (.here .loneSurrogate fs)
              | es => .error (pairStop es)
            else push (Char.ofNat n) (readString es)
        | ds => .error (hexStop ds)
      | e :: ds =>
        match unescape? e with
        | some x => push x (readString ds)
        | none => .error (.next .invalidEscape (e :: ds))
    else if c.toNat < 0x20 then .error (.here .controlCharacter cs)
    else push c (readString cs)

/-- Passes over a string behind its first quotation mark; escapes need not denote characters. -/
def skipString : List Char → Except Stop (List Char)
  | [] => .error ⟨.endInString, 0⟩
  | c :: cs =>
    if c = '"' then .ok cs
    else if c = '\\' then
      match cs with
      | [] => .error ⟨.endInString, 0⟩
      | 'u' :: ds =>
        match ds with
        | w :: x :: y :: z :: es =>
          if (hex4? w x y z).isSome then skipString es else .error (hexStop ds)
        | ds => .error (hexStop ds)
      | e :: ds => if (unescape? e).isSome then skipString ds else .error (.next .invalidEscape (e :: ds))
    else if c.toNat < 0x20 then .error (.here .controlCharacter (c :: cs))
    else skipString cs

/-- Passes over an exponent behind its letter. -/
def skipExponent (cs : List Char) : Except Stop (List Char) :=
  let ds := match cs with
    | '+' :: ds => ds
    | '-' :: ds => ds
    | ds => ds
  match ds with
  | [] => .error ⟨.invalidNumber, 0⟩
  | d :: ds =>
    if d.isDigit then .ok (ds.dropWhile Char.isDigit) else .error (.next .invalidNumber (d :: ds))

/-- Passes over the fraction and the exponent of a number. -/
def skipFraction : List Char → Except Stop (List Char)
  | '.' :: cs =>
    match cs.dropWhile Char.isDigit with
    | 'e' :: ds => if cs.head?.any Char.isDigit then skipExponent ds else .error (.next .invalidNumber cs)
    | 'E' :: ds => if cs.head?.any Char.isDigit then skipExponent ds else .error (.next .invalidNumber cs)
    | ds => if cs.head?.any Char.isDigit then .ok ds else .error (.next .invalidNumber cs)
  | 'e' :: cs => skipExponent cs
  | 'E' :: cs => skipExponent cs
  | cs => .ok cs

/-- Passes over a number behind its minus sign. -/
def skipNumber : List Char → Except Stop (List Char)
  | [] => .error ⟨.invalidNumber, 0⟩
  | '0' :: cs =>
    if cs.head?.any Char.isDigit then .error (.next .invalidNumber cs) else skipFraction cs
  | c :: cs =>
    if c.isDigit then skipFraction (cs.dropWhile Char.isDigit) else .error (.next .invalidNumber (c :: cs))

/-- Passes over a value that holds no other values. -/
def skipScalar : List Char → Except Stop (List Char)
  | [] => .error ⟨.endInValue, 0⟩
  | c :: cs =>
    if c = 'n' then skipWord ['u', 'l', 'l'] cs
    else if c = 't' then skipWord ['r', 'u', 'e'] cs
    else if c = 'f' then skipWord ['a', 'l', 's', 'e'] cs
    else if c = '-' then skipNumber cs
    else if c.isDigit then skipNumber (c :: cs)
    else if c = '"' then skipString cs
    else .error (.next .expectedValue (c :: cs))

/-! ## What is left is never longer -/

theorem length_dropWhile_le (p : Char → Bool) (cs : List Char) :
    (cs.dropWhile p).length ≤ cs.length :=
  (List.dropWhile_sublist p).length_le

theorem length_dropBlank_le (cs : List Char) : (dropBlank cs).length ≤ cs.length :=
  length_dropWhile_le isBlank cs

theorem length_skipWord {ws cs rest : List Char} (h : skipWord ws cs = .ok rest) :
    rest.length ≤ cs.length := by
  fun_induction skipWord ws cs <;> grind

theorem length_push {c : Char} {r : Except Stop (List Char × List Char)} {s rest : List Char}
    (h : push c r = .ok (s, rest)) : ∃ t, r = .ok (t, rest) := by
  unfold push at h
  split at h <;> simp_all

theorem length_readString {cs s rest : List Char} (h : readString cs = .ok (s, rest)) :
    rest.length < cs.length := by
  fun_induction readString cs generalizing s rest <;> (try simp only [List.length_cons]) <;>
    grind [length_push]

theorem length_skipString {cs rest : List Char} (h : skipString cs = .ok rest) :
    rest.length < cs.length := by
  fun_induction skipString cs <;> (try simp only [List.length_cons]) <;> grind

theorem length_skipExponent {cs rest : List Char} (h : skipExponent cs = .ok rest) :
    rest.length ≤ cs.length := by
  have := length_dropWhile_le Char.isDigit
  unfold skipExponent at h
  grind

theorem length_skipFraction {cs rest : List Char} (h : skipFraction cs = .ok rest) :
    rest.length ≤ cs.length := by
  have h₁ := length_dropWhile_le Char.isDigit
  have h₂ := @length_skipExponent
  unfold skipFraction at h
  split at h
  · next ds =>
    have h₃ := h₁ ds
    grind
  all_goals grind

theorem length_skipNumber {cs rest : List Char} (h : skipNumber cs = .ok rest) :
    rest.length < cs.length := by
  have h₁ := length_dropWhile_le Char.isDigit
  have h₂ := @length_skipFraction
  unfold skipNumber at h
  grind

theorem length_skipScalar {cs rest : List Char} (h : skipScalar cs = .ok rest) :
    rest.length < cs.length := by
  have h₁ := @length_skipWord
  have h₂ := @length_skipNumber
  have h₃ := @length_skipString
  unfold skipScalar at h
  grind

end StartupConfig.Json
