import StartupConfig.Text.Verbatim

/-!
# Quoted texts

A text between quotation marks on one line: characters that are not shown as themselves are written as
escapes, short ones where there are short ones, and by their number in braces otherwise.
-/
namespace StartupConfig.Quoted

/-- A character within the quotation marks. -/
def escape (c : Char) : List Char :=
  if Verbatim.contains c then [c]
  else if c = '\x00' then ['\\', '0']
  else if c = '\t' then ['\\', 't']
  else if c = '\n' then ['\\', 'n']
  else if c = '\r' then ['\\', 'r']
  else if c = '"' then ['\\', '"']
  else if c = '\\' then ['\\', '\\']
  else ['\\', 'u', '{'] ++ Nat.toDigits 16 c.toNat ++ ['}']

/-- A text between quotation marks. -/
def quote (text : List Char) : List Char := '"' :: text.flatMap escape ++ ['"']

/-- The quoted form of a string. -/
def render (text : String) : String := String.ofList (quote text.toList)

end StartupConfig.Quoted
