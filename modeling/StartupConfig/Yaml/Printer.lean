import StartupConfig.Tree
import StartupConfig.Yaml.Scalar

/-!
# Writing YAML

Every member and item stands on a line of its own. A record inside a record is moved in by two spaces, a
list inside a record stands at the margin of its record, and a record in a list begins behind the dash.
Member names are plain words.
-/
namespace StartupConfig.Yaml

mutual

/-- The value of a member at a margin, from the colon to the end of its last line. -/
def writeValue (indent : Nat) : Tree → List Char
  | .text value => ' ' :: Scalar.writeLine (indent + 2) value.toList
  | .integer value => ' ' :: Decimal.render value ++ ['\n']
  | .flag value => (if value then " true\n" else " false\n").toList
  | .list [] => [' ', '[', ']', '\n']
  | .list (t :: ts) =>
    '\n' :: writeItem (Scalar.margin indent ++ ['-', ' ']) (indent + 2) t ++ writeItems indent ts
  | .record [] => [' ', '{', '}', '\n']
  | .record ((name, t) :: ms) =>
    '\n' :: Scalar.margin (indent + 2) ++ name.toList ++ ':' :: writeValue (indent + 2) t
      ++ writeMembers (indent + 2) ms

/-- An item behind its dash; what follows on later lines stands at the given margin. -/
def writeItem (lead : List Char) (indent : Nat) : Tree → List Char
  | .text value => lead ++ Scalar.writeLine indent value.toList
  | .integer value => lead ++ Decimal.render value ++ ['\n']
  | .flag value => lead ++ (if value then "true\n" else "false\n").toList
  | .list [] => lead ++ ['[', ']', '\n']
  | .list (t :: ts) => writeItem (lead ++ ['-', ' ']) (indent + 2) t ++ writeItems indent ts
  | .record [] => lead ++ ['{', '}', '\n']
  | .record ((name, t) :: ms) =>
    lead ++ name.toList ++ ':' :: writeValue indent t ++ writeMembers indent ms

/-- Members at a margin. -/
def writeMembers (indent : Nat) : List (String × Tree) → List Char
  | [] => []
  | (name, t) :: ms =>
    Scalar.margin indent ++ name.toList ++ ':' :: writeValue indent t ++ writeMembers indent ms

/-- Items at a margin. -/
def writeItems (indent : Nat) : List Tree → List Char
  | [] => []
  | t :: ts => writeItem (Scalar.margin indent ++ ['-', ' ']) (indent + 2) t ++ writeItems indent ts

end

/-- A tree as a document. -/
def render (t : Tree) : List Char := writeItem [] 0 t

end StartupConfig.Yaml
