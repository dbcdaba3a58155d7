import StartupConfig.Loading
import StartupConfig.Format

/-!
# The listing of recognized variables

One row for each setting, with its documented default and whether its variable is present.
-/
namespace StartupConfig

/-- A row of the listing. -/
structure ListingRow where
  setting : Setting
  default : String
  isSet : Bool
  deriving DecidableEq, Repr

/-- Describes each setting against a lookup. -/
def listing (lookup : Lookup) : List ListingRow :=
  Setting.all.map fun s =>
    ⟨s, Record.documented.text s, (lookup s.variableName).isSome⟩

namespace ListingRow

/-- A row as a tree. -/
def tree (r : ListingRow) : Tree :=
  .record [("name", .text r.setting.variableName), ("field", .text r.setting.field),
    ("kind", .text r.setting.kind.name), ("default", .text r.default), ("set", .flag r.isSet)]

/-- The line of a row. -/
def line (width : Nat) (r : ListingRow) : List Char :=
  padded width r.setting.variableName.toList ++ [' ', ' ']
    ++ padded 7 r.setting.kind.name.toList ++ [' ', ' ']
    ++ padded 5 (if r.isSet then "set" else "unset").toList ++ [' ', ' ']
    ++ "default: ".toList ++ r.default.toList ++ ['\n']

end ListingRow

/-- The listing for people. -/
def listingLines (rows : List ListingRow) : Output :=
  let width := (rows.map fun r => r.setting.variableName.toList.length).foldl max 0
  rows.map fun r => ⟨.plain, r.line width⟩

/-- The listing in a format. -/
def listingOutput (lookup : Lookup) (f : Format) : Output :=
  let rows := listing lookup
  f.output (listingLines rows) (.list (rows.map ListingRow.tree))

end StartupConfig
