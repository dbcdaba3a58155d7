import StartupConfig.Loading
import StartupConfig.Format
import StartupConfig.Text.Quoted

/-!
# Showing a report

For people, one line for each resolution: the field in a column as wide as the longest, the value, and on
request where it came from. The structured formats write the record alone, or on request the whole report.
-/
namespace StartupConfig

/-- A record as a tree. -/
def Record.tree (r : Record) : Tree :=
  .record [("pytorch_init_container_template_file", .text r.templateFile),
    ("pytorch_init_container_image", .text r.initImage),
    ("mpi_kubectl_delivery_image", .text r.deliveryImage),
    ("pytorch_init_container_max_tries", .integer r.maxTries.val)]

/-- A source as a tree. -/
def Source.tree (s : Source) : Tree :=
  .record (("kind", .text s.tag) :: (s.rejected?.map fun raw => ("raw", Tree.text raw)).toList)

namespace Resolution

/-- A resolution as a tree. -/
def tree (r : Resolution) : Tree :=
  .record [("env", .text r.setting.variableName), ("field", .text r.setting.field),
    ("kind", .text r.setting.kind.name), ("value", .text r.value), ("source", r.source.tree)]

/-- The value for people: texts are quoted, integers are not. -/
def shownValue (r : Resolution) : List Char :=
  match r.setting.kind with
  | .string => Quoted.quote r.value.toList
  | .integer => r.value.toList

/-- Where the value came from, in brackets. -/
def shownSource (r : Resolution) : List Char :=
  [' ', ' ', '['] ++ r.source.label.toList ++ [':', ' '] ++ r.setting.variableName.toList
    ++ (match r.source with
      | .rejected raw => " rejected ".toList ++ Quoted.quote raw.toList
      | _ => [])
    ++ [']']

/-- The line of a resolution. -/
def line (width : Nat) (sources : Bool) (r : Resolution) : List Char :=
  padded width r.setting.field.toList ++ [' ', ' '] ++ r.shownValue
    ++ (if sources then r.shownSource else []) ++ ['\n']

end Resolution

namespace Report

/-- A report as a tree. -/
def tree (r : Report) : Tree :=
  .record [("config", r.record.tree), ("settings", .list (r.resolutions.map Resolution.tree))]

/-- The width of the column of fields. -/
def fieldWidth (r : Report) : Nat :=
  (r.resolutions.map fun s => s.setting.field.toList.length).foldl max 0

/-- A report for people. -/
def lines (r : Report) (sources : Bool) : Output :=
  r.resolutions.map fun s => ⟨.plain, s.line r.fieldWidth sources⟩

/-- A report in a format. -/
def output (r : Report) (f : Format) (sources : Bool) : Output :=
  f.output (r.lines sources) (if sources then r.tree else r.record.tree)

end Report

end StartupConfig
