import StartupConfig.Diagnostic
import StartupConfig.Json.Printer
import StartupConfig.Text.Quoted

/-!
# Lines of diagnostics

A diagnostic is written with the time, as a line for people, which may be coloured, or as a JSON record on
one line.
-/
namespace StartupConfig

/-- How diagnostics are written. -/
structure LineStyle where
  isJson : Bool
  isColored : Bool
  showsTarget : Bool
  deriving DecidableEq, Repr

namespace Diagnostic

/-- A text in a terminal style given by its number. -/
def painted (isColored : Bool) (style : Nat) (text : List Char) : List Char :=
  if isColored then
    ['\x1b', '['] ++ Nat.toDigits 10 style ++ 'm' :: text ++ ['\x1b', '[', '0', 'm']
  else text

/-- The terminal styles of secondary text and of names. -/
def dimmed : Nat := 2

/-- The terminal style of names. -/
def italic : Nat := 3

/-- The terminal style of a level. -/
def levelStyle : Level → Nat
  | .error => 31
  | .warn => 33
  | .info => 32
  | .debug => 34
  | .trace => 35

/-- A detail for people. -/
def shownDetail : Detail → List Char
  | .quoted text => Quoted.quote text.toList
  | .shown text => text.toList
  | .count n => Decimal.renderNat n

/-- The line for people. -/
def humanLine (s : LineStyle) (time : List Char) (d : Diagnostic) : List Char :=
  let level := d.level.name.toList
  let paint := painted s.isColored
  paint dimmed time ++ ' ' :: paint (levelStyle d.level) (List.replicate (5 - level.length) ' ' ++ level)
    ++ [' ']
    ++ (if s.showsTarget then paint dimmed d.target.toList ++ paint dimmed [':'] ++ [' '] else [])
    ++ d.message.toList
    ++ d.details.flatMap (fun x =>
      ' ' :: paint italic x.1.toList ++ paint dimmed ['='] ++ shownDetail x.2)
    ++ ['\n']

/-- A detail as a tree. -/
def detailTree : Detail → Tree
  | .quoted text => .text text
  | .shown text => .text text
  | .count n => .integer n

/-- A diagnostic as a tree. -/
def tree (s : LineStyle) (time : List Char) (d : Diagnostic) : Tree :=
  .record ([("timestamp", .text (String.ofList time)), ("level", .text d.level.name),
    ("fields", .record (("message", .text d.message) :: d.details.map fun x => (x.1, detailTree x.2)))]
    ++ if s.showsTarget then [("target", .text d.target)] else [])

/-- The line of a diagnostic. -/
def line (s : LineStyle) (time : List Char) (d : Diagnostic) : List Char :=
  if s.isJson then Json.renderLine (d.tree s time) ++ ['\n'] else d.humanLine s time

end Diagnostic

end StartupConfig
