/-!
# Structured data to be written

What the structured formats have in common: texts, integers, truth values, lists, and records whose
members keep their order.
-/
namespace StartupConfig

/-- A value of a structured format. -/
inductive Tree
  | text (value : String)
  | integer (value : Int)
  | flag (value : Bool)
  | list (items : List Tree)
  | record (members : List (String × Tree))

end StartupConfig
