/-
# `Issue` — what is wrong with a field of a record
-/
namespace PlainMath

/-- A field that was refused: its name, the code of the rule it breaks, and the message. -/
structure Issue where
  field : String
  code : String
  message : String
  deriving DecidableEq

namespace Issue

/-- A required field that was not given. -/
def missing (field : String) : Issue := ⟨field, "missing", "Field required"⟩

/-- A number below the least accepted one. -/
def belowOne (field : String) : Issue :=
  ⟨field, "greater_than_equal", "Input should be greater than or equal to 1"⟩

/-- A value that is no text. -/
def noText (field : String) : Issue := ⟨field, "string_type", "Input should be a valid string"⟩

/-- The issue of a field that was refused. -/
def ofResult {α : Type} : Except Issue α → List Issue
  | .ok _ => []
  | .error i => [i]

end Issue

end PlainMath
