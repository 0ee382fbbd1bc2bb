/-
# `Mode` — how top-level expressions are delimited
-/
import PlainMath.Text.Quoted

namespace PlainMath

/-- The delimiters put around each top-level expression. -/
inductive Mode where
  /-- No delimiters. -/
  | plain
  /-- Single dollar signs. -/
  | inline
  /-- Double dollar signs. -/
  | display
  deriving DecidableEq

namespace Mode

/-- All modes. -/
def all : List Mode := [.plain, .inline, .display]

/-- The name of a mode in settings. -/
def name : Mode → String
  | .plain => "none"
  | .inline => "inline"
  | .display => "display"

/-- The mode of this name. -/
def ofName? (name : String) : Option Mode := all.find? fun m => m.name == name

/-- The message about a name that is no mode. -/
def unknownMessage (name : String) : String := Text.quoted name ++ " is not a valid MathMode"

/-- Puts the delimiters of the mode around a fragment. -/
def wrap (mode : Mode) (latex : String) : String :=
  match mode with
  | .plain => latex
  | .inline => "$" ++ latex ++ "$"
  | .display => "$$" ++ latex ++ "$$"

end Mode

end PlainMath
