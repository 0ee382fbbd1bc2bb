/-
# `Value` — values in a file of settings
-/
import PlainMath.Number.Binary64

namespace PlainMath

/-- A value as it is written down, before anything is asked of it. -/
inductive Value where
  | null
  | boolean (b : Bool)
  | integer (i : Int)
  | number (x : Binary64)
  | string (s : String)
  /-- A date or a time; no setting is one, so which one is not kept. -/
  | moment
  | list (items : List Value)
  | table (fields : List (String × Value))
  deriving Inhabited

namespace Value

/-- The field of this name, in a list of fields. -/
def field? (name : String) (fields : List (String × Value)) : Option Value := fields.lookup name

end Value

end PlainMath
