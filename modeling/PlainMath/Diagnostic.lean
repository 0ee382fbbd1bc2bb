/-
# `Diagnostic` — an error with its message and its place

A diagnostic says what went wrong and where.  Its category carries what only that category
records: the unexpected text, or the arguments expected and given.
-/
import PlainMath.Issue
import PlainMath.Token

namespace PlainMath

/-- The categories of diagnostics. -/
inductive Category where
  | general
  | delimiter
  | unexpectedToken (text : String)
  | missingDelimiter
  | arity (function expected : String) (actual : Int)
  deriving DecidableEq

namespace Category

/-- The name of a category. -/
def name : Category → String
  | .general => "TranslationError"
  | .delimiter => "DelimiterError"
  | .unexpectedToken _ => "UnexpectedTokenError"
  | .missingDelimiter => "MissingDelimiterError"
  | .arity .. => "ArityError"

/-- The category when nothing but its sort is known. -/
def ofName? : String → Option Category
  | "TranslationError" => some .general
  | "DelimiterError" => some .delimiter
  | "UnexpectedTokenError" => some (.unexpectedToken "")
  | "MissingDelimiterError" => some .missingDelimiter
  | "ArityError" => some (.arity "" "" 0)
  | _ => none

/-- The category of a diagnostic that is placed on a token. -/
def onToken (c : Category) (t : Token) : Category :=
  match c with
  | .unexpectedToken _ => .unexpectedToken t.text
  | c => c

end Category

/-- An error with its message and its place.  The source line is added by whoever has the
source. -/
structure Diagnostic where
  category : Category
  message : String
  position : Position
  sourceLine : Option String := none
  suggestion : Option String := none
  deriving DecidableEq

namespace Diagnostic

/-- The diagnostic in one line. -/
def text (d : Diagnostic) : String :=
  d.message ++ " (line " ++ toString d.position.line ++ ", column " ++
    toString d.position.column ++ ")"

/-- A diagnostic placed on a token. -/
def onToken (category : Category) (t : Token) (message : String)
    (suggestion : Option String := none) : Diagnostic :=
  ⟨category.onToken t, message, t.position, none, suggestion⟩

/-- A detail that a diagnostic may record. -/
inductive Detail where
  | sourceLine (line : Option String)
  | suggestion (hint : Option String)
  | text (text : String)
  | function (name : String)
  | expected (counts : String)
  | actual (count : Int)
  deriving DecidableEq

/-- Records a detail; none if the category of the diagnostic has no place for it. -/
def record? (d : Diagnostic) : Detail → Option Diagnostic
  | .sourceLine line => some { d with sourceLine := line }
  | .suggestion hint => some { d with suggestion := hint }
  | .text text =>
    match d.category with
    | .unexpectedToken _ => some { d with category := .unexpectedToken text }
    | _ => none
  | .function name =>
    match d.category with
    | .arity _ e a => some { d with category := .arity name e a }
    | _ => none
  | .expected counts =>
    match d.category with
    | .arity f _ a => some { d with category := .arity f counts a }
    | _ => none
  | .actual count =>
    match d.category with
    | .arity f e _ => some { d with category := .arity f e count }
    | _ => none

end Diagnostic

end PlainMath
