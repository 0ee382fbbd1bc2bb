/-
# `Token` — a lexical unit with its place in the source
-/
import PlainMath.Kind
import PlainMath.Number.Shortest

namespace PlainMath

/-- A place in the source.  Lines and columns of a source are counted from one; a position
that comes from elsewhere may be any pair of integers. -/
structure Position where
  line : Int
  column : Int
  deriving DecidableEq

namespace Position

/-- The first position of a source. -/
def start : Position := ⟨1, 1⟩

/-- The first position of the next line. -/
def nextLine (p : Position) : Position := ⟨p.line + 1, 1⟩

/-- The position `n` columns further on. -/
def advance (p : Position) (n : Nat) : Position := ⟨p.line, p.column + n⟩

end Position

/-- A lexical unit: its kind, the characters it was written with, where it starts, and the
value of a numeral. -/
structure Token where
  kind : Kind
  text : String
  position : Position
  literal : Option Binary64 := none
  deriving DecidableEq

namespace Token

/-- The token as error messages name it. -/
def describe (t : Token) : String :=
  match t.kind with
  | .eof => "end of input"
  | .newline => "end of line"
  | _ => "'" ++ t.text ++ "'"

/-- The token as a line of a dump. -/
def dumpLine (t : Token) : String :=
  let value :=
    match t.literal with
    | some x => " (" ++ x.text ++ ")"
    | none => ""
  t.kind.name ++ " '" ++ t.text ++ "'" ++ value ++ " at " ++ toString t.position.line ++ ":" ++
    toString t.position.column

end Token

end PlainMath
