/-
# `Func.Template` — how a call is typeset

A template is a list of pieces.  Control words and brackets are pieces of their own and not
part of a text, so that what a template opens, closes and names can be read off it without
looking into strings.
-/
import PlainMath.Kind

namespace PlainMath

/-- A piece of a template. -/
inductive Piece where
  /-- Characters that are neither brackets nor part of a control word. -/
  | text (s : String)
  /-- A backslash and the letters of a control word. -/
  | control (name : String)
  | opening (b : Bracket)
  | closing (b : Bracket)
  /-- The argument with this index. -/
  | arg (i : Nat)
  deriving DecidableEq

/-- What a call with a fixed number of arguments is made of. -/
abbrev Template := List Piece

namespace Piece

/-- The text of a piece, given the texts of the arguments. -/
def fill (args : List String) : Piece → String
  | .text s => s
  | .control name => "\\" ++ name
  | .opening b => String.singleton b.openChar
  | .closing b => String.singleton b.closeChar
  | .arg i => args.getD i ""

end Piece

namespace Template

/-- The text of a template, given the texts of the arguments. -/
def fill (t : Template) (args : List String) : String := String.join (t.map (Piece.fill args))

/-- A template between brackets. -/
def enclosed (b : Bracket) (t : Template) : Template := .opening b :: t ++ [.closing b]

/-- A sign between two arguments. -/
def between (sign : Piece) : Template := [.arg 0, .text " ", sign, .text " ", .arg 1]

/-- A control word and one argument in parentheses. -/
def applied (name : String) : Template := .control name :: enclosed .paren [.arg 0]

/-- A control word and one argument in braces. -/
def braced (name : String) : Template := .control name :: enclosed .brace [.arg 0]

end Template

end PlainMath
