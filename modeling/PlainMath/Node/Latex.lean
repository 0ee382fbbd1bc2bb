/-
# `Node.Latex` — the LaTeX of a tree

Rendering goes node by node; a node whose operator, constant, letter or function has no
LaTeX is an error, and of several the first one met from the root, and from left to right,
is reported.
-/
import PlainMath.Func.Form
import PlainMath.Mode
import PlainMath.Node

namespace PlainMath

/-- Why a tree has no LaTeX. -/
inductive RenderError where
  | noOperator (op : Kind)
  | noFunction (function : Kind)
  /-- No template of the function takes so many arguments. -/
  | noShape (f : Func) (count : Nat)
  | unknownSort (sort : String)
  | noConstant (kind : Kind)
  | noLetter (kind : Kind)
  | noSign (op : Kind)
  deriving DecidableEq

namespace RenderError

/-- The message of an error; a failed look-up in a table of symbols has none. -/
def message? : RenderError → Option String
  | .noOperator op => some ("No template for binary operator " ++ op.name)
  | .noFunction function => some ("No template for function " ++ function.name)
  | .noShape f count =>
    some ("No template for " ++ (Kind.func f).name ++ " with " ++ toString count ++ " arguments")
  | .unknownSort sort => some ("Unknown node type: " ++ sort)
  | .noConstant _ | .noLetter _ | .noSign _ => none

end RenderError

namespace Func

/-- The LaTeX of a call, given that of its arguments. -/
def latex (f : Func) (args : List String) : Except RenderError String :=
  match f.latex? args with
  | some s => .ok s
  | none => .error (.noShape f args.length)

end Func

namespace Node

/-- A text in braces. -/
def braces (s : String) : String := "\x7b" ++ s ++ "\x7d"

/-- Two texts with a sign between them. -/
def spaced (sign left right : String) : String := left ++ " " ++ sign ++ " " ++ right

/-- How an operator puts its two operands together. -/
def join? : Kind → Option (String → String → String)
  | .operator .fraction => some fun left right => "\\frac" ++ braces left ++ braces right
  | .operator .power => some fun left right => left ++ "^" ++ braces right
  | .operator .plus => some (spaced "+")
  | .operator .minus => some (spaced "-")
  | .operator .times => some (spaced "*")
  | .operator .over => some (spaced "/")
  | .operator .modulo => some (spaced "\\bmod")
  | _ => none

/-- The sign of an operator that is written before its operand. -/
def sign? : Kind → Option String
  | .operator .minus => some "-"
  | .operator .plus => some "+"
  | _ => none

/-- Whether the node stands in a document as it is, without the delimiters of the mode. -/
def isVerbatim : Node → Bool
  | .text _ | .inlineMath _ | .displayMath _ => true
  | _ => false

/-- Puts the parts of a document together, where `wrapped` says that the part before was put
between delimiters.  Two such parts are kept apart by a line end, because the delimiters
between them would read as another delimiter. -/
def assemble (mode : Mode) (wrapped : Bool) : List (Bool × String) → String
  | [] => ""
  | (true, s) :: rest => s ++ assemble mode false rest
  | (false, s) :: rest =>
    (if wrapped && mode != .plain then "\n" else "") ++ mode.wrap s ++ assemble mode true rest

mutual

/-- The LaTeX of a tree; the mode matters to documents only. -/
def latex (mode : Mode) : Node → Except RenderError String
  | .document nodes => do
    let parts ← latexAll mode nodes
    return assemble mode false ((nodes.map isVerbatim).zip parts)
  | .number value => .ok (numberText value)
  | .constant kind =>
    match kind.constantLatex? with
    | some s => .ok s
    | none => .error (.noConstant kind)
  | .identifier name none => .ok name
  | .identifier _ (some kind) =>
    match kind.greekLatex? with
    | some s => .ok s
    | none => .error (.noLetter kind)
  | .binary op left right =>
    match join? op with
    | some join => do
      let l ← left.latex mode
      let r ← right.latex mode
      return join l r
    | none => .error (.noOperator op)
  | .unary op operand =>
    match sign? op with
    | some sign => do
      let s ← operand.latex mode
      return sign ++ s
    | none => .error (.noSign op)
  | .call function _ args =>
    match function.func? with
    | some f => do
      let parts ← latexAll mode args
      f.latex parts
    | none => .error (.noFunction function)
  | .grouping inner => do
    let s ← inner.latex mode
    return "(" ++ s ++ ")"
  | .text raw => .ok raw
  | .inlineMath inner => do
    let s ← inner.latex mode
    return Mode.inline.wrap s
  | .displayMath inner => do
    let s ← inner.latex mode
    return Mode.display.wrap s
  | .unknown sort => .error (.unknownSort sort)

/-- The LaTeX of trees side by side. -/
def latexAll (mode : Mode) : List Node → Except RenderError (List String)
  | [] => .ok []
  | n :: rest => do
    let s ← n.latex mode
    let parts ← latexAll mode rest
    return s :: parts

end

end Node

end PlainMath
