/-
# `Func.Form` — the functions, their arguments and their LaTeX

One table for both questions: which numbers of arguments a function accepts, and how a call
with that many arguments is typeset.  The accepted numbers are read off the templates, so a
call with an accepted number of arguments always has a template.
-/
import PlainMath.Func.Arity
import PlainMath.Func.Template

namespace PlainMath

/-- How the calls of a function are typeset. -/
inductive Form where
  /-- One template for each accepted number of arguments. -/
  | shapes (templates : List (Nat × Template))
  /-- The arguments as the rows of a named environment. -/
  | environment (name : String)
  deriving DecidableEq

namespace Func

open Template

/-- A large operator: of one argument, or with an index, its bounds and the operand. -/
def bigOperator (name : String) : Form :=
  .shapes
    [(1, [.control name, .text " ", .arg 0]),
      (4, [.control name, .text "_"] ++ enclosed .brace [.arg 0, .text "=", .arg 1] ++
        [.text "^"] ++ enclosed .brace [.arg 2] ++ [.text " ", .arg 3])]

/-- A quantifier: over one argument, or over a variable and a statement. -/
def quantifier (name : String) : Form :=
  .shapes
    [(1, [.control name, .text " ", .arg 0]),
      (2, [.control name, .text " ", .arg 0, .text " \\, ", .arg 1])]

/-- How the calls of each function are typeset. -/
def form : Func → Form
  | .pow => .shapes [(2, [.arg 0, .text "^"] ++ enclosed .brace [.arg 1])]
  | .abs => .shapes [(1, [.text "|", .arg 0, .text "|"])]
  | .ceil => .shapes [(1, [.control "lceil", .text " ", .arg 0, .text " ", .control "rceil"])]
  | .floor => .shapes [(1, [.control "lfloor", .text " ", .arg 0, .text " ", .control "rfloor"])]
  | .mod => .shapes [(2, between (.control "mod"))]
  | .gcd => .shapes [(2, .control "gcd" :: enclosed .paren [.arg 0, .text ", ", .arg 1])]
  | .lcm =>
    .shapes
      [(2, .control "text" :: enclosed .brace [.text "lcm"] ++
        enclosed .paren [.arg 0, .text ", ", .arg 1])]
  | .lt => .shapes [(2, between (.text "<"))]
  | .gt => .shapes [(2, between (.text ">"))]
  | .leq => .shapes [(2, between (.control "leq"))]
  | .geq => .shapes [(2, between (.control "geq"))]
  | .approx => .shapes [(2, between (.control "approx"))]
  | .neq => .shapes [(2, between (.control "neq"))]
  | .equiv => .shapes [(2, between (.control "equiv"))]
  | .pm => .shapes [(2, between (.control "pm"))]
  | .times => .shapes [(2, between (.control "times"))]
  | .div => .shapes [(2, between (.control "div"))]
  | .cdot => .shapes [(2, between (.control "cdot"))]
  | .ast => .shapes [(2, between (.control "ast"))]
  | .star => .shapes [(2, between (.control "star"))]
  | .circ => .shapes [(2, between (.control "circ"))]
  | .bullet => .shapes [(2, between (.control "bullet"))]
  | .cap => .shapes [(2, between (.control "cap"))]
  | .cup => .shapes [(2, between (.control "cup"))]
  | .sin => .shapes [(1, applied "sin")]
  | .cos => .shapes [(1, applied "cos")]
  | .tan => .shapes [(1, applied "tan")]
  | .csc => .shapes [(1, applied "csc")]
  | .sec => .shapes [(1, applied "sec")]
  | .cot => .shapes [(1, applied "cot")]
  | .sinh => .shapes [(1, applied "sinh")]
  | .cosh => .shapes [(1, applied "cosh")]
  | .tanh => .shapes [(1, applied "tanh")]
  | .log =>
    .shapes
      [(1, applied "log"),
        (2, [.control "log", .text "_"] ++ enclosed .brace [.arg 1] ++ enclosed .paren [.arg 0])]
  | .ln => .shapes [(1, applied "ln")]
  | .exp => .shapes [(1, .text "e^" :: enclosed .brace [.arg 0])]
  | .sqrt =>
    .shapes
      [(1, braced "sqrt"),
        (2, .control "sqrt" :: enclosed .square [.arg 0] ++ enclosed .brace [.arg 1])]
  | .partialDiff =>
    .shapes
      [(2, .control "frac" :: enclosed .brace [.control "partial"] ++
        enclosed .brace [.control "partial", .text " ", .arg 1] ++ [.text " ", .arg 0])]
  | .limit =>
    .shapes
      [(3, [.control "lim", .text "_"] ++
        enclosed .brace [.arg 1, .text " ", .control "to", .text " ", .arg 2] ++
        [.text " ", .arg 0])]
  | .diff =>
    .shapes
      [(2, .control "frac" :: enclosed .brace [.text "d"] ++
        enclosed .brace [.text "d", .arg 1] ++ [.text " ", .arg 0])]
  | .integral =>
    .shapes
      [(2, [.control "int", .text " ", .arg 0, .text " \\, d", .arg 1]),
        (4, [.control "int", .text "_"] ++ enclosed .brace [.arg 2] ++ [.text "^"] ++
          enclosed .brace [.arg 3] ++ [.text " ", .arg 0, .text " \\, d", .arg 1])]
  | .sum => bigOperator "sum"
  | .prod => bigOperator "prod"
  | .vector => .environment "pmatrix"
  | .matrix => .environment "matrix"
  | .subset => .shapes [(2, between (.control "subset"))]
  | .supset => .shapes [(2, between (.control "supset"))]
  | .subsetEq => .shapes [(2, between (.control "subseteq"))]
  | .supsetEq => .shapes [(2, between (.control "supseteq"))]
  | .union => .shapes [(2, between (.control "cup"))]
  | .intersection => .shapes [(2, between (.control "cap"))]
  | .setDiff => .shapes [(2, between (.control "setminus"))]
  | .elementOf => .shapes [(2, between (.control "in"))]
  | .notElementOf => .shapes [(2, between (.control "notin"))]
  | .implies => .shapes [(2, between (.control "implies"))]
  | .iff => .shapes [(2, between (.control "iff"))]
  | .forAll => quantifier "forall"
  | .thereIs => quantifier "exists"
  | .hat => .shapes [(1, braced "hat")]
  | .tilde => .shapes [(1, braced "tilde")]
  | .bar => .shapes [(1, braced "bar")]
  | .vec => .shapes [(1, braced "vec")]
  | .dot => .shapes [(1, braced "dot")]
  | .ddot => .shapes [(1, braced "ddot")]
  | .overline => .shapes [(1, braced "overline")]
  | .underline => .shapes [(1, braced "underline")]
  | .mathText => .shapes [(1, braced "text")]

/-- The numbers of arguments that a function accepts. -/
def arity (f : Func) : Arity :=
  match f.form with
  | .shapes templates => .counts (templates.map fun t => (t.1 : Int))
  | .environment _ => .any

/-- The rows of an environment. -/
def environmentLatex (name : String) (rows : List String) : String :=
  "\\begin\x7b" ++ name ++ "\x7d " ++ " \\\\ ".intercalate rows ++ " \\end\x7b" ++ name ++ "\x7d"

/-- The LaTeX of a call, given that of its arguments; none if there is no template for so many
of them. -/
def latex? (f : Func) (args : List String) : Option String :=
  match f.form with
  | .shapes templates => (templates.lookup args.length).map fun t => t.fill args
  | .environment name => some (environmentLatex name args)

end Func

end PlainMath
