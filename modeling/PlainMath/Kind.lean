/-
# `Kind` — what a token can be

The kinds fall into families: brackets, operators, the keywords that stand for a constant, a
Greek letter or a function, and a few kinds of their own.  Every keyword belongs to exactly
one family, so a statement about "a function" or "a constant" is a statement about one
constructor.
-/
namespace PlainMath

/-- The three kinds of bracket. -/
inductive Bracket where
  | paren
  | square
  | brace
  deriving DecidableEq

/-- The operator signs. -/
inductive Operator where
  | plus
  | minus
  | times
  | over
  | modulo
  | power
  | fraction
  | equals
  deriving DecidableEq

/-- Keywords that stand for themselves and take no arguments. -/
inductive Constant where
  | pi
  | e
  | i
  | gamma
  | phi
  | infinity
  | emptySet
  | and
  | or
  | not
  deriving DecidableEq

/-- Greek letters that are variable names. -/
inductive Greek where
  | alpha
  | beta
  | delta
  | epsilon
  | zeta
  | eta
  | theta
  | kappa
  | lambda
  | mu
  | nu
  | xi
  | omicron
  | rho
  | sigma
  | tau
  | upsilon
  | chi
  | psi
  | omega
  deriving DecidableEq

/-- Keywords that take a list of arguments. -/
inductive Func where
  | pow
  | abs
  | ceil
  | floor
  | mod
  | gcd
  | lcm
  | lt
  | gt
  | leq
  | geq
  | approx
  | neq
  | equiv
  | pm
  | times
  | div
  | cdot
  | ast
  | star
  | circ
  | bullet
  | cap
  | cup
  | sin
  | cos
  | tan
  | csc
  | sec
  | cot
  | sinh
  | cosh
  | tanh
  | log
  | ln
  | exp
  | sqrt
  | partialDiff
  | limit
  | diff
  | integral
  | sum
  | prod
  | vector
  | matrix
  | subset
  | supset
  | subsetEq
  | supsetEq
  | union
  | intersection
  | setDiff
  | elementOf
  | notElementOf
  | implies
  | iff
  | forAll
  | thereIs
  | hat
  | tilde
  | bar
  | vec
  | dot
  | ddot
  | overline
  | underline
  | mathText
  deriving DecidableEq

/-- The kind of a token. -/
inductive Kind where
  /-- A character without a rule of its own. -/
  | text
  | newline
  /-- The end of the input. -/
  | eof
  | opener (b : Bracket)
  | closer (b : Bracket)
  | comma
  | number
  | identifier
  | operator (o : Operator)
  | constant (c : Constant)
  | greek (g : Greek)
  | func (f : Func)
  /-- The word `from`, kept for bounded sums. -/
  | fromWord
  /-- The word `to`, kept for bounded sums. -/
  | toWord
  | dollar
  | doubleDollar
  deriving DecidableEq

namespace Constant

/-- All constants. -/
def all : List Constant :=
  [.pi, .e, .i, .gamma, .phi, .infinity, .emptySet, .and, .or, .not]

/-- The keyword of a constant. -/
def word : Constant → String
  | .pi => "PI"
  | .e => "E"
  | .i => "I"
  | .gamma => "GAMMA"
  | .phi => "PHI"
  | .infinity => "INFINITY"
  | .emptySet => "emptyset"
  | .and => "AND"
  | .or => "OR"
  | .not => "NOT"

/-- The LaTeX of a constant. -/
def latex : Constant → String
  | .pi => "\\pi"
  | .e => "e"
  | .i => "i"
  | .gamma => "\\gamma"
  | .phi => "\\phi"
  | .infinity => "\\infty"
  | .emptySet => "\\emptyset"
  | .and => "\\land"
  | .or => "\\lor"
  | .not => "\\neg"

end Constant

namespace Greek

/-- All Greek letters. -/
def all : List Greek :=
  [.alpha, .beta, .delta, .epsilon, .zeta, .eta, .theta, .kappa, .lambda, .mu, .nu, .xi,
    .omicron, .rho, .sigma, .tau, .upsilon, .chi, .psi, .omega]

/-- The keyword of a Greek letter. -/
def word : Greek → String
  | .alpha => "ALPHA"
  | .beta => "BETA"
  | .delta => "DELTA"
  | .epsilon => "EPSILON"
  | .zeta => "ZETA"
  | .eta => "ETA"
  | .theta => "THETA"
  | .kappa => "KAPPA"
  | .lambda => "LAMBDA"
  | .mu => "MU"
  | .nu => "NU"
  | .xi => "XI"
  | .omicron => "OMICRON"
  | .rho => "RHO"
  | .sigma => "SIGMA"
  | .tau => "TAU"
  | .upsilon => "UPSILON"
  | .chi => "CHI"
  | .psi => "PSI"
  | .omega => "OMEGA"

/-- The LaTeX of a Greek letter. -/
def latex : Greek → String
  | .alpha => "\\alpha"
  | .beta => "\\beta"
  | .delta => "\\delta"
  | .epsilon => "\\epsilon"
  | .zeta => "\\zeta"
  | .eta => "\\eta"
  | .theta => "\\theta"
  | .kappa => "\\kappa"
  | .lambda => "\\lambda"
  | .mu => "\\mu"
  | .nu => "\\nu"
  | .xi => "\\xi"
  | .omicron => "o"
  | .rho => "\\rho"
  | .sigma => "\\sigma"
  | .tau => "\\tau"
  | .upsilon => "\\upsilon"
  | .chi => "\\chi"
  | .psi => "\\psi"
  | .omega => "\\omega"

end Greek

namespace Func

/-- All functions. -/
def all : List Func :=
  [.pow, .abs, .ceil, .floor, .mod, .gcd, .lcm, .lt, .gt, .leq, .geq, .approx, .neq, .equiv,
    .pm, .times, .div, .cdot, .ast, .star, .circ, .bullet, .cap, .cup, .sin, .cos, .tan, .csc,
    .sec, .cot, .sinh, .cosh, .tanh, .log, .ln, .exp, .sqrt, .partialDiff, .limit, .diff,
    .integral, .sum, .prod, .vector, .matrix, .subset, .supset, .subsetEq, .supsetEq, .union,
    .intersection, .setDiff, .elementOf, .notElementOf, .implies, .iff, .forAll, .thereIs,
    .hat, .tilde, .bar, .vec, .dot, .ddot, .overline, .underline, .mathText]

/-- The keyword of a function. -/
def word : Func → String
  | .pow => "pow"
  | .abs => "abs"
  | .ceil => "ceil"
  | .floor => "floor"
  | .mod => "mod"
  | .gcd => "gcd"
  | .lcm => "lcm"
  | .lt => "lt"
  | .gt => "gt"
  | .leq => "leq"
  | .geq => "geq"
  | .approx => "approx"
  | .neq => "neq"
  | .equiv => "equiv"
  | .pm => "pm"
  | .times => "times"
  | .div => "div"
  | .cdot => "cdot"
  | .ast => "ast"
  | .star => "star"
  | .circ => "circ"
  | .bullet => "bullet"
  | .cap => "cap"
  | .cup => "cup"
  | .sin => "sin"
  | .cos => "cos"
  | .tan => "tan"
  | .csc => "csc"
  | .sec => "sec"
  | .cot => "cot"
  | .sinh => "sinh"
  | .cosh => "cosh"
  | .tanh => "tanh"
  | .log => "log"
  | .ln => "ln"
  | .exp => "exp"
  | .sqrt => "sqrt"
  | .partialDiff => "partial"
  | .limit => "limit"
  | .diff => "diff"
  | .integral => "integral"
  | .sum => "sum"
  | .prod => "prod"
  | .vector => "vector"
  | .matrix => "matrix"
  | .subset => "subset"
  | .supset => "supset"
  | .subsetEq => "subseteq"
  | .supsetEq => "supseteq"
  | .union => "union"
  | .intersection => "intersection"
  | .setDiff => "set_diff"
  | .elementOf => "element_of"
  | .notElementOf => "not_element_of"
  | .implies => "implies"
  | .iff => "iff"
  | .forAll => "forall"
  | .thereIs => "exists"
  | .hat => "hat"
  | .tilde => "tilde"
  | .bar => "bar"
  | .vec => "vec"
  | .dot => "dot"
  | .ddot => "ddot"
  | .overline => "overline"
  | .underline => "underline"
  | .mathText => "mathtext"

end Func

namespace Bracket

/-- All kinds of bracket, in the order in which they are examined. -/
def all : List Bracket := [.paren, .square, .brace]

/-- The opening bracket. -/
def openChar : Bracket → Char
  | .paren => '('
  | .square => '['
  | .brace => '\x7b'

/-- The closing bracket. -/
def closeChar : Bracket → Char
  | .paren => ')'
  | .square => ']'
  | .brace => '\x7d'

/-- The word for one such bracket. -/
def noun : Bracket → String
  | .paren => "parenthesis"
  | .square => "bracket"
  | .brace => "brace"

end Bracket

namespace Operator

/-- All operators. -/
def all : List Operator :=
  [.plus, .minus, .times, .over, .modulo, .power, .fraction, .equals]

/-- Whether the operator joins the terms of a sum. -/
def isAdditive : Operator → Bool
  | .plus | .minus => true
  | _ => false

/-- Whether the operator joins the factors of a product. -/
def isMultiplicative : Operator → Bool
  | .times | .over | .modulo | .fraction => true
  | _ => false

end Operator

namespace Kind

/-- All kinds. -/
def all : List Kind :=
  [.text, .newline, .eof] ++ Bracket.all.flatMap (fun b => [.opener b, .closer b]) ++
    [.comma, .number, .identifier] ++ Operator.all.map .operator ++
    Constant.all.map .constant ++ Greek.all.map .greek ++ Func.all.map .func ++
    [.fromWord, .toWord, .dollar, .doubleDollar]

/-- A word in capital letters. -/
def capitals (word : String) : String := String.ofList (word.toList.map Char.toUpper)

/-- The name of a kind in dumps and messages. -/
def name : Kind → String
  | .text => "TEXT"
  | .newline => "NEWLINE"
  | .eof => "EOF"
  | .opener .paren => "LPAREN"
  | .closer .paren => "RPAREN"
  | .opener .square => "LBRACKET"
  | .closer .square => "RBRACKET"
  | .opener .brace => "LBRACE"
  | .closer .brace => "RBRACE"
  | .comma => "COMMA"
  | .number => "NUMBER"
  | .identifier => "IDENTIFIER"
  | .operator .plus => "PLUS"
  | .operator .minus => "MINUS"
  | .operator .times => "MULTIPLY"
  | .operator .over => "DIVIDE"
  | .operator .modulo => "MODULO"
  | .operator .power => "POWER"
  | .operator .fraction => "FRACTION"
  | .operator .equals => "EQUALS"
  | .constant c => capitals c.word
  | .greek g => capitals g.word
  | .func f => capitals f.word
  | .fromWord => "FROM"
  | .toWord => "TO"
  | .dollar => "DOLLAR"
  | .doubleDollar => "DOUBLE_DOLLAR"

/-- The kind of this name. -/
def ofName? (name : String) : Option Kind := all.find? fun k => k.name == name

/-- The LaTeX of a constant; none for any other kind. -/
def constantLatex? : Kind → Option String
  | .constant c => some c.latex
  | _ => none

/-- The LaTeX of a Greek letter; none for any other kind. -/
def greekLatex? : Kind → Option String
  | .greek g => some g.latex
  | _ => none

/-- The function that a kind stands for. -/
def func? : Kind → Option Func
  | .func f => some f
  | _ => none

end Kind

end PlainMath
