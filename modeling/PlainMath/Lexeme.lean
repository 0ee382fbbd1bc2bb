/-
# `Lexeme` — the source cut into pieces

The source is cut from left to right.  At each place the first character, and at most a few
after it, decide the form of the next lexeme, and `reach` says how many characters beyond the
first one it takes.  Comments and runs of blanks are lexemes too, so the lexemes of a source
put together are the source.
-/
import PlainMath.Keyword
import PlainMath.Text.Run
import PlainMath.Token

namespace PlainMath

/-- The forms of lexemes. -/
inductive Lexeme.Form where
  /-- `//` or `#` up to the end of the line. -/
  | comment
  | newline
  /-- A run of spaces, tabs and carriage returns. -/
  | blanks
  /-- Two backslashes. -/
  | fraction
  | doubleDollar
  | dollar
  | number
  | word
  | symbol
  /-- Any other character. -/
  | other
  deriving DecidableEq

/-- A piece of the source: its form and its characters. -/
structure Lexeme where
  form : Lexeme.Form
  chars : List Char
  deriving DecidableEq

namespace Lexeme

open Text (run)

/-- The signs that are tokens by themselves. -/
def symbols : List (Char × Kind) :=
  Bracket.all.flatMap (fun b => [(b.openChar, .opener b), (b.closeChar, .closer b)]) ++
    [(',', .comma), ('+', .operator .plus), ('-', .operator .minus), ('*', .operator .times),
      ('/', .operator .over), ('%', .operator .modulo), ('^', .operator .power),
      ('=', .operator .equals)]

/-- The kind of a sign that is a token by itself. -/
def symbolKind? (c : Char) : Option Kind := symbols.lookup c

/-- A blank within a line. -/
def isGap (c : Char) : Bool := c == ' ' || c == '\t' || c == '\r'

/-- A character that can begin a word. -/
def isWordStart (c : Char) : Bool := c.isAlpha || c == '_'

/-- A character that can continue a word. -/
def isWordPart (c : Char) : Bool := c.isAlphanum || c == '_'

/-- The length of a fractional part at the front: a point and at least one digit. -/
def fractionReach : List Char → Nat
  | '.' :: r => if run Char.isDigit r = 0 then 0 else run Char.isDigit r + 1
  | _ => 0

/-- The length of the digits of an exponent at the front, with a sign if there is one, and zero
if there is no digit. -/
def exponentDigitsReach : List Char → Nat
  | [] => 0
  | s :: r =>
    if s == '+' || s == '-' then
      if run Char.isDigit r = 0 then 0 else run Char.isDigit r + 1
    else run Char.isDigit (s :: r)

/-- The length of an exponent at the front: its mark, a sign if there is one, and at least one
digit. -/
def exponentReach : List Char → Nat
  | [] => 0
  | m :: r =>
    if m == 'e' || m == 'E' then
      if exponentDigitsReach r = 0 then 0 else exponentDigitsReach r + 1
    else 0

/-- How far a numeral goes on after its first digit. -/
def numberReach (cs : List Char) : Nat :=
  let whole := run Char.isDigit cs
  let fraction := fractionReach (cs.drop whole)
  whole + fraction + exponentReach (cs.drop (whole + fraction))

/-- The form of the lexeme that starts with `c`, and how many of the characters `cs` that
follow belong to it. -/
def reach (c : Char) (cs : List Char) : Form × Nat :=
  if c == '#' || (c == '/' && cs.head? == some '/') then (.comment, run (· != '\n') cs)
  else if c == '\n' then (.newline, 0)
  else if isGap c then (.blanks, run isGap cs)
  else if c == '\\' && cs.head? == some '\\' then (.fraction, 1)
  else if c == '$' then if cs.head? == some '$' then (.doubleDollar, 1) else (.dollar, 0)
  else if c.isDigit then (.number, numberReach cs)
  else if isWordStart c then (.word, run isWordPart cs)
  else if (symbolKind? c).isSome then (.symbol, 0)
  else (.other, 0)

/-- Cuts the source after its first `skip` characters, which belong to a lexeme already
taken. -/
def cut : Nat → List Char → List Lexeme
  | _, [] => []
  | skip + 1, _ :: cs => cut skip cs
  | 0, c :: cs =>
    let (form, n) := reach c cs
    ⟨form, c :: cs.take n⟩ :: cut n cs

/-- The lexemes of a source. -/
def ofSource (cs : List Char) : List Lexeme := cut 0 cs

/-- The kind of the token that a lexeme makes; comments and blanks make none. -/
def kind? (l : Lexeme) : Option Kind :=
  match l.form with
  | .comment | .blanks => none
  | .newline => some .newline
  | .fraction => some (.operator .fraction)
  | .doubleDollar => some .doubleDollar
  | .dollar => some .dollar
  | .number => some .number
  | .word => some (Keyword.kindOf (String.ofList l.chars))
  | .symbol => l.chars.head?.bind symbolKind?
  | .other => some .text

/-- The position after a lexeme that starts at `p`. -/
def positionAfter (l : Lexeme) (p : Position) : Position :=
  match l.form with
  | .newline => p.nextLine
  | _ => p.advance l.chars.length

/-- The value of a numeral; no other lexeme has one. -/
def literal? (l : Lexeme) : Option Binary64 :=
  match l.form with
  | .number => (Decimal.read? l.chars).map (Decimal.toBinary64 false)
  | _ => none

end Lexeme

end PlainMath
