/-
# `Fault` — what can be wrong with a list of tokens

A fault names the cause and the tokens it concerns; the wording, and the token that is blamed,
are in one place, `Fault.diagnostic`.
-/
import PlainMath.Diagnostic
import PlainMath.Func.Form

namespace PlainMath

/-- What was expected where a delimiter is missing. -/
inductive Expectation where
  /-- The parenthesis that closes a group. -/
  | groupEnd
  /-- The parenthesis that closes the arguments of the function of this name. -/
  | argumentsEnd (function : String)
  | inlineEnd
  | displayEnd
  /-- Whatever the message says. -/
  | stated (message : String)
  deriving DecidableEq

namespace Expectation

/-- The expectation in words. -/
def message : Expectation → String
  | .groupEnd => "Expected ')' after expression"
  | .argumentsEnd function => "Expected ')' after arguments of '" ++ function ++ "'"
  | .inlineEnd => "Expected closing '$' for inline math"
  | .displayEnd => "Expected closing '$$' for display math"
  | .stated message => message

end Expectation

/-- What can be wrong with a list of tokens. -/
inductive Fault where
  /-- A closing bracket without an opening one. -/
  | unmatched (b : Bracket) (closer : Token)
  /-- An opening bracket that is never closed. -/
  | unclosed (b : Bracket) (opener : Token)
  /-- A token where an expression has to start. -/
  | unexpected (found : Token)
  /-- A function that is not followed by a parenthesis. -/
  | noArguments (function : Token)
  /-- Another token where a delimiter is due. -/
  | missing (what : Expectation) (found : Token)
  /-- A function with a number of arguments that it does not accept. -/
  | arity (function : Token) (accepted : Arity) (count : Int)
  deriving DecidableEq

namespace Fault

/-- A text between single quotes. -/
def inQuotes (s : String) : String := "'" ++ s ++ "'"

/-- The token that is blamed. -/
def token : Fault → Token
  | .unmatched _ t | .unclosed _ t | .unexpected t | .noArguments t | .missing _ t
  | .arity t _ _ => t

/-- The diagnostic of a fault. -/
def diagnostic : Fault → Diagnostic
  | .unmatched b t =>
    .onToken .delimiter t
      ("Unmatched closing " ++ b.noun ++ " " ++ inQuotes (String.singleton b.closeChar))
  | .unclosed b t =>
    .onToken .delimiter t
      ("Unclosed " ++ b.noun ++ " " ++ inQuotes (String.singleton b.openChar) ++
        " - missing closing " ++ inQuotes (String.singleton b.closeChar))
      (some ("Add a closing " ++ inQuotes (String.singleton b.closeChar)))
  | .unexpected t =>
    match t.kind with
    | .eof | .newline =>
      .onToken (.unexpectedToken "") t ("Unexpected " ++ t.describe ++ ", expected an expression")
        (some "Complete the expression after the last operator")
    | .fromWord | .toWord =>
      .onToken (.unexpectedToken "") t ("Unexpected token " ++ t.describe)
        (some "Write bounded sums as sum(i, lower, upper, body)")
    | _ => .onToken (.unexpectedToken "") t ("Unexpected token " ++ t.describe)
  | .noArguments t =>
    .onToken .missingDelimiter t ("Expected '(' after function name " ++ inQuotes t.text)
      (some ("Write " ++ t.text ++ "(...)"))
  | .missing what t =>
    .onToken .missingDelimiter t (what.message ++ ", found " ++ t.describe)
  | .arity t accepted count =>
    .onToken (.arity t.text accepted.expected count) t
      ("Function " ++ inQuotes t.text ++ " expects " ++ accepted.describe ++ ", but got " ++
        toString count)

end Fault

namespace Token

/-- What is wrong with a call of this token with so many arguments. -/
def arityFault? (t : Token) (count : Int) : Option Fault :=
  match t.kind with
  | .func f => if f.arity.accepts count then none else some (.arity t f.arity count)
  | _ => none

end Token

end PlainMath
