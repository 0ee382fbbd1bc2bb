/-
# `Func.Arity` — accepted numbers of arguments
-/
namespace PlainMath

/-- The numbers of arguments that a function accepts: any, or the listed ones. -/
inductive Arity where
  | any
  | counts (accepted : List Int)
  deriving DecidableEq

namespace Arity

/-- Whether any number of arguments is accepted. -/
def isVariable : Arity → Bool
  | .any => true
  | .counts _ => false

/-- Whether this number of arguments is accepted. -/
def accepts : Arity → Int → Bool
  | .any, _ => true
  | .counts accepted, n => accepted.contains n

/-- The accepted numbers in increasing order, each once. -/
def sorted (accepted : List Int) : List Int :=
  accepted.eraseDups.mergeSort fun a b => a ≤ b

/-- The accepted numbers in words. -/
def expected : Arity → String
  | .any => "any number of"
  | .counts accepted => " or ".intercalate ((sorted accepted).map toString)

/-- What is expected, as a phrase. -/
def describe (a : Arity) : String :=
  match a with
  | .any => a.expected ++ " arguments"
  | .counts accepted =>
    if sorted accepted = [1] then "1 argument" else a.expected ++ " arguments"

end Arity

end PlainMath
