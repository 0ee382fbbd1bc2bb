/-
# `Token.Balance` — opening and closing brackets

Every closing bracket needs an opening one of its own kind before it, and every opening one
has to be closed.  The three kinds are counted each for itself: they need not nest with one
another.
-/
import PlainMath.Fault

namespace PlainMath

/-- The brackets that are open, for each kind the latest first. -/
structure Openers where
  paren : List Token := []
  square : List Token := []
  brace : List Token := []
  deriving DecidableEq

namespace Openers

/-- The open brackets of one kind. -/
def get (o : Openers) : Bracket → List Token
  | .paren => o.paren
  | .square => o.square
  | .brace => o.brace

/-- Replaces the open brackets of one kind. -/
def set (o : Openers) (ts : List Token) : Bracket → Openers
  | .paren => { o with paren := ts }
  | .square => { o with square := ts }
  | .brace => { o with brace := ts }

theorem get_set (o : Openers) (ts : List Token) (b c : Bracket) :
    (o.set ts b).get c = if c = b then ts else o.get c := by
  cases b <;> cases c <;> rfl

/-- The first kind with an open bracket, and its earliest one. -/
def unclosed? (o : Openers) : Option Fault :=
  Bracket.all.findSome? fun b => (o.get b).getLast?.map (Fault.unclosed b)

end Openers

namespace Token

/-- The first imbalance of the tokens after which the brackets `o` were open. -/
def imbalanceFrom (o : Openers) : List Token → Option Fault
  | [] => o.unclosed?
  | t :: rest =>
    match t.kind with
    | .opener b => imbalanceFrom (o.set (t :: o.get b) b) rest
    | .closer b =>
      match o.get b with
      | [] => some (.unmatched b t)
      | _ :: below => imbalanceFrom (o.set below b) rest
    | _ => imbalanceFrom o rest

/-- The first imbalance of brackets: a closing one without an opening one, or else, of the
first kind that has some, the earliest one never closed. -/
def imbalance? (ts : List Token) : Option Fault := imbalanceFrom {} ts

end Token

end PlainMath
