/-
# `Text.CharSet` — sets of characters beyond ASCII

A set of characters is stored as the code points at which membership flips, in increasing
order: the first number begins the first run, the second one ends it, and so on.  A
character belongs to the set when an odd number of flips are at or below it.
-/
namespace PlainMath.Text

/-- A set of characters, given by the code points at which membership flips. -/
structure CharSet where
  /-- The flips, in increasing order. -/
  flips : Array Nat

namespace CharSet

/-- How many entries of `flips` are at most `point`, given that the answer lies between `lo`
and `hi`. -/
def rank (flips : Array Nat) (point lo hi : Nat) : Nat :=
  if h : lo < hi then
    let mid := (lo + hi) / 2
    if flips.getD mid 0 ≤ point then rank flips point (mid + 1) hi
    else rank flips point lo mid
  else lo
termination_by hi - lo

/-- Membership: an odd number of flips at or below the character. -/
def contains (s : CharSet) (c : Char) : Bool :=
  rank s.flips c.toNat 0 s.flips.size % 2 == 1

end CharSet

end PlainMath.Text
