/-
# `Text.Run` — runs of characters

Both readers, that of a source and that of prose, go on over characters of one class as long as
they can.
-/
namespace PlainMath.Text

/-- The length of the run of characters at the front that satisfy `p`. -/
def run (p : Char → Bool) (cs : List Char) : Nat := (cs.takeWhile p).length

/-- The length of a run at the front that is not empty. -/
def run? (p : Char → Bool) (cs : List Char) : Option Nat :=
  if run p cs = 0 then none else some (run p cs)

end PlainMath.Text
