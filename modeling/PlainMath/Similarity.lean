/-
# `Similarity` — how alike two words are

Two words are compared by matching blocks: the longest run of characters that both share,
then, in the same way, what lies to its left and what lies to its right.  The score is twice
the number of matched characters over the number of all characters, rounded to a
double-precision number.

In a second word of two hundred characters or more, characters that occur too often do not
make a block by themselves; a block is only extended over them.
-/
import PlainMath.Number.Binary64

namespace PlainMath.Similarity

/-- The length of the run that two lists share at the front, on usable characters. -/
def commonRun (usable : Char → Bool) : List Char → List Char → Nat
  | x :: xs, y :: ys => if x == y && usable y then commonRun usable xs ys + 1 else 0
  | _, _ => 0

/-- A block that two words share: where it starts in each, and its length. -/
structure Block where
  left : Nat
  right : Nat
  size : Nat
  deriving DecidableEq

/-- The best of `best` and the blocks that start with the whole of `a`, at offset `i`, and
somewhere in `b`, which itself is at offset `j`. -/
def bestFrom (usable : Char → Bool) (a : List Char) (i : Nat) : Nat → List Char → Block → Block
  | _, [], best => best
  | j, y :: ys, best =>
    let n := commonRun usable a (y :: ys)
    bestFrom usable a i (j + 1) ys (if best.size < n then ⟨i, j, n⟩ else best)

/-- The best of `best` and the blocks of `a`, which is at offset `i`, and `b`. -/
def bestOf (usable : Char → Bool) (b : List Char) : Nat → List Char → Block → Block
  | _, [], best => best
  | i, x :: xs, best => bestOf usable b (i + 1) xs (bestFrom usable (x :: xs) i 0 b best)

/-- The longest shared block, the earliest in `a` and then in `b` when there are several,
extended over equal characters on both sides. -/
def longest (usable : Char → Bool) (a b : List Char) : Block :=
  let core := bestOf usable b 0 a ⟨0, 0, 0⟩
  let before := commonRun (fun _ => true) (a.take core.left).reverse (b.take core.right).reverse
  let after :=
    commonRun (fun _ => true) (a.drop (core.left + core.size)) (b.drop (core.right + core.size))
  ⟨core.left - before, core.right - before, before + core.size + after⟩

/-- The number of matched characters, in at most `fuel` nested blocks. -/
def matchedWithin (usable : Char → Bool) : Nat → List Char → List Char → Nat
  | 0, _, _ => 0
  | fuel + 1, a, b =>
    let block := longest usable a b
    if block.size = 0 then 0
    else
      block.size + matchedWithin usable fuel (a.take block.left) (b.take block.right) +
        matchedWithin usable fuel (a.drop (block.left + block.size))
          (b.drop (block.right + block.size))

/-- The characters that occur too often in a long word to make a block by themselves. -/
def popular (b : List Char) : List Char :=
  if b.length < 200 then [] else b.eraseDups.filter fun c => b.length / 100 + 1 < b.count c

/-- The number of matched characters.  Every block takes a character of the first word, so
that its length bounds the nesting. -/
def matched (a b : List Char) : Nat :=
  let often := popular b
  matchedWithin (fun c => !often.contains c) a.length a b

/-- The score of two words, from zero to one. -/
def score (a b : List Char) : Binary64 :=
  if a.length + b.length = 0 then .one
  else .ofRatio (2 * matched a b) (a.length + b.length)

end PlainMath.Similarity
