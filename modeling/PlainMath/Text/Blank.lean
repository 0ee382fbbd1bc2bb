/-
# `Text.Blank` — white space

The blank characters of every script, and the removal of blanks at both ends of a text.
-/
namespace PlainMath.Text

/-- White space: the ASCII blanks and separators, the next-line control, the no-break spaces
and the spaces of general punctuation.  Zero-width characters do not count. -/
def isBlank (c : Char) : Bool :=
  let n := c.toNat
  (9 ≤ n && n ≤ 13) || (28 ≤ n && n ≤ 32) || n == 0x85 || n == 0xA0 || n == 0x1680 ||
    (0x2000 ≤ n && n ≤ 0x200A) || n == 0x2028 || n == 0x2029 || n == 0x202F || n == 0x205F ||
    n == 0x3000

/-- The list without its trailing elements that satisfy `p`. -/
def dropTrailing {α : Type} (p : α → Bool) (l : List α) : List α :=
  (l.reverse.dropWhile p).reverse

/-- The characters without the blanks at both ends. -/
def strip (cs : List Char) : List Char :=
  dropTrailing isBlank (cs.dropWhile isBlank)

end PlainMath.Text
