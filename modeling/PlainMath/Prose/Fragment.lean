/-
# `Prose.Fragment` — pieces of mathematics in prose

A fragment is one of five shapes, tried in this order at each place of a line:

* a function and its arguments in parentheses, up to the first closing one;
* a constant or a Greek letter that stands as a word by itself;
* two numerals with `+`, `-`, `*`, `/` or `^` between them;
* two words with two backslashes between them;
* two words with `^` between them.

Blanks may stand around the signs and before the parenthesis.  A line is cut from left to
right: the earliest fragment is taken first, and the search goes on behind it.
-/
import PlainMath.Keyword
import PlainMath.Text.Blank
import PlainMath.Text.Digit
import PlainMath.Text.Run
import PlainMath.Text.Word

namespace PlainMath.Prose

open Text (run run?)

/-- The words that begin a call. -/
def functionWords : List String := Func.all.map Func.word

/-- The constants that read as ordinary words in prose. -/
def isProseWord : Constant → Bool
  | .and | .or | .not => true
  | _ => false

/-- The words that are fragments by themselves. -/
def constantWords : List String :=
  (Constant.all.filter fun c => !isProseWord c).map Constant.word ++ Greek.all.map Greek.word

/-- The length of a call at the front. -/
def callLength? (cs : List Char) : Option Nat :=
  let word := cs.takeWhile Text.isWordChar
  if functionWords.contains (String.ofList word) then
    let blanks := run Text.isBlank (cs.drop word.length)
    match cs.drop (word.length + blanks) with
    | '(' :: r =>
      let inner := run (· != ')') r
      if inner < r.length then some (word.length + blanks + inner + 2) else none
    | _ => none
  else none

/-- The length of a constant or a letter at the front. -/
def constantLength? (cs : List Char) : Option Nat :=
  let word := cs.takeWhile Text.isWordChar
  if constantWords.contains (String.ofList word) then some word.length else none

/-- The length at the front of two runs of `p` with a sign between them, where `sign` gives the
length of the sign. -/
def joinedLength? (p : Char → Bool) (sign : List Char → Option Nat) (cs : List Char) :
    Option Nat := do
  let first ← run? p cs
  let blanks := run Text.isBlank (cs.drop first)
  let width ← sign (cs.drop (first + blanks))
  let more := run Text.isBlank (cs.drop (first + blanks + width))
  let second ← run? p (cs.drop (first + blanks + width + more))
  return first + blanks + width + more + second

/-- A sign of arithmetic. -/
def arithmeticSign : List Char → Option Nat
  | c :: _ => if ['+', '-', '*', '/', '^'].contains c then some 1 else none
  | [] => none

/-- Two backslashes. -/
def fractionSign : List Char → Option Nat
  | '\\' :: '\\' :: _ => some 2
  | _ => none

/-- The sign of a power. -/
def powerSign : List Char → Option Nat
  | '^' :: _ => some 1
  | _ => none

/-- The length of the fragment at the front, where `before` is the character before it.  Calls
and constants begin only where a word begins. -/
def fragmentLength? (before : Option Char) (cs : List Char) : Option Nat :=
  let wordBegins := !before.any Text.isWordChar
  (if wordBegins then callLength? cs else none) <|>
    (if wordBegins then constantLength? cs else none) <|>
    joinedLength? Text.isDecimalDigit arithmeticSign cs <|>
    joinedLength? Text.isWordChar fractionSign cs <|>
    joinedLength? Text.isWordChar powerSign cs

/-- A character of prose, or a fragment. -/
inductive Segment where
  | prose (c : Char)
  | fragment (chars : List Char)
  deriving DecidableEq

/-- The segments of a line after its first `skip` characters, which belong to a fragment
already taken; `before` is the character before the line. -/
def cut (before : Option Char) : Nat → List Char → List Segment
  | _, [] => []
  | skip + 1, c :: cs => cut (some c) skip cs
  | 0, c :: cs =>
    match fragmentLength? before (c :: cs) with
    | some (n + 1) => .fragment (c :: cs.take n) :: cut (some c) n cs
    | _ => .prose c :: cut (some c) 0 cs

/-- The segments of a line. -/
def segments (cs : List Char) : List Segment := cut none 0 cs

/-- The fragments of a text. -/
def fragments (s : String) : List String :=
  (segments s.toList).filterMap fun
    | .prose _ => none
    | .fragment cs => some (String.ofList cs)

end PlainMath.Prose
