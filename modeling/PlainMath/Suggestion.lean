/-
# `Suggestion` — keywords that a mistyped word may stand for

A few words have a fixed correction.  Other words are compared with every keyword, regardless
of case, and the keywords that score high enough are proposed, the closest first.
-/
import PlainMath.Keyword
import PlainMath.Number.Shortest
import PlainMath.Similarity
import PlainMath.Text.LowerCase

namespace PlainMath.Suggestion

/-- Words with a fixed correction. -/
def corrections : List (String × String) :=
  [("sine", "sin"), ("cosine", "cos"), ("tangent", "tan"), ("logarithm", "log"),
    ("square", "sqrt"), ("squareroot", "sqrt"), ("root", "sqrt"), ("absolute", "abs"),
    ("power", "pow"), ("exponential", "exp"), ("pi", "PI"), ("euler", "E"),
    ("infinity", "INFINITY"), ("inf", "INFINITY"), ("integrate", "integral"),
    ("derivative", "diff"), ("lim", "limit")]

/-- The fixed correction of a word, in whatever case it is written. -/
def correction? (name : String) : Option String := corrections.lookup (Text.lower name)

/-- A keyword with its score against a word. -/
structure Candidate where
  keyword : String
  folded : String
  score : Binary64

/-- Whether the first candidate comes before the second or may stand with it: by score, then
by spelling, both from the greatest down. -/
def Candidate.precedes (x y : Candidate) : Bool :=
  y.score.below x.score || (x.score == y.score && y.folded ≤ x.folded)

/-- Every keyword with its score against a word in lower case. -/
def candidates (folded : List Char) : List Candidate :=
  Keyword.words.map fun k =>
    ⟨k, Text.lower k, Similarity.score (Text.lower k).toList folded⟩

/-- The at most five keywords that score at least `cutoff`, the closest first. -/
def closest (name : String) (cutoff : Binary64) : List String :=
  let all := candidates (Text.lower name).toList
  let close := all.filter fun c => cutoff.atMost c.score
  ((close.mergeSort Candidate.precedes).take 5).map Candidate.keyword

/-- Whether a cutoff lies between zero and one. -/
def isCutoff (cutoff : Binary64) : Bool := Binary64.zero.atMost cutoff && cutoff.atMost .one

/-- A cutoff that does not lie between zero and one. -/
structure CutoffError where
  cutoff : Binary64
  deriving DecidableEq

/-- The message about a bad cutoff. -/
def CutoffError.message (e : CutoffError) : String :=
  "cutoff must be in [0.0, 1.0]: " ++ e.cutoff.text

/-- The cutoff of suggestions. -/
def usualCutoff : Binary64 := Decimal.toBinary64 false ⟨6, -1⟩

/-- The cutoff of hints at a misspelling. -/
def strictCutoff : Binary64 := Decimal.toBinary64 false ⟨8, -1⟩

/-- The keywords proposed for a word, the closest first: the fixed correction, and then,
unless the word is a keyword itself, the close ones. -/
def similar (name : String) (cutoff : Binary64) : Except CutoffError (List String) :=
  let fixed := (correction? name).toList
  if Keyword.isReserved name then .ok fixed
  else if isCutoff cutoff then
    .ok (fixed ++ (closest name cutoff).filter fun k => !fixed.contains k)
  else .error ⟨cutoff⟩

/-- The first three proposals as a question. -/
def question? (proposals : List String) : Option String :=
  if proposals.isEmpty then none
  else
    some
      ("Did you mean " ++ ", ".intercalate ((proposals.take 3).map fun p => "'" ++ p ++ "'") ++ "?")

/-- The question for a word. -/
def suggestion? (name : String) : Option String :=
  match similar name usualCutoff with
  | .ok proposals => question? proposals
  | .error _ => none

/-- The shortest word that can be a misspelling without a fixed correction; shorter ones are
taken for names of functions. -/
def leastMisspelling : Nat := 3

/-- The question for a word that is used like a function, when it looks like a misspelling. -/
def hint? (name : String) : Option String :=
  match correction? name with
  | some fixed => question? [fixed]
  | none =>
    if name.length < leastMisspelling || Keyword.isReserved name then none
    else question? (closest name strictCutoff)

end PlainMath.Suggestion
