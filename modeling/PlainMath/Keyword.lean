/-
# `Keyword` — the reserved words

The table of reserved words and its look-up.  A word that is not reserved is an identifier.
-/
import PlainMath.Kind

namespace PlainMath.Keyword

/-- Every reserved word with its kind. -/
def table : List (String × Kind) :=
  Constant.all.map (fun c => (c.word, .constant c)) ++
    Greek.all.map (fun g => (g.word, .greek g)) ++
    Func.all.map (fun f => (f.word, .func f)) ++
    [("from", .fromWord), ("to", .toWord)]

/-- Every reserved word. -/
def words : List String := table.map Prod.fst

/-- Whether the word is reserved. -/
def isReserved (word : String) : Bool := words.contains word

/-- The kind of a word: its own if it is reserved, else an identifier. -/
def kindOf (word : String) : Kind := (table.lookup word).getD .identifier

end PlainMath.Keyword
