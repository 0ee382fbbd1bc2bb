/-
# `Text.Lines` — a text as a list of lines

A text with `n` line ends has `n + 1` lines, the last of which may be empty.
-/
import PlainMath.Text.Blank

namespace PlainMath.Text

/-- The pieces between occurrences of a character. -/
def splitAt (sep : Char) : List Char → List (List Char)
  | [] => [[]]
  | c :: cs =>
    if c = sep then [] :: splitAt sep cs
    else
      match splitAt sep cs with
      | [] => [[c]]
      | piece :: pieces => (c :: piece) :: pieces

/-- The lines of a text, without their ends. -/
def lines (s : String) : List String := (splitAt '\n' s.toList).map String.ofList

/-- Lines put together to a text. -/
def unlines (ls : List String) : String := "\n".intercalate ls

/-- The line of this number, counted from one, without carriage returns at its end. -/
def line? (s : String) (number : Int) : Option String :=
  if number < 1 then none
  else
    (splitAt '\n' s.toList)[(number - 1).toNat]?.map fun cs =>
      String.ofList (dropTrailing (· == '\r') cs)

/-- The last line of a text that is not followed by empty lines only. -/
def lastLine (s : String) : String :=
  String.ofList ((splitAt '\n' (dropTrailing (· == '\n') s.toList)).getLast?.getD [])

end PlainMath.Text
