/-
# `Number.Numeral` — numbers as people type them

Blanks around a numeral do not matter.  Its digits may come from any script, and a single
underscore may stand between two of them.
-/
import PlainMath.Number.Decimal
import PlainMath.Text.Blank
import PlainMath.Text.Digit

namespace PlainMath.Numeral

/-- Whether a character is trimmed off a numeral: blanks, but no separator controls. -/
def isTrimmed (c : Char) : Bool := Text.isBlank c && !(28 ≤ c.toNat && c.toNat ≤ 31)

/-- The characters without the blanks around them. -/
def trim (cs : List Char) : List Char :=
  Text.dropTrailing isTrimmed (cs.dropWhile isTrimmed)

/-- The characters of a numeral without its separators, if each stands between two other
characters. -/
def withoutSeparators? (cs : List Char) : Option (List Char) :=
  if cs.head? = some '_' || cs.getLast? = some '_' ||
      (cs.zip (cs.drop 1)).any (fun p => p.1 == '_' && p.2 == '_') then none
  else some (cs.filter (· != '_'))

/-- An ASCII digit for a digit of any script. -/
def westernDigit (c : Char) : Char :=
  match Text.digitValue? c with
  | some v => Char.ofNat ('0'.toNat + v)
  | none => c

/-- The characters without the underscores between two digits; `before` says whether the last
character was a digit. -/
def joined? (before : Bool) : List Char → Option (List Char)
  | [] => some []
  | c :: cs =>
    if c == '_' then
      if before && (cs.head?.map Char.isDigit).getD false then joined? false cs else none
    else (joined? c.isDigit cs).map (c :: ·)

/-- Reads a numeral. -/
def read? (s : String) : Option Binary64 :=
  (joined? false ((trim s.toList).map westernDigit)).bind Binary64.read?

end PlainMath.Numeral
