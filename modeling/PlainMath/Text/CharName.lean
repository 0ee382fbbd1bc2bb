/-
# `Text.CharName` — the names of characters

Characters are known by their names and by aliases, in letters of either case.  Syllables of
Hangul are named by their parts, and unified ideographs by their code points; these names are
in capital letters.
-/
import PlainMath.Text.CharName.FromAToC
import PlainMath.Text.CharName.FromDToG
import PlainMath.Text.CharName.FromHToL
import PlainMath.Text.CharName.FromMToR
import PlainMath.Text.CharName.FromSToZ
import PlainMath.Text.Lines

namespace PlainMath.Text.CharName

/-! ## Names in the tables -/

/-- The tables. -/
def tables : List (List String) := fromAToC ++ fromDToG ++ fromHToL ++ fromMToR ++ fromSToZ

/-- The entries of a table, behind what is left of the entry before: how many words each takes
over from the name before it, and its other words. -/
def entries : List Char → List Char × List (Nat × List Char)
  | [] => ([], [])
  | c :: cs =>
    let (left, rest) := entries cs
    if c.isLower then ([], (c.toNat - 'a'.toNat, left) :: rest) else (c :: left, rest)

/-- Whether words are a name among the entries, where `before` is the name before them. -/
def isListed (words before : List (List Char)) : List (Nat × List Char) → Bool
  | [] => false
  | (taken, other) :: rest =>
    let name := before.take taken ++ splitAt ' ' other
    name == words || isListed words name rest

/-- Whether this is a name in a table; the names of one table have the same first letter. -/
def isInTable (name : List Char) (table : List String) : Bool :=
  let cs := table.flatMap String.toList
  cs[1]? == name.head? && isListed (splitAt ' ' name) [] (entries cs).2

/-! ## Names by rule -/

/-- The consonants that begin a syllable; there may be none. -/
def leads : List String :=
  ["G", "GG", "N", "D", "DD", "R", "M", "B", "BB", "S", "SS", "", "J", "JJ", "C", "K", "T", "P",
    "H"]

/-- The vowels of a syllable. -/
def vowels : List String :=
  ["A", "AE", "YA", "YAE", "EO", "E", "YEO", "YE", "O", "WA", "WAE", "OE", "YO", "U", "WEO", "WE",
    "WI", "YU", "EU", "YI", "I"]

/-- The consonants that end a syllable; there may be none. -/
def tails : List String :=
  ["", "G", "GG", "GS", "N", "NJ", "NH", "D", "L", "LG", "LM", "LB", "LS", "LT", "LP", "LH", "M",
    "B", "BS", "S", "SS", "NG", "J", "C", "K", "T", "P", "H"]

/-- What follows the longest of the parts, of up to three letters, that the characters begin
with. -/
def afterLongest? (parts : List String) (cs : List Char) : Option (List Char) :=
  [3, 2, 1, 0].findSome? fun n =>
    if n ≤ cs.length && parts.contains (String.ofList (cs.take n)) then some (cs.drop n) else none

/-- Whether these are the parts of a syllable. -/
def isSyllable (cs : List Char) : Bool :=
  ((afterLongest? leads cs).bind (afterLongest? vowels)).bind (afterLongest? tails) == some []

/-- The code points of unified ideographs. -/
def ideographs : List (Nat × Nat) :=
  [(0x3400, 0x4DBF), (0x4E00, 0x9FFF), (0x20000, 0x2A6DF), (0x2A700, 0x2B738),
    (0x2B740, 0x2B81D), (0x2B820, 0x2CEA1), (0x2CEB0, 0x2EBE0), (0x30000, 0x3134A)]

/-- Whether these are the four or five digits, to the base sixteen, of an ideograph. -/
def isIdeograph (cs : List Char) : Bool :=
  let value : Option Nat := cs.foldlM (fun n c =>
    if c.isDigit then some (16 * n + (c.toNat - '0'.toNat))
    else if 'A' ≤ c && c ≤ 'F' then some (16 * n + (c.toNat - 'A'.toNat + 10))
    else none) 0
  (cs.length == 4 || cs.length == 5) &&
    value.any fun n => ideographs.any fun (low, high) => low ≤ n && n ≤ high

/-- What follows the given characters. -/
def after? (start : String) (cs : List Char) : Option (List Char) :=
  if start.toList.isPrefixOf cs then some (cs.drop start.length) else none

/-- Whether a character has this name. -/
def isName (cs : List Char) : Bool :=
  match after? "HANGUL SYLLABLE " cs with
  | some parts => isSyllable parts
  | none =>
    match after? "CJK UNIFIED IDEOGRAPH-" cs with
    | some digits => isIdeograph digits
    | none => tables.any (isInTable (cs.map Char.toUpper))

end PlainMath.Text.CharName
