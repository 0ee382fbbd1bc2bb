/-
# `Number.Decimal` — decimal numerals and the numbers they stand for

A decimal is a natural number of units `10 ^ exponent`.  Reading rounds it to the nearest
double-precision number.  Exponents of any size are accepted: a decimal that is certainly
beyond the finite numbers, or certainly nearer to zero than to the least one, is decided
without computing a power of ten.
-/
import PlainMath.Number.Binary64

namespace PlainMath

/-- The value `digits · 10 ^ exponent`. -/
structure Decimal where
  digits : Nat
  exponent : Int
  deriving DecidableEq

namespace Decimal

/-- How many decimal digits a natural number has; zero has none. -/
def digitCount (n : Nat) : Nat := if n = 0 then 0 else (Nat.toDigits 10 n).length

/-- The rank of the double-precision magnitude nearest to the decimal. -/
def rank (d : Decimal) : Nat :=
  let size := (digitCount d.digits : Int) + d.exponent
  if d.digits = 0 || size < -330 then 0
  else if 310 < size then finiteRanks
  else
    Binary64.rankOfRatio (Binary64.scaleUp 10 d.digits d.exponent)
      (Binary64.scaleUp 10 1 (-d.exponent))

/-- The double-precision number nearest to the decimal. -/
def toBinary64 (negative : Bool) (d : Decimal) : Binary64 := Binary64.ofRank negative d.rank

/-- The value of a run of ASCII digits. -/
def digitsValue (cs : List Char) : Nat :=
  cs.foldl (fun n c => 10 * n + (c.toNat - '0'.toNat)) 0

/-- The decimal with these digits before and after the point. -/
def ofParts (whole fraction : List Char) (exponent : Int) : Decimal :=
  ⟨digitsValue (whole ++ fraction), exponent - fraction.length⟩

/-- Splits a leading sign off; `true` is a minus. -/
def splitSign : List Char → Bool × List Char
  | '-' :: rest => (true, rest)
  | '+' :: rest => (false, rest)
  | cs => (false, cs)

/-- Reads an exponent: a sign if any, and at least one digit up to the end. -/
def readExponent? (cs : List Char) : Option Int :=
  let (negative, ds) := splitSign cs
  if !ds.isEmpty && ds.all Char.isDigit then
    some (if negative then -(digitsValue ds : Int) else digitsValue ds)
  else none

/-- Reads digits with a point and an exponent, each optional, as long as there is a digit
before the exponent. -/
def read? (cs : List Char) : Option Decimal :=
  let whole := cs.takeWhile Char.isDigit
  let afterWhole := cs.dropWhile Char.isDigit
  let (fraction, rest) :=
    match afterWhole with
    | '.' :: r => (r.takeWhile Char.isDigit, r.dropWhile Char.isDigit)
    | r => ([], r)
  if whole.isEmpty && fraction.isEmpty then none
  else
    match rest with
    | [] => some (ofParts whole fraction 0)
    | mark :: r =>
      if mark == 'e' || mark == 'E' then (readExponent? r).map (ofParts whole fraction)
      else none

end Decimal

namespace Binary64

/-- Reads a signed numeral, or the words for infinity and for no number in any case. -/
def read? (cs : List Char) : Option Binary64 :=
  let (negative, body) := Decimal.splitSign cs
  let word := String.ofList (body.map Char.toLower)
  if word == "inf" || word == "infinity" then some (.infinite negative)
  else if word == "nan" then some .nan
  else (Decimal.read? body).map (Decimal.toBinary64 negative)

end Binary64

end PlainMath
