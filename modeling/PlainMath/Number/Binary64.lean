/-
# `Number.Binary64` — double-precision numbers, exactly

The finite magnitudes of the double-precision format, in increasing order, are numbered from
zero; the number of a magnitude is its *rank*.  Below `2 ^ 52` the rank counts units of
`2 ^ -1074`; from there on every block of `2 ^ 52` ranks doubles the unit.  A finite number is
a sign and a rank, so equality of numbers is equality of data, and rounding a quotient to the
nearest magnitude is a computation with natural numbers alone.
-/
namespace PlainMath

/-- How many finite magnitudes there are; the first rank that stands for no finite number. -/
def finiteRanks : Nat := 2047 * Nat.pow 2 52

/-- A double-precision number: a signed finite magnitude, an infinity, or no number. -/
inductive Binary64 where
  | finite (negative : Bool) (rank : Fin finiteRanks)
  | infinite (negative : Bool)
  | nan
  deriving DecidableEq

namespace Binary64

/-- The factor of the unit in the magnitude of this rank. -/
def significand (rank : Nat) : Nat :=
  if rank < Nat.pow 2 52 then rank else Nat.pow 2 52 + rank % Nat.pow 2 52

/-- The binary exponent of the unit in the magnitude of this rank. -/
def unitExponent (rank : Nat) : Int :=
  if rank < Nat.pow 2 52 then -1074 else (rank / Nat.pow 2 52 : Nat) - 1075

/-- The multiple of `n` by `base ^ e`, or `n` itself when `e` is negative. -/
def scaleUp (base n : Nat) (e : Int) : Nat := n * Nat.pow base e.toNat

/-- The numerator of the magnitude of this rank. -/
def numerator (rank : Nat) : Nat := scaleUp 2 (significand rank) (unitExponent rank)

/-- The denominator of the magnitude of this rank. -/
def denominator (rank : Nat) : Nat := scaleUp 2 1 (-unitExponent rank)

/-- The quotient rounded to the nearest integer, a half to the even one. -/
def roundHalfEven (num den : Nat) : Nat :=
  let q := num / den
  let r := num % den
  if 2 * r < den || (2 * r == den && q % 2 == 0) then q else q + 1

/-- The greatest `k` with `2 ^ k ≤ num / den`, for positive `num` and `den`. -/
def floorLog2 (num den : Nat) : Int :=
  let k : Int := (Nat.log2 num : Int) - Nat.log2 den
  if scaleUp 2 den k ≤ scaleUp 2 num (-k) then k else k - 1

/-- The rank of the magnitude nearest to `num / den`, a tie going to the even significand.  A
quotient beyond all finite magnitudes has a rank of `finiteRanks` or more. -/
def rankOfRatio (num den : Nat) : Nat :=
  if num = 0 then 0
  else
    let e := max (floorLog2 num den - 52) (-1074)
    (e + 1074).toNat * Nat.pow 2 52 + roundHalfEven (scaleUp 2 num (-e)) (scaleUp 2 den e)

/-- The number of this sign and rank; an infinity when the rank is beyond the finite ones. -/
def ofRank (negative : Bool) (rank : Nat) : Binary64 :=
  if h : rank < finiteRanks then .finite negative ⟨rank, h⟩ else .infinite negative

/-- The number nearest to a quotient of natural numbers. -/
def ofRatio (num den : Nat) : Binary64 := ofRank false (rankOfRatio num den)

/-- The number nearest to an integer. -/
def ofInt (i : Int) : Binary64 := ofRank (i < 0) (rankOfRatio i.natAbs 1)

/-- The place of a number in the order of all numbers; the two zeros share one place, and what
is no number has none. -/
def place? : Binary64 → Option Int
  | .finite false rank => some rank.val
  | .finite true rank => some (-rank.val)
  | .infinite false => some finiteRanks
  | .infinite true => some (-finiteRanks)
  | .nan => none

/-- Whether the first number is at most the second; never true of what is no number. -/
def atMost (x y : Binary64) : Bool :=
  match x.place?, y.place? with
  | some a, some b => a ≤ b
  | _, _ => false

/-- Whether the first number is below the second; never true of what is no number. -/
def below (x y : Binary64) : Bool :=
  match x.place?, y.place? with
  | some a, some b => a < b
  | _, _ => false

/-- The positive zero. -/
def zero : Binary64 := .finite false ⟨0, by decide⟩

/-- The number one. -/
def one : Binary64 := ofRank false (1023 * Nat.pow 2 52)

/-- The finite number that is an integer, as that integer. -/
def toInt? : Binary64 → Option Int
  | .finite negative rank =>
    let num := numerator rank.val
    let den := denominator rank.val
    if num % den = 0 then
      some (if negative then -((num / den : Nat) : Int) else ((num / den : Nat) : Int))
    else none
  | _ => none

end Binary64

end PlainMath
