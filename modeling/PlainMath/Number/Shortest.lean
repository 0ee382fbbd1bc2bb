/-
# `Number.Shortest` — the fewest digits that read back

For one, two, ... seventeen digits, the two decimals of that length around a magnitude are
tried, the nearer one first, and the first that reads back as the same magnitude is taken.
The exact decimal value stands behind as the last resort, so that the text of a number always
reads back to it.
-/
import PlainMath.Number.Decimal

namespace PlainMath

namespace Decimal

/-- The exponent of the leading decimal digit of `num / den`, for positive `num` and `den`. -/
def leadingExponent (num den : Nat) : Int :=
  if den ≤ num then (digitCount (num / den) : Int) - 1
  else -(digitCount ((den + num - 1) / num - 1) : Int)

/-- The two decimals of at most `count` digits around the magnitude of this rank, the nearer
one first and, when both are as near, the even one first. -/
def neighbours (rank count : Nat) : List Decimal :=
  let num := Binary64.numerator rank
  let den := Binary64.denominator rank
  let unit := leadingExponent num den - count + 1
  let n := Binary64.scaleUp 10 num (-unit)
  let d := Binary64.scaleUp 10 den unit
  let lower : Decimal := ⟨n / d, unit⟩
  let upper : Decimal := ⟨n / d + 1, unit⟩
  if Binary64.roundHalfEven n d = n / d then [lower, upper] else [upper, lower]

/-- The exact decimal value of the magnitude of this rank. -/
def exact (rank : Nat) : Decimal :=
  let k := (-Binary64.unitExponent rank).toNat
  ⟨Binary64.numerator rank * Nat.pow 5 k, -k⟩

/-- The shortest decimal that reads back as the magnitude of this rank. -/
def shortest (rank : Nat) : Decimal :=
  ((List.range 17).findSome? fun n =>
    (neighbours rank (n + 1)).find? fun d => d.rank == rank).getD (exact rank)

/-- The significant digits of a positive decimal, without zeros at the end. -/
def significantDigits (d : Decimal) : List Char :=
  ((Nat.toDigits 10 d.digits).reverse.dropWhile (· == '0')).reverse

/-- Digits with the point after the first `point` of them, filled up with zeros. -/
def positional (ds : List Char) (point : Int) : List Char :=
  if point ≤ 0 then '0' :: '.' :: List.replicate (-point).toNat '0' ++ ds
  else
    let k := point.toNat
    if ds.length ≤ k then ds ++ List.replicate (k - ds.length) '0' ++ ['.', '0']
    else ds.take k ++ '.' :: ds.drop k

/-- Digits with the point after the first one, and the exponent with a sign and at least two
digits. -/
def scientific (ds : List Char) (exponent : Int) : List Char :=
  let e := Nat.toDigits 10 exponent.natAbs
  let body :=
    match ds with
    | [] => []
    | d :: [] => [d]
    | d :: rest => d :: '.' :: rest
  body ++ 'e' :: (if exponent < 0 then '-' else '+') ::
    (List.replicate (2 - e.length) '0' ++ e)

/-- The text of a positive decimal: positional when the leading digit stands between the
fourth place after the point and the sixteenth before it, else scientific. -/
def text (d : Decimal) : List Char :=
  let ds := significantDigits d
  let point := ((Nat.toDigits 10 d.digits).length : Int) + d.exponent
  if -4 ≤ point - 1 && point - 1 < 16 then positional ds point else scientific ds (point - 1)

end Decimal

namespace Binary64

/-- The text of a magnitude. -/
def magnitudeText (rank : Nat) : List Char :=
  if rank = 0 then ['0', '.', '0'] else (Decimal.shortest rank).text

/-- The text of a number. -/
def text : Binary64 → String
  | .finite negative rank =>
    String.ofList (if negative then '-' :: magnitudeText rank.val else magnitudeText rank.val)
  | .infinite false => "inf"
  | .infinite true => "-inf"
  | .nan => "nan"

end Binary64

end PlainMath
