import QueryTemplate.Number.Decimal

/-! # The shortest decimal text of a floating-point number

A number is written with the fewest digits that read back as the same number, and with the nearest of
these; of two that are equally near, the greater is taken. The text never has an exponent.
-/

namespace QueryTemplate

namespace Decimal

/-- The digits of a decimal with the point among, before or after them. -/
def positional (d : Decimal) : List Char :=
  let ds := digits d.coefficient
  let places := (-d.exponent).toNat
  let body :=
    if places = 0 then ds ++ List.replicate d.exponent.toNat '0'
    else if places < ds.length then
      ds.take (ds.length - places) ++ '.' :: ds.drop (ds.length - places)
    else '0' :: '.' :: (List.replicate (places - ds.length) '0' ++ ds)
  if d.negative then '-' :: body else body

end Decimal

namespace Binary64

/-- The exponent of the greatest power of ten that is at most `num / den`, for a quotient that is not
below `10 ^ -Decimal.limit`. -/
def floorLog10 (num den : Nat) : Int :=
  (digits (num * tenPow Decimal.limit.toNat / den)).length - 1 - Decimal.limit

/-- The numbers that round to one floating-point number, in quarters of its last place: the number
itself, the ends of the interval, and whether the ends belong to it. -/
structure Rounding where
  low : Nat
  value : Nat
  high : Nat
  closed : Bool

/-- The gap below a power of two is half the gap above it, unless the number is among the least. -/
def rounding (m : Nat) (e : Int) : Rounding where
  low := 4 * m - if m = twoPow (Format.double.precision - 1) ∧ Format.double.least < e then 1 else 2
  value := 4 * m
  high := 4 * m + 2
  closed := m % 2 = 0

/-- The multiple of `10 ^ k` that rounds to `m * 2 ^ e`: one of the two around the number, the nearer
one if both do. -/
def onGrid (m : Nat) (e k : Int) : Option Nat :=
  let r := rounding m e
  -- A quarter of the last place is `num / den` steps of the grid.
  let num := twoPow (e - 2).toNat * tenPow (-k).toNat
  let den := twoPow (2 - e).toNat * tenPow k.toNat
  let below := r.value * num / den
  let above := below + 1
  let belowRounds := r.low * num < below * den || (r.closed && r.low * num == below * den)
  let aboveRounds := above * den < r.high * num || (r.closed && above * den == r.high * num)
  if belowRounds && aboveRounds then
    some (if 2 * r.value * num < (below + above) * den then below else above)
  else if belowRounds then some below
  else if aboveRounds then some above
  else none

/-- The first of `count` grids, from `10 ^ k` downwards, with a multiple that rounds to the number. -/
def firstGrid (m : Nat) (e : Int) : Nat → Int → Nat × Int
  | 0, k => (m * twoPow e.toNat, k)
  | count + 1, k =>
    match onGrid m e k with
    | some c => (c, k)
    | none => firstGrid m e count (k - 1)

/-- Seventeen digits tell every two floating-point numbers apart. -/
def shortest (negative : Bool) (m : Nat) (e : Int) : Decimal :=
  if m = 0 then ⟨negative, 0, 0⟩
  else
    let (num, den) := ratio m e
    let (c, k) := firstGrid m e 18 (floorLog10 num den + 1)
    ⟨negative, c, k⟩

def text : Binary64 → String
  | .nan => "NaN"
  | .infinite true => "-inf"
  | .infinite false => "inf"
  | .finite negative m e => String.ofList (shortest negative m e).positional

end Binary64

end QueryTemplate
