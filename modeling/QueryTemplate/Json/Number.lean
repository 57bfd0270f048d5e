import QueryTemplate.Json
import QueryTemplate.Number.Decimal

/-! # Numbers in JSON documents

An integer that fits 64 bits is exact. Any other number keeps the leading digits that fit 64 bits and
is scaled from there by powers of ten as floating-point numbers, so that its last digit may be off.
-/

namespace QueryTemplate

namespace Binary64

def times (x : Binary64) (num den : Nat) : Binary64 :=
  match x with
  | .finite negative m e => nearest negative ((ratio m e).1 * num) ((ratio m e).2 * den)
  | x => x

def isZero : Binary64 → Bool
  | .finite _ m _ => m == 0
  | _ => false

end Binary64

namespace Json

/-- The greatest power of ten that is a floating-point number is `10 ^ maxPower`. -/
def maxPower : Nat := 308

/-- A power of ten, itself rounded, as a quotient of natural numbers. -/
def powerOfTen (k : Nat) : Nat × Nat :=
  match Decimal.toBinary64 ⟨false, 1, k⟩ with
  | .finite _ m e => Binary64.ratio m e
  | _ => (0, 1)

/-- A number times `10 ^ k`, or `none` if that is beyond the range. -/
def scaleUp (x : Binary64) (k : Nat) : Option Binary64 :=
  if x.isZero then some x
  else if maxPower < k then none
  else
    let scaled := x.times (powerOfTen k).1 (powerOfTen k).2
    if scaled.isInfinite then none else some scaled

/-- A number divided by `10 ^ k`, in steps of at most `10 ^ maxPower`. -/
def scaleDown (x : Binary64) (k : Nat) : Binary64 :=
  if maxPower < k then
    if x.isZero then x
    else scaleDown (x.times (powerOfTen maxPower).2 (powerOfTen maxPower).1) (k - maxPower)
  else x.times (powerOfTen k).2 (powerOfTen k).1
termination_by k
decreasing_by unfold maxPower; omega

/-- Appends digits to a natural number as long as it fits 64 bits. -/
def absorb (n : Nat) : List Char → Nat × List Char
  | [] => (n, [])
  | d :: ds =>
    if 10 * n + digitValue d ≤ maxUInt64 then absorb (10 * n + digitValue d) ds else (n, d :: ds)

/-- An exponent that does not fit 32 bits is beyond every range. -/
def maxExponent : Nat := 2147483647

def realOfDigits (negative : Bool) (whole fraction : List Char) (exponent : Int) : Option Json := do
  let (significand, left) := absorb 0 whole
  let (significand, ignored) := absorb significand fraction
  let k := left.length - (fraction.length - ignored.length : Nat) + exponent
  let x := Binary64.ofInt significand
  let scaled ←
    if maxExponent < exponent.natAbs then
      if significand ≠ 0 ∧ 0 < exponent then none else some (.zero false)
    else if 0 ≤ k then scaleUp x k.toNat
    else some (scaleDown x (-k).toNat)
  return .real (if negative then scaled.neg else scaled)

/-- A number without point and exponent. A negative zero is not an integer. -/
def ofDigits (negative : Bool) (whole : List Char) : Option Json :=
  let n := valueOfDigits whole
  if negative then
    if 0 < n ∧ minInt64 ≤ -n then some (.integer (-n)) else realOfDigits true whole [] 0
  else if n ≤ maxUInt64 then some (.integer n)
  else realOfDigits false whole [] 0

end Json

end QueryTemplate
