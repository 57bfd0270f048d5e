import QueryTemplate.Number.Binary64

/-! # Decimal numbers and the floating-point numbers nearest to them -/

namespace QueryTemplate

structure Decimal where
  negative : Bool
  coefficient : Nat
  exponent : Int
  deriving DecidableEq, Repr

/-- The decimal digits of a natural number, without leading zeros but at least one. -/
def digits (n : Nat) : List Char := Nat.toDigits 10 n

def integerText (n : Int) : List Char := if n < 0 then '-' :: digits n.natAbs else digits n.natAbs

def digitValue (c : Char) : Nat := c.toNat - '0'.toNat

def valueOfDigits (ds : List Char) : Nat := ds.foldl (fun n d => 10 * n + digitValue d) 0

def splitDigits (cs : List Char) : List Char × List Char :=
  (cs.takeWhile Char.isDigit, cs.dropWhile Char.isDigit)

/-- The digits that are split off are all that is taken from a text. -/
theorem splitDigits_append (cs : List Char) : (splitDigits cs).1 ++ (splitDigits cs).2 = cs :=
  List.takeWhile_append_dropWhile

namespace Decimal

/-- The position before the first digit, a bound on the magnitude as a power of ten. -/
def magnitude (d : Decimal) : Int := (digits d.coefficient).length + d.exponent

def ratio (d : Decimal) : Nat × Nat :=
  (d.coefficient * tenPow d.exponent.toNat, tenPow (-d.exponent).toNat)

/-- Powers of ten beyond `10 ^ limit` are not worked out: a number above it is beyond every
floating-point number, and one below its inverse is nearest to zero. -/
def limit : Int := 400

def toBinary64 (d : Decimal) : Binary64 :=
  if d.coefficient = 0 ∨ d.magnitude < -limit then .zero d.negative
  else if limit < d.magnitude then .infinite d.negative
  else Binary64.nearest d.negative d.ratio.1 d.ratio.2

/-- The nearest number of single precision, held in double precision. -/
def toSingle (d : Decimal) : Binary64 :=
  if d.coefficient = 0 ∨ d.magnitude < -limit then .zero d.negative
  else if limit < d.magnitude then .infinite d.negative
  else match Format.single.round d.ratio.1 d.ratio.2 with
    | some (m, e) => Binary64.nearest d.negative (Binary64.ratio m e).1 (Binary64.ratio m e).2
    | none => .infinite d.negative

end Decimal

end QueryTemplate
