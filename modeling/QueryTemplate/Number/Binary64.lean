import QueryTemplate.Number.Bounds

/-! # Binary floating-point numbers, exactly

A finite number is held as a significand and a power of two, and every operation rounds an exact
quotient of natural numbers once, to the nearest representable number and to the even one of two that
are equally near.
-/

namespace QueryTemplate

/-- The numbers `m * 2 ^ e` with `m < 2 ^ precision` and `least ≤ e ≤ greatest`. -/
structure Format where
  precision : Nat
  least : Int
  greatest : Int

namespace Format

def double : Format := ⟨53, -1074, 971⟩

def single : Format := ⟨24, -149, 104⟩

end Format

/-- `num / den` rounded to the nearest natural number, a half going to the even neighbour. -/
def roundHalfEven (num den : Nat) : Nat :=
  let quotient := num / den
  let twice := 2 * (num % den)
  if twice < den ∨ (twice = den ∧ quotient % 2 = 0) then quotient else quotient + 1

def overPowerOfTwo (num den : Nat) (e : Int) : Nat × Nat :=
  (num * twoPow (-e).toNat, den * twoPow e.toNat)

/-- The exponent of the greatest power of two that is at most `num / den`. -/
def floorLog2 (num den : Nat) : Int :=
  let e : Int := num.log2 - den.log2
  let (n, d) := overPowerOfTwo num den e
  if d ≤ n then e else e - 1

/-- The significand and exponent of the number nearest to `num / den`, or `none` if that lies beyond
the greatest number. -/
def Format.round (format : Format) (num den : Nat) : Option (Nat × Int) :=
  let e := max format.least (floorLog2 num den - (format.precision - 1 : Nat))
  let (n, d) := overPowerOfTwo num den e
  let m := roundHalfEven n d
  let (m, e) := if m = twoPow format.precision then (twoPow (format.precision - 1), e + 1) else (m, e)
  if e ≤ format.greatest then some (m, e) else none

inductive Binary64
  | nan
  | infinite (negative : Bool)
  | finite (negative : Bool) (significand : Nat) (exponent : Int)
  deriving Repr, Inhabited

namespace Binary64

def zero (negative : Bool) : Binary64 := .finite negative 0 Format.double.least

def nearest (negative : Bool) (num den : Nat) : Binary64 :=
  if num = 0 then zero negative
  else match Format.double.round num den with
    | some (m, e) => .finite negative m e
    | none => .infinite negative

def ofInt (n : Int) : Binary64 := nearest (n < 0) n.natAbs 1

def ratio (significand : Nat) (exponent : Int) : Nat × Nat :=
  overPowerOfTwo significand 1 (-exponent)

def neg : Binary64 → Binary64
  | .nan => .nan
  | .infinite s => .infinite !s
  | .finite s m e => .finite (!s) m e

def isFinite : Binary64 → Bool
  | .finite .. => true
  | _ => false

def isInfinite : Binary64 → Bool
  | .infinite _ => true
  | _ => false

/-- Numerical equality: a NaN differs from everything and the two zeros are equal. -/
def eq : Binary64 → Binary64 → Bool
  | .infinite s, .infinite s' => s == s'
  | .finite s m e, .finite s' m' e' =>
    let (n, d) := ratio m e
    let (n', d') := ratio m' e'
    n * d' == n' * d && (s == s' || n == 0)
  | _, _ => false

instance : BEq Binary64 := ⟨eq⟩

end Binary64

/-- The fraction is cut off, what lies beyond the range becomes its nearest end, and a NaN becomes
zero. -/
def Binary64.toInt64 : Binary64 → Int64
  | .nan => 0
  | .infinite true => Int64.minValue
  | .infinite false => Int64.maxValue
  | .finite negative m e =>
    let (n, d) := ratio m e
    saturate (if negative then -(n / d : Nat) else (n / d : Nat))

end QueryTemplate
