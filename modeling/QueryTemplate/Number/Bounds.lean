/-! # Powers, and the bounds of integers of fixed width -/

namespace QueryTemplate

def twoPow (k : Nat) : Nat := Nat.pow 2 k

def tenPow (k : Nat) : Nat := Nat.pow 10 k

/-- This is `-2 ^ 63`. -/
def minInt64 : Int := -9223372036854775808

/-- This is `2 ^ 63 - 1`. -/
def maxInt64 : Int := 9223372036854775807

/-- This is `2 ^ 64 - 1`. -/
def maxUInt64 : Nat := 18446744073709551615

def saturate (n : Int) : Int64 :=
  if n < minInt64 then Int64.minValue
  else if maxInt64 < n then Int64.maxValue
  else Int64.ofInt n

end QueryTemplate
