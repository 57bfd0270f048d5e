import QueryTemplate.Arg
import QueryTemplate.Number.Numeral

/-! # Arguments read as numbers -/

namespace QueryTemplate

namespace Numeral

/-- An integer in range is taken as it is, and every other numeral through the floating-point number
nearest to it. -/
def toInt64 (n : Numeral) : Int64 :=
  if n.isInteger ∧ minInt64 ≤ n.toInt ∧ n.toInt ≤ maxInt64 then Int64.ofInt n.toInt
  else n.toDecimal.toBinary64.toInt64

end Numeral

namespace Arg

/-- A text counts as the numeral that it begins with, a collection as 1 unless it is empty. -/
def toInt64 : Arg → Int64
  | .int n => n
  | .float x => x.toInt64
  | .bool b => if b then 1 else 0
  | .text s => (Numeral.leading? s).elim 0 Numeral.toInt64
  | .list items => if items.isEmpty then 0 else 1
  | .map entries => if entries.isEmpty then 0 else 1
  | .null | .skip => 0

def toBinary64 : Arg → Binary64
  | .float x => x
  | .int n => Binary64.ofInt n.toInt
  | .text s => (Numeral.leading? s).elim (.zero false) fun n => n.toDecimal.toBinary64
  | a => Binary64.ofInt a.toInt64.toInt

end Arg

end QueryTemplate
