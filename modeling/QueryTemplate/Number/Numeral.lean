import QueryTemplate.Number.Decimal
import QueryTemplate.Text.Blank

/-! # Numerals at the start of a text -/

namespace QueryTemplate

structure Numeral.Exponent where
  letter : Char
  sign : Option Char
  digits : List Char
  deriving DecidableEq, Repr

/-- A numeral as it is written. The fraction is there when there is a point, and may be empty. -/
structure Numeral where
  sign : Option Char
  whole : List Char
  fraction : Option (List Char)
  exponent : Option Numeral.Exponent
  deriving DecidableEq, Repr

namespace Numeral

def isSign (c : Char) : Bool := c == '+' || c == '-'

def readSign : List Char → Option Char × List Char
  | [] => (none, [])
  | c :: cs => if isSign c then (some c, cs) else (none, c :: cs)

def readFraction : List Char → Option (List Char) × List Char
  | '.' :: cs => let (ds, rest) := splitDigits cs; (some ds, rest)
  | cs => (none, cs)

/-- Splits off an exponent. A letter without digits after it belongs to the rest. -/
def readExponent : List Char → Option Exponent × List Char
  | [] => (none, [])
  | c :: cs =>
    if c == 'e' || c == 'E' then
      let (sign, afterSign) := readSign cs
      let (ds, rest) := splitDigits afterSign
      if ds.isEmpty then (none, c :: cs) else (some ⟨c, sign, ds⟩, rest)
    else (none, c :: cs)

/-- The longest numeral at the start of a text, and the rest of the text. -/
def read? (cs : List Char) : Option (Numeral × List Char) :=
  let (sign, cs) := readSign cs
  let (whole, cs) := splitDigits cs
  let (fraction, cs) := readFraction cs
  if whole.isEmpty && (fraction.getD []).isEmpty then none
  else
    let (exponent, cs) := readExponent cs
    some (⟨sign, whole, fraction, exponent⟩, cs)

def ofText? (cs : List Char) : Option Numeral :=
  match read? cs with
  | some (numeral, []) => some numeral
  | _ => none

def Exponent.text (e : Exponent) : List Char := e.letter :: (e.sign.toList ++ e.digits)

def Exponent.value (e : Exponent) : Int :=
  if e.sign = some '-' then -valueOfDigits e.digits else valueOfDigits e.digits

def text (n : Numeral) : List Char :=
  n.sign.toList ++ n.whole ++ (n.fraction.elim [] ('.' :: ·)) ++ (n.exponent.elim [] Exponent.text)

def isInteger (n : Numeral) : Bool := n.fraction.isNone && n.exponent.isNone

def negative (n : Numeral) : Bool := n.sign == some '-'

def toInt (n : Numeral) : Int :=
  if n.negative then -valueOfDigits n.whole else valueOfDigits n.whole

def toDecimal (n : Numeral) : Decimal where
  negative := n.negative
  coefficient := valueOfDigits (n.whole ++ n.fraction.getD [])
  exponent := n.exponent.elim 0 Exponent.value - (n.fraction.getD []).length

def leading? (s : String) : Option Numeral := (read? (trimLeft s.toList)).map (·.1)

/-- The longest prefix of a text, without its leading blanks, that is a numeral; empty if none is. -/
def leadingText (s : String) : String :=
  (leading? s).elim "" fun n => String.ofList n.text

theorem readSign_append (cs : List Char) : (readSign cs).1.toList ++ (readSign cs).2 = cs := by
  cases cs with
  | nil => rfl
  | cons c cs => by_cases h : isSign c <;> simp [readSign, h]

end Numeral

end QueryTemplate
