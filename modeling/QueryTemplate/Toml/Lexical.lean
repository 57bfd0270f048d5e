import QueryTemplate.Number.Decimal
import QueryTemplate.Text.Reader
import QueryTemplate.Toml

/-! # Words of TOML: blanks, strings, keys, numbers, dates and times -/

namespace QueryTemplate

namespace Toml

/-! ## Blanks and comments -/

def isBlank (c : Char) : Bool := c == ' ' || c == '\t'

def skipBlanks (cs : List Char) : List Char := cs.dropWhile isBlank

def isTextChar (c : Char) : Bool := c == '\t' || (0x20 ≤ c.toNat && c.toNat ≠ 0x7F)

/-- The end of a line: a line feed, perhaps after a carriage return. -/
def readNewline : Reader (List Char)
  | '\n' :: cs => some (['\n'], cs)
  | '\r' :: '\n' :: cs => some (['\r', '\n'], cs)
  | _ => none

def newline? (cs : List Char) : Option (List Char) := (readNewline cs).map (·.2)

def skipComment : List Char → List Char
  | '#' :: cs => cs.dropWhile isTextChar
  | cs => cs

def skipLines (cs : List Char) : List Char :=
  match newline? (skipComment (skipBlanks cs)) with
  | some rest => if rest.length < cs.length then skipLines rest else rest
  | none => skipBlanks cs
termination_by cs.length

def skipBlankLines (cs : List Char) : List Char :=
  match newline? (skipBlanks cs) with
  | some rest => if rest.length < cs.length then skipBlankLines rest else rest
  | none => skipBlanks cs
termination_by cs.length

/-! ## Strings -/

def readCode (digits : Nat) : Reader Char := fun cs =>
  if (cs.take digits).length = digits then do
    let n ← hexNumber? (cs.take digits)
    let c ← charOfNat? n
    return (c, cs.drop digits)
  else none

def readEscape : Reader Char
  | 'b' :: cs => some ('\x08', cs)
  | 't' :: cs => some ('\t', cs)
  | 'n' :: cs => some ('\n', cs)
  | 'f' :: cs => some ('\x0c', cs)
  | 'r' :: cs => some ('\r', cs)
  | 'e' :: cs => some ('\x1b', cs)
  | '"' :: cs => some ('"', cs)
  | '\\' :: cs => some ('\\', cs)
  | 'x' :: cs => readCode 2 cs
  | 'u' :: cs => readCode 4 cs
  | 'U' :: cs => readCode 8 cs
  | _ => none

/-- Only strings in double quotes have escapes. -/
def hasEscapes (quote : Char) : Bool := quote == '"'

def lineBody (quote : Char) (cs : List Char) : Option (List Char × List Char) :=
  match cs with
  | [] => none
  | c :: rest =>
    if c = quote then some ([], rest)
    else if c = '\\' ∧ hasEscapes quote then
      match readEscape rest with
      | some (e, after) =>
        if after.length ≤ rest.length then (lineBody quote after).map fun (s, r) => (e :: s, r)
        else none
      | none => none
    else if isTextChar c then (lineBody quote rest).map fun (s, r) => (c :: s, r)
    else none
termination_by cs.length

/-- The text after the blanks and line ends that follow a backslash at the end of a line. -/
def skipContinuation? (cs : List Char) : Option (List Char) :=
  (newline? (skipBlanks cs)).map skipBlankLines

/-- The end of a string of many lines: three quotes, with at most two more before them that belong to
the string. -/
def closing? (quote : Char) : Reader (List Char) := fun cs =>
  let quotes := (cs.take 5).takeWhile (· == quote)
  if 3 ≤ quotes.length then some (quotes.drop 3, cs.drop quotes.length) else none

/-- A string of many lines, after its opening quotes. The ends of its lines are kept as they are. -/
def linesBody (quote : Char) (cs : List Char) : Option (List Char × List Char) :=
  match closing? quote cs with
  | some (s, rest) => some (s, rest)
  | none =>
    match readNewline cs with
    | some (lineEnd, rest) =>
      if rest.length < cs.length then (linesBody quote rest).map fun (s, r) => (lineEnd ++ s, r)
      else none
    | none =>
      match cs with
      | [] => none
      | c :: rest =>
        if c = '\\' ∧ hasEscapes quote then
          match skipContinuation? rest with
          | some after => if after.length ≤ rest.length then linesBody quote after else none
          | none =>
            match readEscape rest with
            | some (e, after) =>
              if after.length ≤ rest.length then (linesBody quote after).map fun (s, r) => (e :: s, r)
              else none
            | none => none
        else if isTextChar c then (linesBody quote rest).map fun (s, r) => (c :: s, r)
        else none
termination_by cs.length

def isQuote (c : Char) : Bool := c == '"' || c == '\x27'

def readLineString : Reader String
  | c :: cs =>
    if isQuote c then (lineBody c cs).map fun (s, rest) => (String.ofList s, rest) else none
  | [] => none

/-- A string of one or of many lines. The end of a line right after three opening quotes is
dropped. -/
def readString : Reader String
  | a :: b :: c :: cs =>
    if isQuote a ∧ a = b ∧ b = c then
      (linesBody a ((newline? cs).getD cs)).map fun (s, rest) => (String.ofList s, rest)
    else readLineString (a :: b :: c :: cs)
  | cs => readLineString cs

/-! ## Keys -/

def isBareChar (c : Char) : Bool := c.isAlphanum || c == '_' || c == '-'

def readName : Reader String := fun cs =>
  match cs.takeWhile isBareChar with
  | [] => readLineString cs
  | name => some (String.ofList name, cs.dropWhile isBareChar)

def readKey (cs : List Char) : Option (Key × List Char) :=
  match readName (skipBlanks cs) with
  | none => none
  | some (name, rest) =>
    match skipBlanks rest with
    | '.' :: after =>
      if after.length < cs.length then
        match readKey after with
        | some (key, rest) => some (⟨name :: key.path, key.last⟩, rest)
        | none => none
      else none
    | rest => some (⟨[], name⟩, rest)
termination_by cs.length

/-! ## Numbers -/

def ungroup? (isDigit : Char → Bool) : List Char → Option (List Char)
  | [] => none
  | [c] => if isDigit c then some [c] else none
  | c :: '_' :: cs => if isDigit c then (ungroup? isDigit cs).map (c :: ·) else none
  | c :: d :: cs => if isDigit c then (ungroup? isDigit (d :: cs)).map (c :: ·) else none

/-- Only zero itself begins with a zero. -/
def wholeDigits? (cs : List Char) : Option (List Char) := do
  let ds ← ungroup? Char.isDigit cs
  if ds.head? = some '0' ∧ ds ≠ ['0'] then none else return ds

def splitSign : List Char → Bool × List Char
  | '-' :: cs => (true, cs)
  | '+' :: cs => (false, cs)
  | cs => (false, cs)

def isBinaryDigit (c : Char) : Bool := c == '0' || c == '1'

def isOctalDigit (c : Char) : Bool := '0' ≤ c && c ≤ '7'

def isHexDigit (c : Char) : Bool := (hexValue? c).isSome

def valueInBase (base : Nat) (ds : List Char) : Nat :=
  ds.foldl (fun n d => base * n + (hexValue? d).getD 0) 0

/-- A number that fits neither the signed nor the unsigned integers of 128 bits is invalid. -/
def ofInteger (n : Int) : Toml :=
  if -twoPow 127 ≤ n ∧ n < twoPow 128 then .integer n else .invalidNumber

/-- The digits after the mark of a base. No digits at all stand for no number. -/
def basedInteger? (base : Nat) (isDigit : Char → Bool) : List Char → Option Toml
  | [] => some .invalidNumber
  | cs => (ungroup? isDigit cs).map fun ds => ofInteger (valueInBase base ds)

/-- Whether every underscore stands between hexadecimal digits. -/
def isGrouped : List Char → Bool
  | c :: '_' :: d :: cs => isHexDigit c && isHexDigit d && isGrouped (d :: cs)
  | [_, '_'] => false
  | _ :: cs => isGrouped cs
  | [] => true

/-- Whether a text begins with digits and an underscore and has no mark of a fraction or an exponent
after them. -/
def beginsGrouped (cs : List Char) : Bool :=
  let rest := cs.dropWhile Char.isDigit
  cs.head?.any (fun c => c.isDigit && c ≠ '0') && rest.head? = some '_' && isGrouped cs &&
    rest.all fun c => c ≠ '.' && c ≠ 'e' && c ≠ 'E'

/-- An integer. What begins like one whose digits are grouped may go on with other characters, but
then stands for no number. -/
def integer? : List Char → Option Toml
  | '0' :: 'x' :: cs => basedInteger? 16 isHexDigit cs
  | '0' :: 'o' :: cs => basedInteger? 8 isOctalDigit cs
  | '0' :: 'b' :: cs => basedInteger? 2 isBinaryDigit cs
  | cs =>
    let (negative, cs) := splitSign cs
    match wholeDigits? cs with
    | some ds => some (ofInteger (if negative then -valueOfDigits ds else valueOfDigits ds))
    | none => if beginsGrouped cs then some .invalidNumber else none

def isDigitOrUnderscore (c : Char) : Bool := c.isDigit || c == '_'

def splitFraction : Reader (Option (List Char))
  | '.' :: cs => do
    let ds ← ungroup? Char.isDigit (cs.takeWhile isDigitOrUnderscore)
    return (some ds, cs.dropWhile isDigitOrUnderscore)
  | cs => some (none, cs)

def exponent? : List Char → Option (Option Int)
  | [] => some none
  | c :: cs =>
    if c = 'e' ∨ c = 'E' then do
      let (negative, cs) := splitSign cs
      let ds ← ungroup? Char.isDigit cs
      let n : Int := valueOfDigits ds
      return some (if negative then -n else n)
    else none

/-- A number with a fraction or an exponent. One beyond the range is invalid. -/
def float? (cs : List Char) : Option Toml :=
  let (negative, cs) := splitSign cs
  if cs = ['i', 'n', 'f'] then some (.float (.infinite negative))
  else if cs = ['n', 'a', 'n'] then some (.float .nan)
  else do
    let whole ← wholeDigits? (cs.takeWhile isDigitOrUnderscore)
    let (fraction?, cs) ← splitFraction (cs.dropWhile isDigitOrUnderscore)
    let exponent? ← exponent? cs
    if fraction?.isNone ∧ exponent?.isNone then none
    else
      let fraction := fraction?.getD []
      let x := Decimal.toBinary64
        ⟨negative, valueOfDigits (whole ++ fraction), exponent?.getD 0 - fraction.length⟩
      return if x.isInfinite then .invalidNumber else .float x

/-! ## Dates and times -/

def readFixed (count low high : Nat) : Reader Nat := fun cs =>
  let ds := cs.take count
  if ds.length = count ∧ ds.all Char.isDigit then
    let n := valueOfDigits ds
    if low ≤ n ∧ n ≤ high then some (n, cs.drop count) else none
  else none

def isLeapYear (year : Nat) : Bool := year % 4 = 0 && (year % 100 ≠ 0 || year % 400 = 0)

def daysInMonth (year month : Nat) : Nat :=
  if month = 2 then if isLeapYear year then 29 else 28
  else if month ∈ [4, 6, 9, 11] then 30
  else 31

def padded (count n : Nat) : List Char :=
  let ds := digits n
  List.replicate (count - ds.length) '0' ++ ds

def expect (c : Char) : List Char → Option (List Char)
  | d :: cs => if d = c then some cs else none
  | [] => none

def readDate : Reader (List Char) := fun cs => do
  let (year, cs) ← readFixed 4 0 9999 cs
  let cs ← expect '-' cs
  let (month, cs) ← readFixed 2 1 12 cs
  let cs ← expect '-' cs
  let (day, cs) ← readFixed 2 1 (daysInMonth year month) cs
  return (padded 4 year ++ '-' :: padded 2 month ++ '-' :: padded 2 day, cs)

/-- A fraction of a second is cut after nine digits and loses the zeros at its end. One of zeros only is
not written. -/
def fractionText (ds : List Char) : List Char :=
  match ((ds.take 9).reverse.dropWhile (· == '0')).reverse with
  | [] => []
  | kept => '.' :: kept

/-- The seconds of a time with their fraction, after the minutes. They are zero when they are left
out. -/
def readSeconds : Reader (List Char)
  | ':' :: cs => do
    let (second, cs) ← readFixed 2 0 60 cs
    match cs with
    | '.' :: cs =>
      let ds := cs.takeWhile Char.isDigit
      if ds.isEmpty then none
      else return (':' :: padded 2 second ++ fractionText ds, cs.dropWhile Char.isDigit)
    | cs => return (':' :: padded 2 second, cs)
  | cs => some ([':', '0', '0'], cs)

def readHourMinute : Reader (List Char) := fun cs => do
  let (hour, cs) ← readFixed 2 0 23 cs
  let cs ← expect ':' cs
  let (minute, cs) ← readFixed 2 0 59 cs
  return (padded 2 hour ++ ':' :: padded 2 minute, cs)

def readTime : Reader (List Char) := fun cs => do
  let (hourMinute, cs) ← readHourMinute cs
  let (seconds, cs) ← readSeconds cs
  return (hourMinute ++ seconds, cs)

/-- The offset from universal time that makes up the rest of a text; an offset of zero is positive. -/
def offset? : List Char → Option (List Char)
  | [] => some []
  | ['Z'] | ['z'] => some ['Z']
  | c :: cs =>
    if c = '+' ∨ c = '-' then do
      let (text, rest) ← readHourMinute cs
      if rest.isEmpty then
        return (if text = ['0', '0', ':', '0', '0'] then '+' else c) :: text
      else none
    else none

def isTimeMark (c : Char) : Bool := c == 'T' || c == 't' || c == ' '

def datetime? (cs : List Char) : Option (List Char) :=
  match readDate cs with
  | some (date, []) => some date
  | some (date, c :: cs) =>
    if isTimeMark c then do
      let (time, cs) ← readTime cs
      let offset ← offset? cs
      return date ++ 'T' :: time ++ offset
    else none
  | none =>
    match readTime cs with
    | some (time, []) => some time
    | _ => none

end Toml

end QueryTemplate
