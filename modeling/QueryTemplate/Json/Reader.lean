import QueryTemplate.Json.Number
import QueryTemplate.Text.Reader

/-! # Reading JSON documents -/

namespace QueryTemplate

namespace Json

def isBlank (c : Char) : Bool := c == ' ' || c == '\t' || c == '\n' || c == '\r'

def skipBlanks (cs : List Char) : List Char := cs.dropWhile isBlank

def escaped? : Char → Option Char
  | '"' => some '"'
  | '\\' => some '\\'
  | '/' => some '/'
  | 'b' => some '\x08'
  | 'f' => some '\x0c'
  | 'n' => some '\n'
  | 'r' => some '\r'
  | 't' => some '\t'
  | _ => none

def isHighSurrogate (n : Nat) : Bool := 0xD800 ≤ n && n < 0xDC00

def isLowSurrogate (n : Nat) : Bool := 0xDC00 ≤ n && n < 0xE000

/-- A string after its opening quote. `high?` is a surrogate that waits for its second half. -/
def stringBody (high? : Option Nat) : Reader (List Char)
  | [] => none
  | '\\' :: 'u' :: a :: b :: c :: d :: cs => do
    let n ← hexNumber? [a, b, c, d]
    match high? with
    | some high =>
      if isLowSurrogate n then
        let c ← charOfNat? (0x10000 + (high - 0xD800) * 0x400 + (n - 0xDC00))
        let (s, rest) ← stringBody none cs
        return (c :: s, rest)
      else none
    | none =>
      if isHighSurrogate n then stringBody (some n) cs
      else
        let c ← charOfNat? n
        let (s, rest) ← stringBody none cs
        return (c :: s, rest)
  | '\\' :: e :: cs => do
    if high?.isSome then none
    let c ← escaped? e
    let (s, rest) ← stringBody none cs
    return (c :: s, rest)
  | c :: cs =>
    if high?.isSome then none
    else if c = '"' then some ([], cs)
    else if c.toNat < 0x20 ∨ c = '\\' then none
    else do
      let (s, rest) ← stringBody none cs
      return (c :: s, rest)

def readString : Reader String
  | '"' :: cs => do
    let (s, rest) ← stringBody none cs
    return (String.ofList s, rest)
  | _ => none

def someDigits : Reader (List Char) := fun cs =>
  let (ds, rest) := splitDigits cs
  if ds.isEmpty then none else some (ds, rest)

def readWhole : Reader (List Char) := fun cs => do
  let (ds, rest) ← someDigits cs
  if ds.head? = some '0' ∧ ds ≠ ['0'] then none else return (ds, rest)

def readFraction : Reader (List Char)
  | '.' :: cs => someDigits cs
  | cs => some ([], cs)

def readExponent : Reader (Option Int)
  | c :: cs =>
    if c = 'e' ∨ c = 'E' then do
      let (negative, cs) := match cs with
        | '-' :: cs => (true, cs)
        | '+' :: cs => (false, cs)
        | cs => (false, cs)
      let (ds, rest) ← someDigits cs
      let n : Int := valueOfDigits ds
      return (some (if negative then -n else n), rest)
    else some (none, c :: cs)
  | [] => some (none, [])

def readNumber : Reader Json := fun cs => do
  let (negative, cs) := match cs with
    | '-' :: cs => (true, cs)
    | cs => (false, cs)
  let (whole, cs) ← readWhole cs
  let (fraction, cs) ← readFraction cs
  let (exponent?, cs) ← readExponent cs
  let number ←
    if fraction.isEmpty ∧ exponent?.isNone then ofDigits negative whole
    else realOfDigits negative whole fraction (exponent?.getD 0)
  return (number, cs)

section
variable {α : Type} (item : Reader α) (close : Char)

/-- At least one item, with commas between, up to the closing bracket. -/
def readItems (cs : List Char) : Option (List α × List Char) :=
  match item cs with
  | none => none
  | some (a, rest) =>
    match skipBlanks rest with
    | ',' :: rest =>
      if rest.length < cs.length then
        match readItems rest with
        | some (as, rest) => some (a :: as, rest)
        | none => none
      else none
    | c :: rest => if c = close then some ([a], rest) else none
    | [] => none
termination_by cs.length

def readSequence : Reader (List α) := fun cs =>
  match skipBlanks cs with
  | c :: rest => if c = close then some ([], rest) else readItems item close cs
  | [] => none

end

def readMember (value : Reader Json) : Reader (String × Json) := fun cs => do
  let (key, cs) ← readString (skipBlanks cs)
  match skipBlanks cs with
  | ':' :: cs =>
    let (v, cs) ← value cs
    return ((key, v), cs)
  | _ => none

/-- A repeated key keeps its first place and its last value. -/
def objectOf (members : List (String × Json)) : Json :=
  .object (members.foldl (fun entries m => putEntry m.1 m.2 entries) [])

/-- A value in which arrays and objects nest at most `depth` deep. -/
def readValue : Nat → Reader Json
  | depth, cs =>
    match skipBlanks cs with
    | 'n' :: 'u' :: 'l' :: 'l' :: cs => some (.null, cs)
    | 't' :: 'r' :: 'u' :: 'e' :: cs => some (.bool true, cs)
    | 'f' :: 'a' :: 'l' :: 's' :: 'e' :: cs => some (.bool false, cs)
    | '"' :: cs => do
      let (s, cs) ← readString ('"' :: cs)
      return (.string s, cs)
    | '[' :: cs =>
      match depth with
      | 0 => none
      | depth + 1 => do
        let (items, cs) ← readSequence (readValue depth) ']' cs
        return (.array items, cs)
    | '\x7b' :: cs =>
      match depth with
      | 0 => none
      | depth + 1 => do
        let (members, cs) ← readSequence (readMember (readValue depth)) '\x7d' cs
        return (objectOf members, cs)
    | cs => readNumber cs

def maxDepth : Nat := 127

def parse? (s : String) : Option Json := do
  let (value, rest) ← readValue maxDepth s.toList
  if (skipBlanks rest).isEmpty then return value else none

end Json

end QueryTemplate
