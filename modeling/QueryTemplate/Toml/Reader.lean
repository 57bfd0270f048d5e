import QueryTemplate.Toml.Lexical
import QueryTemplate.Toml.Tree

/-! # Reading TOML documents

Documents of TOML 1.0 are read as that version says. Inline tables may also span lines, with comments,
and end with a comma, and times may leave out the seconds.
-/

namespace QueryTemplate

namespace Toml

/-! ## Values -/

/-- A character that does not end a number, a date, a time or a truth value. -/
def isWordChar (c : Char) : Bool :=
  !isBlank c && c ∉ ['=', ',', '[', ']', '\x7b', '\x7d', '#', '\r', '\n']

/-- A number, a date, a time or a truth value. One space may stand between a date and a time. -/
def readWord : Reader (List Char) := fun cs =>
  let word := cs.takeWhile isWordChar
  match readDate word, cs.dropWhile isWordChar with
  | some (_, []), ' ' :: d :: rest =>
    if d.isDigit then
      some (word ++ ' ' :: (d :: rest).takeWhile isWordChar, (d :: rest).dropWhile isWordChar)
    else some (word, ' ' :: d :: rest)
  | _, rest => some (word, rest)

def ofWord? (word : List Char) : Option Toml :=
  if word = ['t', 'r', 'u', 'e'] then some (.boolean true)
  else if word = ['f', 'a', 'l', 's', 'e'] then some (.boolean false)
  else
    match integer? word, float? word, datetime? word with
    | some n, _, _ => some n
    | none, some x, _ => some x
    | none, none, some text => some (.datetime (String.ofList text))
    | none, none, none => none

section
variable {α : Type} (item : Reader α) (close : Char)

/-- Items with commas between and perhaps one at the end, up to the closing bracket. They may stand on
lines of their own, with comments. -/
def readItems (cs : List Char) : Option (List α × List Char) :=
  match skipLines cs with
  | [] => none
  | c :: rest =>
    if c = close then some ([], rest)
    else
      match item (c :: rest) with
      | none => none
      | some (a, rest) =>
        match skipLines rest with
        | ',' :: rest =>
          if rest.length < cs.length then (readItems rest).map fun (as, rest) => (a :: as, rest)
          else none
        | c :: rest => if c = close then some ([a], rest) else none
        | [] => none
termination_by cs.length

end

/-- A key and its value, where `skip` passes over what may stand around the sign between them. -/
def readPair (skip : List Char → List Char) (value : Reader Toml) : Reader (Key × Toml) := fun cs => do
  let (key, cs) ← readKey cs
  let cs ← expect '=' (skip cs)
  let (v, cs) ← value (skip cs)
  return ((key, v), cs)

/-- A value in which arrays and inline tables nest at most `depth` deep. -/
def readValue : Nat → Reader Toml
  | depth, cs =>
    match cs with
    | '[' :: cs =>
      match depth with
      | 0 => none
      | depth + 1 => do
        let (items, cs) ← readItems (readValue depth) ']' cs
        return (.array items, cs)
    | '\x7b' :: cs =>
      match depth with
      | 0 => none
      | depth + 1 => do
        let (pairs, cs) ← readItems (readPair skipLines (readValue depth)) '\x7d' cs
        let table ← ofPairs? pairs
        return (table, cs)
    | c :: cs =>
      if isQuote c then do
        let (s, cs) ← readString (c :: cs)
        return (.string s, cs)
      else do
        let (word, cs) ← readWord (c :: cs)
        let v ← ofWord? word
        return (v, cs)
    | [] => none

def maxDepth : Nat := 80

/-! ## Lines -/

def endLine? (cs : List Char) : Option (List Char) :=
  match skipComment (skipBlanks cs) with
  | [] => some []
  | rest => newline? rest

/-- One line or, if values span lines, several; none if there is only a comment. -/
def readStatement : Reader (Option Statement) := fun cs =>
  match endLine? cs with
  | some rest => some (none, rest)
  | none =>
    match skipBlanks cs with
    | '[' :: '[' :: cs => do
      let (key, cs) ← readKey cs
      let cs ← expect ']' (skipBlanks cs)
      let cs ← expect ']' cs
      let cs ← endLine? cs
      return (some (.element key), cs)
    | '[' :: cs => do
      let (key, cs) ← readKey cs
      let cs ← expect ']' (skipBlanks cs)
      let cs ← endLine? cs
      return (some (.table key), cs)
    | cs => do
      let ((key, v), cs) ← readPair skipBlanks (readValue maxDepth) cs
      let cs ← endLine? cs
      return (some (.pair key v), cs)

def readStatements (cs : List Char) : Option (List Statement) :=
  if cs.isEmpty then some []
  else
    match readStatement cs with
    | some (statement?, rest) =>
      if rest.length < cs.length then
        (readStatements rest).map fun statements => statement?.toList ++ statements
      else none
    | none => none
termination_by cs.length

/-- A byte order mark may stand at the start of a document. -/
def dropMark : List Char → List Char
  | '\ufeff' :: cs => cs
  | cs => cs

def parse? (s : String) : Option Toml := (readStatements (dropMark s.toList)).bind ofStatements?

end Toml

end QueryTemplate
