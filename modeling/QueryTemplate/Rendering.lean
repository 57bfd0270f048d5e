import QueryTemplate.Arg.Number
import QueryTemplate.Escaper
import QueryTemplate.Number.Shortest
import QueryTemplate.Template.Error

/-! # Renderings: the literal SQL that stands for an argument -/

namespace QueryTemplate

/-- What takes the place of a placeholder. -/
inductive Rendering
  | sql (text : String)
  | skip
  deriving DecidableEq, Repr

namespace Rendering

def isSkip : Rendering → Bool
  | .skip => true
  | .sql _ => false

def sql? : Rendering → Option String
  | .skip => none
  | .sql text => some text

end Rendering

def integerLiteral (n : Int64) : String := String.ofList (integerText n.toInt)

/-- A number that SQL cannot write is null. -/
def floatLiteral (x : Binary64) : String := if x.isFinite then x.text else "NULL"

def separator : String := ", "

def inBackticks (s : String) : String := "\x60" ++ s ++ "\x60"

def inQuotes (s : String) : String := "'" ++ s ++ "'"

def isPosition (key : String) : Bool := !key.toList.isEmpty && key.toList.all Char.isDigit

namespace Arg

/-- The items of an argument as a collection, each with its key if it has one. Null is empty, and
any other scalar is its own only item. -/
def entries : Arg → List (Option String × Arg)
  | .list items => items.map fun a => (none, a)
  | .map entries => entries.map fun (k, a) => (some k, a)
  | .null => []
  | a => [(none, a)]

def isKeyed (entries : List (Option String × Arg)) : Bool :=
  entries.any fun (k?, _) => k?.any fun k => !isPosition k

section
variable (E : Escaper) (kind : Kind)

def scalar : Arg → Except TemplateError String
  | .text s => .ok (inQuotes (E.text s))
  | .float x => .ok (floatLiteral x)
  | .int n => .ok (integerLiteral n)
  | .bool b => .ok (if b then "1" else "0")
  | .null => .ok "NULL"
  | a => .error (.deniedArgument kind a.shape)

def columnName : Arg → Except TemplateError String
  | .text s => .ok s
  | .int n => .ok (integerLiteral n)
  | .float x => .ok x.text
  | .bool b => .ok (if b then "1" else "")
  | .null => .ok ""
  | a => .error (.deniedArgument kind a.shape)

def column (a : Arg) : Except TemplateError String := do
  let name ← a.columnName kind
  if name.isEmpty then .error .emptyColumnName
  else return inBackticks (E.identifier name)

end

section
variable (E : Escaper)

/-- One item of a value list, or one assignment if the collection is keyed. -/
def assignment (keyed : Bool) : Option String × Arg → Except TemplateError String
  | (some key, a) =>
    if keyed then do
      let name ← column E .assignments (.text key)
      let value ← a.scalar E .assignments
      return name ++ " = " ++ value
    else a.scalar E .assignments
  | (none, a) => a.scalar E .assignments

def assignments (a : Arg) : Except TemplateError String :=
  if a.entries.isEmpty then .error (.emptyCollection .assignments)
  else do
    let items ← a.entries.mapM (assignment E (isKeyed a.entries))
    return separator.intercalate items

def identifiers (a : Arg) : Except TemplateError String :=
  if a.entries.isEmpty then .error (.emptyCollection .identifiers)
  else do
    let items ← a.entries.mapM fun (_, item) => item.column E .identifiers
    return separator.intercalate items

def literal : Kind → Arg → Except TemplateError String
  | .generic, a => a.scalar E .generic
  | .int, .null | .float, .null => .ok "NULL"
  | .int, a => .ok (integerLiteral a.toInt64)
  | .float, a => .ok (floatLiteral a.toBinary64)
  | .assignments, a => a.assignments E
  | .identifiers, a => a.identifiers E

def render (kind : Kind) : Arg → Except TemplateError Rendering
  | .skip => .ok .skip
  | a => Rendering.sql <$> a.literal E kind

end

end Arg

end QueryTemplate
