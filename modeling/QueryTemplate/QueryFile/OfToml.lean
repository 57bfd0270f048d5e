import QueryTemplate.QueryFile
import QueryTemplate.Toml.Reader

/-! # Query files from TOML documents

Names that a query file does not know are passed over, but their values must be sound. A query is a
table, or an array that begins with its parts in order; what comes after them is not looked at.
-/

namespace QueryTemplate

namespace Toml

def string? : Toml → Option String
  | .string s => some s
  | _ => none

def array? : Toml → Option (List Toml)
  | .array items => some items
  | _ => none

mutual
/-- Every number in the value is valid. -/
def isSound : Toml → Bool
  | .invalidNumber => false
  | .array items => itemsSound items
  | .table entries => entriesSound entries
  | _ => true
def itemsSound : List Toml → Bool
  | [] => true
  | t :: ts => t.isSound && itemsSound ts
def entriesSound : List (String × Toml) → Bool
  | [] => true
  | (_, t) :: ts => t.isSound && entriesSound ts
end

def datetimeKey : String := "$__toml_private_datetime"

mutual
/-- JSON has no numbers beyond the finite, and no integers beyond 64 bits. -/
def toJson? : Toml → Option Json
  | .string s => some (.string s)
  | .integer n => if minInt64 ≤ n ∧ n ≤ maxUInt64 then some (.integer n) else none
  | .invalidNumber => none
  | .float x => some (if x.isFinite then .real x else .null)
  | .boolean b => some (.bool b)
  | .datetime s => some (.object [(datetimeKey, .string s)])
  | .array items => (itemsToJson? items).map .array
  | .table entries => (entriesToJson? entries).map .object
def itemsToJson? : List Toml → Option (List Json)
  | [] => some []
  | t :: ts => do
    let j ← t.toJson?
    let js ← itemsToJson? ts
    return j :: js
def entriesToJson? : List (String × Toml) → Option (List (String × Json))
  | [] => some []
  | (k, t) :: ts => do
    let j ← t.toJson?
    let js ← entriesToJson? ts
    return (k, j) :: js
end

def optional? {α : Type} (read : Toml → Option α) (default : α) : Option Toml → Option α
  | some t => read t
  | none => some default

def args? (t : Toml) : Option (List Json) := t.array?.bind itemsToJson?

def queryOfParts? (name template args : Option Toml) : Option Query := do
  let name ← name.bind string?
  let template ← template.bind string?
  let args ← optional? args? [] args
  return ⟨name, template, args⟩

def query? : Toml → Option Query
  | .table entries =>
    if entriesSound entries then
      queryOfParts? (entries.lookup "name") (entries.lookup "template") (entries.lookup "args")
    else none
  | .array items => queryOfParts? items[0]? items[1]? items[2]?
  | _ => none

def queries? (t : Toml) : Option (List Query) := t.array?.bind fun items => items.mapM query?

def queryFile? : Toml → Option QueryFile
  | .table entries => do
    let version ← (entries.lookup "version").bind string?
    let skip ← optional? string? QueryFile.defaultSkip (entries.lookup "skip")
    let queries ← optional? queries? [] (entries.lookup "queries")
    if entriesSound (entries.filter (·.1 ≠ "queries")) then return ⟨version, skip, queries⟩
    else none
  | _ => none

end Toml

/-- The query file that a text holds, before it is validated. -/
def QueryFile.parse? (text : String) : Option QueryFile := (Toml.parse? text).bind Toml.queryFile?

end QueryTemplate
