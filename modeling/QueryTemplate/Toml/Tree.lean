import QueryTemplate.Json
import QueryTemplate.Toml

/-! # Trees: a TOML document while its statements are taken in

A table can be defined once only: by a header, or by the dotted keys of one table. A table that
exists only because a header names a table inside it can still be defined.
-/

namespace QueryTemplate

namespace Toml

/-- How a table came to be: as the way to another table, by a header, or by dotted keys. -/
inductive Origin
  | passage
  | header
  | dotted
  deriving DecidableEq, Repr

/-- A value cannot be extended, also when it is an array or an inline table. -/
inductive Node
  | value (v : Toml)
  | table (origin : Origin) (entries : List (String × Node))
  | tables (elements : List (List (String × Node)))
  deriving Inhabited

abbrev Entries := List (String × Node)

mutual
def Node.toToml : Node → Toml
  | .value v => v
  | .table _ entries => .table (entriesToToml entries)
  | .tables elements => .array (elementsToToml elements)
def entriesToToml : List (String × Node) → List (String × Toml)
  | [] => []
  | (k, n) :: entries => (k, n.toToml) :: entriesToToml entries
def elementsToToml : List (List (String × Node)) → List Toml
  | [] => []
  | e :: elements => .table (entriesToToml e) :: elementsToToml elements
end

namespace Entries

/-- Puts a value under a dotted key, and fails if that would define a name twice or reach into a table
that a header has defined. A table that is only a passage can be passed again but not filled, and so
can the last element of an array of tables. -/
def putDotted (last : String) (v : Toml) : List String → Entries → Option Entries
  | [], entries =>
    match entries.lookup last with
    | none => some (putEntry last (.value v) entries)
    | some _ => none
  | name :: path, entries =>
    match entries.lookup name with
    | none => do
      let inner ← putDotted last v path []
      return putEntry name (.table .dotted inner) entries
    | some (.table origin inner) =>
      if origin = .dotted ∨ (origin = .passage ∧ path ≠ []) then do
        let inner ← putDotted last v path inner
        return putEntry name (.table origin inner) entries
      else none
    | some (.tables elements) =>
      if path = [] then none
      else do
        let element ← elements.getLast?
        let element ← putDotted last v path element
        return putEntry name (.tables (elements.dropLast ++ [element])) entries
    | some (.value _) => none

/-- Changes the entries at the end of a path of tables, which are made where they are missing. The way
through an array of tables leads into its last element. -/
def modifyAt (f : Entries → Option Entries) : List String → Entries → Option Entries
  | [], entries => f entries
  | name :: path, entries =>
    match entries.lookup name with
    | none => do
      let inner ← modifyAt f path []
      return putEntry name (.table .passage inner) entries
    | some (.table origin inner) => do
      let inner ← modifyAt f path inner
      return putEntry name (.table origin inner) entries
    | some (.tables elements) => do
      let last ← elements.getLast?
      let inner ← modifyAt f path last
      return putEntry name (.tables (elements.dropLast ++ [inner])) entries
    | some (.value _) => none

/-- Defines a table by its header. A table that was a passage until then moves behind the others. -/
def defineTable (key : Key) : Entries → Option Entries :=
  modifyAt (fun entries =>
    match entries.lookup key.last with
    | none => some (putEntry key.last (.table .header []) entries)
    | some (.table .passage inner) =>
      some (entries.filter (·.1 ≠ key.last) ++ [(key.last, .table .header inner)])
    | some _ => none) key.path

def appendTable (key : Key) : Entries → Option Entries :=
  modifyAt (fun entries =>
    match entries.lookup key.last with
    | none => some (putEntry key.last (.tables [[]]) entries)
    | some (.tables elements) => some (putEntry key.last (.tables (elements ++ [[]])) entries)
    | some _ => none) key.path

end Entries

inductive Statement
  | pair (key : Key) (v : Toml)
  | table (key : Key)
  | element (key : Key)

/-- Takes in one statement, where `current` is the path of the table that pairs belong to. -/
def takeIn : List String × Entries → Statement → Option (List String × Entries)
  | (current, entries), .pair key v => do
    let entries ← entries.modifyAt (Entries.putDotted key.last v key.path) current
    return (current, entries)
  | (_, entries), .table key => do
    let entries ← entries.defineTable key
    return (key.names, entries)
  | (_, entries), .element key => do
    let entries ← entries.appendTable key
    return (key.names, entries)

def ofStatements? (statements : List Statement) : Option Toml := do
  let (_, entries) ← statements.foldlM takeIn ([], [])
  return .table (entriesToToml entries)

def ofPairs? (pairs : List (Key × Toml)) : Option Toml := do
  let entries ← pairs.foldlM (fun entries (k, v) => Entries.putDotted k.last v k.path entries) []
  return .table (entriesToToml entries)

end Toml

end QueryTemplate
