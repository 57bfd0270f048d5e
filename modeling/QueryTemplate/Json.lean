import QueryTemplate.Number.Binary64

/-! # JSON documents -/

namespace QueryTemplate

/-- An object keeps its members in order and holds each key once. -/
inductive Json
  | null
  | bool (b : Bool)
  | integer (n : Int)
  | real (x : Binary64)
  | string (s : String)
  | array (items : List Json)
  | object (members : List (String × Json))
  deriving Inhabited

/-- The entries with the value of `key` replaced where it stands, or put at the end. -/
def putEntry {α : Type} (key : String) (value : α) : List (String × α) → List (String × α)
  | [] => [(key, value)]
  | (k, v) :: entries =>
    if k = key then (key, value) :: entries else (k, v) :: putEntry key value entries

end QueryTemplate
