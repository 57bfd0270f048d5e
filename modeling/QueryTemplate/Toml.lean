import QueryTemplate.Number.Binary64

/-! # TOML documents -/

namespace QueryTemplate

/-- A date or a time is held as its text. A numeral that stands for no number, such as one that is too
great, is a value as long as nobody asks for its number. -/
inductive Toml
  | string (s : String)
  | integer (n : Int)
  | float (x : Binary64)
  | invalidNumber
  | boolean (b : Bool)
  | datetime (s : String)
  | array (items : List Toml)
  | table (entries : List (String × Toml))
  deriving Inhabited

namespace Toml

/-- A dotted key: the names before the last dot, and the last name. -/
structure Key where
  path : List String
  last : String
  deriving DecidableEq, Repr

def Key.names (k : Key) : List String := k.path ++ [k.last]

end Toml

end QueryTemplate
