import QueryTemplate.Arg
import QueryTemplate.Json

/-! # Arguments from JSON

JSON has no value that asks for a placeholder to be skipped, so a string stands for it.
-/

namespace QueryTemplate

/-- The token that stands for a skipped argument unless another is chosen: `skip@` and the SHA-256
digest of the word `skip`, which no data holds by chance. -/
def skipToken : String := "skip@42e93b9bb77d8a73e8412111b8f3d6befab66bf48fdcdefa80bb111819aa0cb1"

namespace Arg

section
variable (skip : String)

mutual
/-- The argument that a JSON value stands for. A key is never a token. -/
def ofJson : Json → Arg
  | .null => .null
  | .bool b => .bool b
  | .integer n => if n ≤ maxInt64 then .int (Int64.ofInt n) else .float (Binary64.ofInt n)
  | .real x => .float x
  | .string s => if s = skip then .skip else .text s
  | .array items => .list (ofJsonItems items)
  | .object members => .map (ofJsonMembers members)
def ofJsonItems : List Json → List Arg
  | [] => []
  | j :: js => ofJson j :: ofJsonItems js
def ofJsonMembers : List (String × Json) → List (String × Arg)
  | [] => []
  | (k, j) :: js => (k, ofJson j) :: ofJsonMembers js
end

theorem ofJsonItems_eq_map (js : List Json) : ofJsonItems skip js = js.map (ofJson skip) := by
  induction js with
  | nil => rfl
  | cons j js ih => simp [ofJsonItems, ih]

theorem ofJsonMembers_eq_map (js : List (String × Json)) :
    ofJsonMembers skip js = js.map fun (k, j) => (k, ofJson skip j) := by
  induction js with
  | nil => rfl
  | cons j js ih => simp [ofJsonMembers, ih]

end

end Arg

end QueryTemplate
