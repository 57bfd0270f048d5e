import QueryTemplate.Number.Binary64

/-! # Arguments: the values that fill the placeholders of a template -/

namespace QueryTemplate

/-- A map keeps its entries in order and may repeat a key. `skip` asks for the placeholder to be left
out, with the fragment around it. -/
inductive Arg
  | null
  | bool (b : Bool)
  | int (n : Int64)
  | float (x : Binary64)
  | text (s : String)
  | list (items : List Arg)
  | map (entries : List (String × Arg))
  | skip
  deriving Inhabited

namespace Arg

inductive Shape
  | null | bool | int | float | text | list | map | skip
  deriving DecidableEq, Repr

def Shape.name : Shape → String
  | .null => "null"
  | .bool => "bool"
  | .int => "int"
  | .float => "float"
  | .text => "string"
  | .list => "list"
  | .map => "map"
  | .skip => "skip"

def shape : Arg → Shape
  | .null => .null
  | .bool _ => .bool
  | .int _ => .int
  | .float _ => .float
  | .text _ => .text
  | .list _ => .list
  | .map _ => .map
  | .skip => .skip

def isSkip (a : Arg) : Bool := a.shape == .skip

def isNull (a : Arg) : Bool := a.shape == .null

def isCollection (a : Arg) : Bool := a.shape == .list || a.shape == .map

mutual
/-- Equality of shapes and contents, where numbers are compared as numbers. -/
def eq : Arg → Arg → Bool
  | .null, .null => true
  | .bool b, .bool b' => b == b'
  | .int n, .int n' => n == n'
  | .float x, .float x' => x == x'
  | .text s, .text s' => s == s'
  | .list items, .list items' => eqItems items items'
  | .map entries, .map entries' => eqEntries entries entries'
  | .skip, .skip => true
  | _, _ => false
def eqItems : List Arg → List Arg → Bool
  | [], [] => true
  | a :: as, b :: bs => a.eq b && eqItems as bs
  | _, _ => false
def eqEntries : List (String × Arg) → List (String × Arg) → Bool
  | [], [] => true
  | (k, a) :: as, (l, b) :: bs => k == l && a.eq b && eqEntries as bs
  | _, _ => false
end

instance : BEq Arg := ⟨eq⟩

end Arg

/-! ## Values that are arguments -/

class ToArg (α : Type) where
  toArg : α → Arg

export ToArg (toArg)

instance : ToArg Arg := ⟨id⟩
instance : ToArg Bool := ⟨.bool⟩
instance : ToArg Int8 := ⟨fun n => .int n.toInt64⟩
instance : ToArg Int16 := ⟨fun n => .int n.toInt64⟩
instance : ToArg Int32 := ⟨fun n => .int n.toInt64⟩
instance : ToArg Int64 := ⟨.int⟩
instance : ToArg UInt8 := ⟨fun n => .int (Int64.ofNat n.toNat)⟩
instance : ToArg UInt16 := ⟨fun n => .int (Int64.ofNat n.toNat)⟩
instance : ToArg UInt32 := ⟨fun n => .int (Int64.ofNat n.toNat)⟩
instance : ToArg Binary64 := ⟨.float⟩
instance : ToArg String := ⟨.text⟩

section
variable {α : Type} [ToArg α]

/-- A missing value is null. -/
instance : ToArg (Option α) := ⟨fun x? => x?.elim .null toArg⟩

instance : ToArg (List α) := ⟨fun xs => .list (xs.map toArg)⟩

instance : ToArg (List (String × α)) := ⟨fun entries => .map (entries.map fun (k, x) => (k, toArg x))⟩

end

end QueryTemplate
