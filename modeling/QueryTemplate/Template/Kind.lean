/-! # Kinds of placeholders -/

namespace QueryTemplate

/-- The kind of a placeholder is the tag after its question mark. -/
inductive Kind
  | generic
  | int
  | float
  | assignments
  | identifiers
  deriving DecidableEq, Repr

namespace Kind

def tag : Kind → List Char
  | .generic => []
  | .int => ['d']
  | .float => ['f']
  | .assignments => ['a']
  | .identifiers => ['#']

def ofTag? : List Char → Option Kind
  | [] => some .generic
  | ['d'] => some .int
  | ['f'] => some .float
  | ['a'] => some .assignments
  | ['#'] => some .identifiers
  | _ => none

def text (k : Kind) : String := String.ofList ('?' :: k.tag)

theorem ofTag?_eq_some_iff {t : List Char} {k : Kind} : ofTag? t = some k ↔ t = k.tag := by
  constructor
  · intro h
    unfold ofTag? at h
    split at h <;> simp_all <;> subst h <;> rfl
  · rintro rfl; cases k <;> rfl

end Kind

end QueryTemplate
