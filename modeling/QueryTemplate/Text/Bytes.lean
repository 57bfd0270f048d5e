/-! # Positions in a text, in bytes of UTF-8 -/

namespace QueryTemplate

/-- The number of bytes that the characters take in UTF-8. -/
def byteLength : List Char → Nat
  | [] => 0
  | c :: cs => c.utf8Size + byteLength cs

def dropBytes : Nat → List Char → List Char
  | _, [] => []
  | n, c :: cs => if n = 0 then c :: cs else dropBytes (n - c.utf8Size) cs

def takeBytes : Nat → List Char → List Char
  | _, [] => []
  | n, c :: cs => if n = 0 then [] else c :: takeBytes (n - c.utf8Size) cs

/-- A stretch of a text, from the byte `start` up to but not including the byte `stop`. -/
structure Span where
  start : Nat
  stop : Nat
  deriving DecidableEq, Repr

def Span.slice (span : Span) (source : List Char) : List Char :=
  takeBytes (span.stop - span.start) (dropBytes span.start source)

@[simp] theorem byteLength_append (cs ds : List Char) :
    byteLength (cs ++ ds) = byteLength cs + byteLength ds := by
  induction cs with
  | nil => simp [byteLength]
  | cons c cs ih => simp [byteLength, ih, Nat.add_assoc]

@[simp] theorem dropBytes_append (cs ds : List Char) : dropBytes (byteLength cs) (cs ++ ds) = ds := by
  induction cs with
  | nil => cases ds <;> simp [byteLength, dropBytes]
  | cons c cs ih =>
    have h : c.utf8Size ≠ 0 := Nat.ne_of_gt c.utf8Size_pos
    simp [byteLength, dropBytes, ih, h]

@[simp] theorem takeBytes_append (cs ds : List Char) : takeBytes (byteLength cs) (cs ++ ds) = cs := by
  induction cs with
  | nil => cases ds <;> simp [byteLength, takeBytes]
  | cons c cs ih =>
    have h : c.utf8Size ≠ 0 := Nat.ne_of_gt c.utf8Size_pos
    simp [byteLength, takeBytes, ih, h]

/-- The size of a string is the length of its characters. -/
theorem utf8ByteSize_ofList (cs : List Char) : (String.ofList cs).utf8ByteSize = byteLength cs := by
  induction cs with
  | nil => rfl
  | cons c cs ih =>
    rw [String.ofList_cons, String.utf8ByteSize_append, String.utf8ByteSize_singleton, ih, byteLength]

theorem utf8ByteSize_eq (s : String) : s.utf8ByteSize = byteLength s.toList := by
  rw [← utf8ByteSize_ofList, String.ofList_toList]

/-- A span cuts out the characters between its ends. -/
theorem Span.slice_append (cs ds es : List Char) :
    Span.slice ⟨byteLength cs, byteLength cs + byteLength ds⟩ (cs ++ (ds ++ es)) = ds := by
  simp [Span.slice]

end QueryTemplate
