import QueryTemplate.Text.Bytes

/-!
# Bytes between the cuts of a text

A text can be cut between two characters. The byte behind a cut tells which
character of ASCII stands there, if one does: no other character begins with the
same byte (`leadByte_eq_iff`). So what is found byte by byte is found character by
character.
-/

namespace QueryTemplate

/-- A position between two characters of a source, or at its end. -/
def IsCut (source : String) (n : Nat) : Prop := String.Pos.Raw.IsValid source ⟨n⟩

instance (source : String) (n : Nat) : Decidable (IsCut source n) :=
  inferInstanceAs (Decidable (String.Pos.Raw.IsValid source ⟨n⟩))

theorem isCut_of_append {source : String} (pre post : List Char) (h : source.toList = pre ++ post) :
    IsCut source (byteLength pre) := by
  unfold IsCut
  rw [String.Pos.Raw.isValid_iff_exists_append]
  refine ⟨String.ofList pre, String.ofList post, ?_, ?_⟩
  · rw [← String.ofList_append, ← h, String.ofList_toList]
  · exact String.Pos.Raw.ext (utf8ByteSize_ofList pre).symm

theorem byteLength_eq_zero_iff {cs : List Char} : byteLength cs = 0 ↔ cs = [] := by
  cases cs with
  | nil => simp [byteLength]
  | cons c cs =>
    have := c.utf8Size_pos
    simp only [byteLength, reduceCtorEq, iff_false]
    omega

/-! ## The byte behind a cut -/

def leadByte (c : Char) : UInt8 := (String.utf8EncodeChar c).head String.utf8EncodeChar_ne_nil

theorem length_flatMap_utf8 (cs : List Char) : (cs.flatMap String.utf8EncodeChar).length = byteLength cs := by
  induction cs with
  | nil => rfl
  | cons c cs ih => rw [List.flatMap_cons, List.length_append, String.length_utf8EncodeChar, ih, byteLength]

theorem getElem?_toByteArray (bs : List UInt8) (i : Nat) : bs.toByteArray[i]? = bs[i]? := by
  by_cases h : i < bs.length
  · rw [getElem?_pos bs.toByteArray i (by simpa using h), List.getElem?_eq_getElem h, List.getElem_toByteArray]
  · rw [getElem?_neg bs.toByteArray i (by simpa using h), List.getElem?_eq_none (by omega)]

theorem getElem?_byteLength {s : String} {pre cs : List Char} (h : s.toList = pre ++ cs) :
    s.toByteArray[byteLength pre]? = cs.head?.map leadByte := by
  rw [← String.utf8Encode_toList, h, List.utf8Encode, getElem?_toByteArray, List.flatMap_append,
    List.getElem?_append_right (Nat.le_of_eq (length_flatMap_utf8 pre)), length_flatMap_utf8, Nat.sub_self]
  cases cs with
  | nil => rfl
  | cons c cs =>
    have hlen : 0 < (String.utf8EncodeChar c).length := List.length_pos_iff.mpr String.utf8EncodeChar_ne_nil
    rw [List.flatMap_cons, List.getElem?_append_left hlen, List.head?_cons, Option.map_some, leadByte,
      List.head_eq_getElem, List.getElem?_eq_getElem hlen]

/-- Outside ASCII the first byte is none of ASCII either. -/
theorem toNat_leadByte (c : Char) :
    (leadByte c).toNat = c.toNat ∨ 128 ≤ (leadByte c).toNat ∧ 128 ≤ c.toNat := by
  have hval : c.val.toNat = c.toNat := rfl
  simp only [leadByte, String.utf8EncodeChar, hval]
  split
  · left
    simp only [List.head_cons, UInt8.toNat_ofNat']
    omega
  · right
    repeat' split
    all_goals
      simp only [List.head_cons, UInt8.toNat_ofNat']
      omega

theorem leadByte_eq_iff {a c : Char} (ha : a.toNat < 128) : leadByte c = a.toUInt8 ↔ c = a := by
  have hbyte : a.toUInt8.toNat = a.toNat := Nat.mod_eq_of_lt (Nat.lt_trans ha (by decide))
  have hlead := toNat_leadByte c
  rw [← UInt8.toNat_inj, hbyte, ← Char.toNat_inj]
  omega

theorem byteLength_concat {pre : List Char} {c : Char} (hc : c.toNat < 128) :
    byteLength (pre ++ [c]) = byteLength pre + 1 := by
  have hsize : c.utf8Size = 1 := Char.utf8Size_eq_one_iff.mpr (UInt32.le_iff_toNat_le.mpr (Nat.le_of_lt_succ hc))
  simp [byteLength, hsize]

end QueryTemplate
