import QueryTemplate.Proofs.Bytes
import QueryTemplate.Proofs.Grammar

/-!
# Scanning bytes for a numeral

A scanner that goes over the bytes of a text with one index, and cuts the text
where the index stands in the end. It gives up when a difference of two indices
would be negative, and when the cut is out of range or inside of a character. In
every step the index stands between what has been read and what lies ahead
(`Stands`), so it never gives up, and it cuts off what the reader takes (`scan?_eq`).
-/

namespace QueryTemplate

/-! ## The scanner -/

namespace Scanner

def isSignByte (b : UInt8) : Bool := b == '+'.toUInt8 || b == '-'.toUInt8

def isDigitByte (b : UInt8) : Bool := '0'.toUInt8 ≤ b && b ≤ '9'.toUInt8

def isLetterByte (b : UInt8) : Bool := b == 'e'.toUInt8 || b == 'E'.toUInt8

def difference? (m n : Nat) : Option Nat := if n ≤ m then some (m - n) else none

section
variable (bytes : ByteArray)

def afterSign (i : Nat) : Nat := if bytes[i]?.any isSignByte then i + 1 else i

def afterDigits (i : Nat) : Nat :=
  if h : i < bytes.size then
    if isDigitByte bytes[i] then afterDigits (i + 1) else i
  else i
termination_by bytes.size - i

/-- The index behind a point and the digits after it, and the number of these digits. -/
def afterFraction? (i : Nat) : Option (Nat × Nat) :=
  if bytes[i]? = some '.'.toUInt8 then do
    let stop := afterDigits bytes (i + 1)
    let digits ← difference? stop (i + 1)
    return (stop, digits)
  else return (i, 0)

/-- Back at the letter if no digits follow. -/
def afterExponent (i : Nat) : Nat :=
  if bytes[i]?.any isLetterByte then
    let start := afterSign bytes (i + 1)
    let stop := afterDigits bytes start
    if start < stop then stop else i
  else i

end

def cut? (s : String) (stop : Nat) : Option String :=
  if IsCut s stop then some (String.ofList (takeBytes stop s.toList)) else none

def scan? (s : String) : Option String := do
  let t := String.ofList (trimLeft s.toList)
  let start := afterSign t.toByteArray 0
  let point := afterDigits t.toByteArray start
  let digits ← difference? point start
  let (stop, more) ← afterFraction? t.toByteArray point
  if digits + more = 0 then return "" else cut? t (afterExponent t.toByteArray stop)

/-! ## The bytes that are looked for -/

theorem isSignByte_leadByte (c : Char) : isSignByte (leadByte c) = Numeral.isSign c := by
  rw [Bool.eq_iff_iff, Numeral.isSign_iff]
  simp only [isSignByte, Bool.or_eq_true, beq_iff_eq]
  rw [leadByte_eq_iff (by decide), leadByte_eq_iff (by decide)]

theorem isDigitByte_leadByte (c : Char) : isDigitByte (leadByte c) = c.isDigit := by
  have hlead := toNat_leadByte c
  rw [Bool.eq_iff_iff, Char.isDigit_iff_toNat]
  simp only [isDigitByte, Bool.and_eq_true, decide_eq_true_eq, UInt8.le_iff_toNat_le]
  change 48 ≤ (leadByte c).toNat ∧ (leadByte c).toNat ≤ 57 ↔ 48 ≤ c.toNat ∧ c.toNat ≤ 57
  omega

theorem isLetterByte_leadByte (c : Char) : isLetterByte (leadByte c) = (c == 'e' || c == 'E') := by
  rw [Bool.eq_iff_iff]
  simp only [isLetterByte, Bool.or_eq_true, beq_iff_eq]
  rw [leadByte_eq_iff (by decide), leadByte_eq_iff (by decide)]

/-! ## Where the index stands -/

theorem toNat_of_isSign {c : Char} (h : Numeral.isSign c = true) : c.toNat < 128 := by
  rcases Numeral.isSign_iff.mp h with rfl | rfl <;> decide

theorem toNat_of_isDigit {c : Char} (h : c.isDigit = true) : c.toNat < 128 :=
  Nat.lt_of_le_of_lt (Char.isDigit_iff_toNat.mp h).2 (by decide)

theorem toNat_of_isLetter {c : Char} (h : (c == 'e' || c == 'E') = true) : c.toNat < 128 := by
  simp only [Bool.or_eq_true, beq_iff_eq] at h
  rcases h with rfl | rfl <;> decide

theorem afterDigits_step (bytes : ByteArray) (i : Nat) :
    afterDigits bytes i = if bytes[i]?.any isDigitByte then afterDigits bytes (i + 1) else i := by
  rw [afterDigits]
  by_cases hi : i < bytes.size
  · rw [dif_pos hi, getElem?_pos bytes i hi, Option.any_some]
  · rw [dif_neg hi, getElem?_neg bytes i hi]
    rfl

/-- The index `i` has passed `pre` and stands before `cs`. -/
structure Stands (t : String) (i : Nat) (pre cs : List Char) : Prop where
  text : t.toList = pre ++ cs
  index : i = byteLength pre

namespace Stands

theorem start (cs : List Char) : Stands (String.ofList cs) 0 [] cs := ⟨String.toList_ofList, rfl⟩

variable {t : String} {i : Nat} {pre cs rest : List Char}

theorem byte (h : Stands t i pre cs) : t.toByteArray[i]? = cs.head?.map leadByte := by
  rw [h.index, getElem?_byteLength h.text]

theorem any_byte {p : UInt8 → Bool} {q : Char → Bool} (h : Stands t i pre cs) (hpq : ∀ c, p (leadByte c) = q c) :
    t.toByteArray[i]?.any p = cs.head?.any q := by
  rw [h.byte]
  cases cs with
  | nil => rfl
  | cons c cs => exact hpq c

theorem next {c : Char} (h : Stands t i pre (c :: cs)) (hc : c.toNat < 128) : Stands t (i + 1) (pre ++ [c]) cs where
  text := by rw [h.text, List.append_assoc, List.singleton_append]
  index := by rw [h.index, byteLength_concat hc]

theorem afterSign (h : Stands t i pre cs) :
    Stands t (Scanner.afterSign t.toByteArray i) (pre ++ (Numeral.readSign cs).1.toList) (Numeral.readSign cs).2 := by
  rw [Scanner.afterSign, h.any_byte isSignByte_leadByte]
  cases cs with
  | nil => simpa [Numeral.readSign] using h
  | cons c cs =>
    by_cases hc : Numeral.isSign c = true
    · simpa [Numeral.readSign, hc] using h.next (toNat_of_isSign hc)
    · simpa [Numeral.readSign, hc] using h

theorem afterDigits (h : Stands t i pre cs) :
    Stands t (Scanner.afterDigits t.toByteArray i) (pre ++ (splitDigits cs).1) (splitDigits cs).2 := by
  induction cs generalizing i pre with
  | nil =>
    rw [afterDigits_step, h.any_byte isDigitByte_leadByte]
    simpa [splitDigits] using h
  | cons c cs ih =>
    rw [afterDigits_step, h.any_byte isDigitByte_leadByte]
    by_cases hc : c.isDigit = true
    · simpa [splitDigits, hc] using ih (h.next (toNat_of_isDigit hc))
    · simpa [splitDigits, hc] using h

theorem difference? {j : Nat} {ds : List Char} (h : Stands t i pre cs) (hj : Stands t j (pre ++ ds) rest) :
    Scanner.difference? j i = some (byteLength ds) := by
  rw [Scanner.difference?, hj.index, h.index, byteLength_append, if_pos (Nat.le_add_right _ _),
    Nat.add_sub_cancel_left]

theorem lt_iff {j : Nat} {ds : List Char} (h : Stands t i pre cs) (hj : Stands t j (pre ++ ds) rest) :
    i < j ↔ ds ≠ [] := by
  rw [h.index, hj.index, byteLength_append, ne_eq, ← byteLength_eq_zero_iff]
  omega

theorem afterFraction? (h : Stands t i pre cs) :
    ∃ stop, Scanner.afterFraction? t.toByteArray i =
        some (stop, byteLength ((Numeral.readFraction cs).1.getD [])) ∧
      Stands t stop (pre ++ (Numeral.readFraction cs).1.elim [] ('.' :: ·)) (Numeral.readFraction cs).2 := by
  rw [Scanner.afterFraction?, h.byte]
  by_cases hc : cs.head? = some '.'
  · obtain ⟨cs, rfl⟩ := List.head?_eq_some_iff.mp hc
    have hbyte : leadByte '.' = '.'.toUInt8 := (leadByte_eq_iff (by decide)).mpr rfl
    have hpoint := h.next (by decide)
    have hstop := hpoint.afterDigits
    refine ⟨_, ?_, by simpa [Numeral.readFraction] using hstop⟩
    simp [hbyte, hpoint.difference? hstop, Numeral.readFraction]
  · have hnone : Numeral.readFraction cs = (none, cs) := by
      rw [Numeral.readFraction]
      rintro rest rfl
      exact hc rfl
    have hbyte : cs.head?.map leadByte ≠ some '.'.toUInt8 := by
      simpa [Option.map_eq_some_iff, leadByte_eq_iff] using hc
    refine ⟨i, ?_, by simpa [hnone] using h⟩
    simp [hbyte, hnone, byteLength]

theorem afterExponent (h : Stands t i pre cs) :
    Stands t (Scanner.afterExponent t.toByteArray i)
      (pre ++ (Numeral.readExponent cs).1.elim [] Numeral.Exponent.text) (Numeral.readExponent cs).2 := by
  rw [Scanner.afterExponent, h.any_byte isLetterByte_leadByte]
  cases cs with
  | nil => simpa [Numeral.readExponent] using h
  | cons c cs =>
    by_cases hc : (c == 'e' || c == 'E') = true
    · have hstart := (h.next (toNat_of_isLetter hc)).afterSign
      have hstop := hstart.afterDigits
      simp only [List.head?_cons, Option.any_some, hc, if_true, hstart.lt_iff hstop, Numeral.readExponent]
      by_cases hds : (splitDigits (Numeral.readSign cs).2).1 = []
      · simpa [hds] using h
      · simpa [hds, Numeral.Exponent.text] using hstop
    · simpa [Numeral.readExponent, hc] using h

theorem cut? (h : Stands t i pre cs) : Scanner.cut? t i = some (String.ofList pre) := by
  have hcut := isCut_of_append pre cs h.text
  rw [Scanner.cut?, h.index, if_pos hcut, h.text, takeBytes_append]

end Stands

theorem scan?_eq (s : String) : scan? s = some (Numeral.leadingText s) := by
  have hstart := (Stands.start (trimLeft s.toList)).afterSign
  have hpoint := hstart.afterDigits
  obtain ⟨stop, hfraction, hstop⟩ := hpoint.afterFraction?
  have hcut := hstop.afterExponent.cut?
  simp only [scan?, hstart.difference? hpoint, hfraction, hcut, Option.bind_eq_bind, Option.bind_some,
    ← byteLength_append, byteLength_eq_zero_iff]
  split
  · rename_i hnone
    rw [Numeral.leadingText_eq_empty_iff.mpr (Numeral.read?_of_no_digits rfl rfl rfl hnone)]
    rfl
  · rename_i hsome
    have hread : Numeral.read? (trimLeft s.toList) = _ := Numeral.read?_of_parts rfl rfl rfl hsome
    have htext := congrArg String.ofList (Numeral.toList_leadingText hread)
    rw [String.ofList_toList] at htext
    rw [htext]
    rfl

end Scanner

namespace Numeral

/-- What is taken of a text, without its leading blanks, is the longest of its beginnings in the grammar,
and nothing exactly when there is none. The letter of an exponent is left out where no exponent follows,
as in front of a sign without digits. The text can be cut behind it, and the scanner of bytes, which
cuts there, never gives up. -/
theorem leadingText_longest (s : String) :
    (leadingText s ≠ "" → Longest Pattern.numeral.matches' (trimLeft s.toList) (leadingText s).toList) ∧
      (leadingText s = "" ↔ ∀ x, x <+: trimLeft s.toList → x ∉ Pattern.numeral.matches') ∧
      (∀ x rest, trimLeft s.toList = x ++ rest → x ∈ Pattern.mantissa.matches' →
        (∀ c ∈ rest.head?, c = 'e' ∨ c = 'E') → (∀ y, y <+: rest → y ∉ Pattern.exponent.matches') →
        leadingText s = String.ofList x) ∧
      IsCut (String.ofList (trimLeft s.toList)) (leadingText s).utf8ByteSize ∧
      Scanner.scan? s = some (leadingText s) := by
  refine ⟨fun hne => ?_, ?_, fun x rest htext hx hletter hrest => ?_, ?_, Scanner.scan?_eq s⟩
  · obtain ⟨⟨n, rest⟩, hread⟩ := Option.ne_none_iff_exists'.mp (mt leadingText_eq_empty_iff.mpr hne)
    rw [toList_leadingText hread]
    exact longest_of_read? hread
  · rw [leadingText_eq_empty_iff, read?_eq_none_iff]
  · obtain ⟨n, hread, rfl⟩ := read?_of_no_exponent hx hletter hrest
    rw [← htext] at hread
    rw [← String.toList_inj, toList_leadingText hread, String.toList_ofList]
  · obtain ⟨rest, htext⟩ := leadingText_begins s
    rw [utf8ByteSize_eq]
    exact isCut_of_append _ rest (by rw [String.toList_ofList, htext])

/-- The digit behind the sign of the exponent is none of ASCII. -/
theorem leadingText_longest_unfinished :
    leadingText "\u2003-5.e+\u0663" ≠ "" ∧
      Longest Pattern.numeral.matches' "-5.e+\u0663".toList "-5.".toList ∧
      (∀ y, y <+: "e+\u0663".toList → y ∉ Pattern.exponent.matches') ∧
      leadingText "\u2003-5.e+\u0663" = String.ofList "-5.".toList ∧
      Scanner.scan? "\u2003-5.e+\u0663" = some "-5." := by
  have htext : leadingText "\u2003-5.e+\u0663" = "-5." := by decide
  have hne : leadingText "\u2003-5.e+\u0663" ≠ "" := by decide
  have hbegins : ∀ y ∈ "e+\u0663".toList.inits, y ∉ Pattern.exponent.matches' := by decide
  have hexponent : ∀ y, y <+: "e+\u0663".toList → y ∉ Pattern.exponent.matches' :=
    fun y hy => hbegins y ((List.mem_inits y _).mpr hy)
  have hletter : ∀ c ∈ "e+\u0663".toList.head?, c = 'e' ∨ c = 'E' := by
    rintro c ⟨⟩
    exact .inl rfl
  obtain ⟨hlongest, -, hleft, -, hscan⟩ := leadingText_longest "\u2003-5.e+\u0663"
  refine ⟨hne, ?_, hexponent, ?_, ?_⟩
  · have h := hlongest hne
    rwa [htext] at h
  · exact hleft "-5.".toList "e+\u0663".toList (by decide) (by decide) hletter hexponent
  · rw [hscan, htext]

end Numeral

end QueryTemplate
