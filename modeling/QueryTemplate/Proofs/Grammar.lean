import Mathlib.Computability.RegularExpressions
import QueryTemplate.Proofs.Numerals

/-!
# The grammar of numerals

The grammar is a regular expression (`Pattern.numeral`), and its words are the
texts of the well-formed numerals (`Pattern.mem_numeral`). A numeral that a text
begins with is part of the one that is read (`Numeral.WellFormed.read?_append`):
reading stops inside of no word of the grammar. So what is read is the longest of them.
-/

namespace QueryTemplate

open RegularExpression (char)

/-! ## Regular expressions -/

namespace Pattern

def oneOf (cs : List Char) : RegularExpression Char := (cs.map char).sum

def optional (P : RegularExpression Char) : RegularExpression Char := P + 1

def repeated (P : RegularExpression Char) : RegularExpression Char := P * P.star

def digit : RegularExpression Char := oneOf ['0', '1', '2', '3', '4', '5', '6', '7', '8', '9']

def sign : RegularExpression Char := oneOf ['+', '-']

def fraction : RegularExpression Char := char '.' * digit.star

def exponent : RegularExpression Char := oneOf ['e', 'E'] * optional sign * repeated digit

def decimal : RegularExpression Char := repeated digit * optional fraction + char '.' * repeated digit

def mantissa : RegularExpression Char := optional sign * decimal

def numeral : RegularExpression Char := mantissa * optional exponent

theorem mem_oneOf {cs x : List Char} : x ∈ (oneOf cs).matches' ↔ ∃ c ∈ cs, x = [c] := by
  induction cs with
  | nil => simp [oneOf, RegularExpression.matches'_zero, Language.notMem_zero]
  | cons c cs ih =>
    have hsum : oneOf (c :: cs) = char c + oneOf cs := by simp [oneOf]
    have hchar : x ∈ (char c).matches' ↔ x = [c] := Iff.rfl
    rw [hsum, RegularExpression.matches'_add, Language.mem_add, hchar, ih]
    simp

section
variable {P : RegularExpression Char} {p : Char → Prop} (h : ∀ x, x ∈ P.matches' ↔ ∃ c, p c ∧ x = [c])
include h

theorem mem_star {x : List Char} : x ∈ P.star.matches' ↔ ∀ c ∈ x, p c := by
  rw [RegularExpression.matches'_star, Language.mem_kstar]
  constructor
  · rintro ⟨words, rfl, hwords⟩ c hc
    obtain ⟨word, hword, hc⟩ := List.mem_flatten.mp hc
    obtain ⟨d, hd, rfl⟩ := (h word).mp (hwords word hword)
    rwa [List.mem_singleton.mp hc]
  · intro hx
    refine ⟨x.map fun c => [c], ?_, ?_⟩
    · rw [← List.flatMap_def, List.flatMap_singleton']
    · intro word hword
      obtain ⟨c, hc, rfl⟩ := List.mem_map.mp hword
      exact (h [c]).mpr ⟨c, hx c hc, rfl⟩

theorem mem_repeated {x : List Char} : x ∈ (repeated P).matches' ↔ x ≠ [] ∧ ∀ c ∈ x, p c := by
  rw [repeated, RegularExpression.matches'_mul, Language.mem_mul]
  constructor
  · rintro ⟨word, hword, cs, hcs, rfl⟩
    obtain ⟨c, hc, rfl⟩ := (h word).mp hword
    exact ⟨List.cons_ne_nil c cs, List.forall_mem_cons.mpr ⟨hc, (mem_star h).mp hcs⟩⟩
  · rintro ⟨hne, hx⟩
    obtain ⟨c, cs, rfl⟩ := List.exists_cons_of_ne_nil hne
    obtain ⟨hc, hcs⟩ := List.forall_mem_cons.mp hx
    exact ⟨[c], (h [c]).mpr ⟨c, hc, rfl⟩, cs, (mem_star h).mpr hcs, rfl⟩

end

/-- A regular expression for parts that are written by `f` is for parts that may be left out as well. -/
theorem mem_optional {α : Type} {P : RegularExpression Char} {Q : α → Prop} {f : α → List Char}
    (h : ∀ x, x ∈ P.matches' ↔ ∃ a, Q a ∧ x = f a) {x : List Char} :
    x ∈ (optional P).matches' ↔ ∃ o : Option α, (∀ a ∈ o, Q a) ∧ x = o.elim [] f := by
  rw [optional, RegularExpression.matches'_add, Language.mem_add, RegularExpression.matches'_epsilon,
    Language.mem_one, h]
  constructor
  · rintro (⟨a, ha, rfl⟩ | rfl)
    · exact ⟨some a, by simpa using ha, rfl⟩
    · exact ⟨none, by simp, rfl⟩
  · rintro ⟨_ | a, ha, rfl⟩
    · exact .inr rfl
    · exact .inl ⟨a, ha a rfl, rfl⟩

/-! ## The parts of a numeral -/

theorem mem_digit (x : List Char) : x ∈ digit.matches' ↔ ∃ c : Char, c.isDigit = true ∧ x = [c] := by
  have hdigit : ∀ c : Char, c ∈ ['0', '1', '2', '3', '4', '5', '6', '7', '8', '9'] ↔ c.isDigit = true := by
    intro c
    rw [Char.isDigit_iff_toNat]
    simp only [List.mem_cons, ← Char.toNat_inj, List.not_mem_nil, or_false, Char.reduceToNat]
    omega
  rw [digit, mem_oneOf]
  exact exists_congr fun c => and_congr_left' (hdigit c)

theorem mem_digits {x : List Char} : x ∈ (repeated digit).matches' ↔ Digits x := by
  rw [mem_repeated mem_digit]
  exact ⟨fun h => ⟨h.1, h.2⟩, fun h => ⟨h.ne, h.isDigit⟩⟩

theorem mem_sign (x : List Char) : x ∈ sign.matches' ↔ ∃ c, Numeral.isSign c = true ∧ x = [c] := by
  rw [sign, mem_oneOf]
  exact exists_congr fun c => and_congr_left' (by simp [Numeral.isSign_iff])

theorem mem_optional_sign {x : List Char} :
    x ∈ (optional sign).matches' ↔ ∃ o : Option Char, (∀ c ∈ o, Numeral.isSign c = true) ∧ x = o.toList := by
  rw [mem_optional mem_sign]
  refine exists_congr fun o => and_congr_right' ?_
  cases o <;> rfl

theorem mem_fraction (x : List Char) :
    x ∈ fraction.matches' ↔ ∃ ds, (∀ c ∈ ds, c.isDigit = true) ∧ x = '.' :: ds := by
  rw [fraction, RegularExpression.matches'_mul, Language.mem_mul]
  constructor
  · rintro ⟨_, rfl, ds, hds, rfl⟩
    exact ⟨ds, (mem_star mem_digit).mp hds, rfl⟩
  · rintro ⟨ds, hds, rfl⟩
    exact ⟨['.'], rfl, ds, (mem_star mem_digit).mpr hds, rfl⟩

theorem mem_exponent (x : List Char) : x ∈ exponent.matches' ↔ ∃ e : Numeral.Exponent, e.WellFormed ∧ x = e.text := by
  have hletter : ∀ y, y ∈ (oneOf ['e', 'E']).matches' ↔ ∃ c, (c = 'e' ∨ c = 'E') ∧ y = [c] := by
    intro y
    rw [mem_oneOf]
    exact exists_congr fun c => and_congr_left' (by simp)
  rw [exponent, RegularExpression.matches'_mul, RegularExpression.matches'_mul]
  simp only [Language.mem_mul]
  constructor
  · rintro ⟨_, ⟨_, hletters, _, hsigns, rfl⟩, ds, hds, rfl⟩
    obtain ⟨c, hc, rfl⟩ := (hletter _).mp hletters
    obtain ⟨s, hs, rfl⟩ := mem_optional_sign.mp hsigns
    exact ⟨⟨c, s, ds⟩, ⟨hc, hs, mem_digits.mp hds⟩, by simp [Numeral.Exponent.text]⟩
  · rintro ⟨e, he, rfl⟩
    refine ⟨[e.letter] ++ e.sign.toList, ⟨[e.letter], ?_, e.sign.toList, ?_, rfl⟩, e.digits, ?_, ?_⟩
    · exact (hletter _).mpr ⟨e.letter, he.letter, rfl⟩
    · exact mem_optional_sign.mpr ⟨e.sign, he.sign, rfl⟩
    · exact mem_digits.mpr he.digits
    · simp [Numeral.Exponent.text]

/-- Digits stand before the point, or else behind it. -/
theorem mem_decimal {x : List Char} :
    x ∈ decimal.matches' ↔ ∃ (whole : List Char) (frac : Option (List Char)),
      (∀ c ∈ whole, c.isDigit = true) ∧ (∀ ds ∈ frac, ∀ c ∈ ds, c.isDigit = true) ∧
        whole ++ frac.getD [] ≠ [] ∧ x = whole ++ frac.elim [] ('.' :: ·) := by
  rw [decimal, RegularExpression.matches'_add, RegularExpression.matches'_mul, RegularExpression.matches'_mul,
    Language.mem_add, Language.mem_mul, Language.mem_mul]
  constructor
  · rintro (⟨whole, hwhole, _, hoptional, rfl⟩ | ⟨_, rfl, ds, hds, rfl⟩)
    · have hdigits := mem_digits.mp hwhole
      obtain ⟨frac, hfrac, rfl⟩ := (mem_optional mem_fraction).mp hoptional
      exact ⟨whole, frac, hdigits.isDigit, hfrac, List.append_ne_nil_of_left_ne_nil hdigits.ne _, rfl⟩
    · have hdigits := mem_digits.mp hds
      exact ⟨[], some ds, by simp, by simpa using hdigits.isDigit, by simpa using hdigits.ne, rfl⟩
  · rintro ⟨whole, frac, hwhole, hfrac, hne, rfl⟩
    by_cases hw : whole = []
    · subst hw
      cases frac with
      | none => simp at hne
      | some ds => exact .inr ⟨['.'], rfl, ds, mem_digits.mpr ⟨by simpa using hne, hfrac ds rfl⟩, rfl⟩
    · exact .inl ⟨whole, mem_digits.mpr ⟨hw, hwhole⟩, _, (mem_optional mem_fraction).mpr ⟨frac, hfrac, rfl⟩, rfl⟩

theorem mem_mantissa {x : List Char} :
    x ∈ mantissa.matches' ↔ ∃ n : Numeral, n.WellFormed ∧ n.exponent = none ∧ x = n.mantissaText := by
  rw [mantissa, RegularExpression.matches'_mul, Language.mem_mul]
  constructor
  · rintro ⟨_, hsigns, _, hdecimal, rfl⟩
    obtain ⟨s, hs, rfl⟩ := mem_optional_sign.mp hsigns
    obtain ⟨whole, frac, hwhole, hfrac, hne, rfl⟩ := mem_decimal.mp hdecimal
    exact ⟨⟨s, whole, frac, none⟩, ⟨hs, hwhole, hfrac, hne, nofun⟩, rfl, by simp [Numeral.mantissaText]⟩
  · rintro ⟨n, hn, -, rfl⟩
    refine ⟨n.sign.toList, mem_optional_sign.mpr ⟨n.sign, hn.sign, rfl⟩, n.whole ++ n.fraction.elim [] ('.' :: ·), ?_, ?_⟩
    · exact mem_decimal.mpr ⟨n.whole, n.fraction, hn.whole, hn.fraction, hn.mantissa, rfl⟩
    · simp [Numeral.mantissaText]

/-- The words of the grammar are the texts of the well-formed numerals. -/
theorem mem_numeral {x : List Char} : x ∈ numeral.matches' ↔ ∃ n : Numeral, n.WellFormed ∧ x = n.text := by
  rw [numeral, RegularExpression.matches'_mul, Language.mem_mul]
  constructor
  · rintro ⟨_, hmantissa, _, hexponent, rfl⟩
    obtain ⟨n, hn, -, rfl⟩ := mem_mantissa.mp hmantissa
    obtain ⟨e, he, rfl⟩ := (mem_optional mem_exponent).mp hexponent
    exact ⟨{ n with exponent := e }, { hn with exponent := he }, rfl⟩
  · rintro ⟨n, hn, rfl⟩
    refine ⟨n.mantissaText, ?_, n.exponent.elim [] Numeral.Exponent.text, ?_, rfl⟩
    · exact mem_mantissa.mpr ⟨{ n with exponent := none }, { hn with exponent := nofun }, rfl, rfl⟩
    · exact (mem_optional mem_exponent).mpr ⟨n.exponent, hn.exponent, rfl⟩

end Pattern

/-! ## The longest numeral at the start of a text -/

structure Longest (L : Language Char) (cs x : List Char) : Prop where
  begins : x <+: cs
  mem : x ∈ L
  longest : ∀ y, y <+: cs → y ∈ L → y <+: x

namespace Numeral

theorem WellFormed.text_ne_nil {n : Numeral} (h : n.WellFormed) : n.text ≠ [] := by
  obtain ⟨c, cs, hhead, -⟩ := h.head?_mantissa (n.exponent.elim [] Exponent.text)
  rw [text_eq, mantissaText_append, hhead]
  simp

/-- Whatever follows a numeral, no less than the numeral is read. -/
theorem WellFormed.read?_append {n : Numeral} (h : n.WellFormed) (rest : List Char) :
    ∃ n' rest', read? (n.text ++ rest) = some (n', rest') ∧ n.text <+: n'.text := by
  obtain ⟨sign, whole, fraction, exponent⟩ := n
  rw [text_eq, List.append_assoc]
  -- Only the last part of the numeral can go on behind it.
  cases exponent with
  | some e =>
    have he : e.WellFormed := h.exponent e rfl
    have hletter : ∀ c ∈ (e.text ++ rest).head?, c = 'e' ∨ c = 'E' := by
      rintro _ ⟨⟩
      exact he.letter
    have hread := h.read?_mantissa hletter
    rw [he.readExponent_append] at hread
    refine ⟨_, _, hread, (splitDigits rest).1, ?_⟩
    simp [text, mantissaText, Exponent.text]
  | none =>
    have hsign := h.readSign_append rest
    cases fraction with
    | some ds =>
      have hwhole : splitDigits (whole ++ '.' :: (ds ++ rest)) = (whole, '.' :: (ds ++ rest)) := by
        refine splitDigits_of_append h.whole ?_
        rintro _ ⟨⟩
        rfl
      have hfraction : readFraction ('.' :: (ds ++ rest)) =
          (some (ds ++ (splitDigits rest).1), (splitDigits rest).2) := by
        rw [readFraction, splitDigits_digits_append (h.fraction ds rfl)]
      have hmantissa : whole ++ (ds ++ (splitDigits rest).1) ≠ [] := by
        rw [← List.append_assoc]
        exact List.append_ne_nil_of_left_ne_nil h.mantissa _
      refine ⟨_, _, read?_of_parts hsign hwhole hfraction hmantissa, ?_⟩
      simp [text, mantissaText]
    | none =>
      have hwhole := splitDigits_digits_append h.whole rest
      have hmantissa : whole ++ (splitDigits rest).1 ++ (readFraction (splitDigits rest).2).1.getD [] ≠ [] := by
        rw [List.append_assoc]
        exact List.append_ne_nil_of_left_ne_nil (by simpa using h.mantissa) _
      refine ⟨_, _, read?_of_parts hsign hwhole rfl hmantissa, ?_⟩
      simp [text, mantissaText]

theorem longest_of_read? {cs rest : List Char} {n : Numeral} (h : read? cs = some (n, rest)) :
    Longest Pattern.numeral.matches' cs n.text := by
  obtain ⟨htext, hn⟩ := read?_eq_some h
  refine ⟨⟨rest, htext⟩, Pattern.mem_numeral.mpr ⟨n, hn, rfl⟩, ?_⟩
  rintro y ⟨more, rfl⟩ hy
  obtain ⟨m, hm, rfl⟩ := Pattern.mem_numeral.mp hy
  obtain ⟨n', rest', hread, hle⟩ := hm.read?_append more
  rw [hread] at h
  cases h
  exact hle

theorem read?_eq_none_iff {cs : List Char} :
    read? cs = none ↔ ∀ x, x <+: cs → x ∉ Pattern.numeral.matches' := by
  constructor
  · rintro h x ⟨more, rfl⟩ hx
    obtain ⟨n, hn, rfl⟩ := Pattern.mem_numeral.mp hx
    obtain ⟨n', rest', hread, -⟩ := hn.read?_append more
    rw [h] at hread
    cases hread
  · intro h
    cases hread : read? cs with
    | none => rfl
    | some r =>
      have hlongest := longest_of_read? hread
      exact absurd hlongest.mem (h _ hlongest.begins)

theorem readExponent_of_none {cs : List Char} (h : ∀ x, x <+: cs → x ∉ Pattern.exponent.matches') :
    readExponent cs = (none, cs) := by
  have happend := readExponent_append cs
  cases he : (readExponent cs).1 with
  | none =>
    rw [he, Option.elim_none, List.nil_append] at happend
    exact Prod.ext he happend
  | some e =>
    rw [he, Option.elim_some] at happend
    have hwf : e.WellFormed := wellFormed_of_readExponent e (by rw [he]; rfl)
    exact absurd ((Pattern.mem_exponent _).mpr ⟨e, hwf, rfl⟩) (h _ ⟨_, happend⟩)

/-- Where no exponent follows, the letter of one is not read either. -/
theorem read?_of_no_exponent {x rest : List Char} (hx : x ∈ Pattern.mantissa.matches')
    (hletter : ∀ c ∈ rest.head?, c = 'e' ∨ c = 'E') (h : ∀ y, y <+: rest → y ∉ Pattern.exponent.matches') :
    ∃ n, read? (x ++ rest) = some (n, rest) ∧ n.text = x := by
  obtain ⟨n, hn, he, rfl⟩ := Pattern.mem_mantissa.mp hx
  have hread := hn.read?_mantissa hletter
  rw [readExponent_of_none h] at hread
  exact ⟨_, hread, by simp [text_eq, mantissaText]⟩

theorem toList_leadingText {s : String} {n : Numeral} {rest : List Char}
    (h : read? (trimLeft s.toList) = some (n, rest)) : (leadingText s).toList = n.text := by
  simp [leadingText, leading?, h]

theorem leadingText_eq_empty_iff {s : String} : leadingText s = "" ↔ read? (trimLeft s.toList) = none := by
  cases h : read? (trimLeft s.toList) with
  | none => simp [leadingText, leading?, h]
  | some r =>
    have hn := (read?_eq_some h).2.text_ne_nil
    rw [← String.toList_eq_nil_iff, toList_leadingText h]
    simp [hn]

theorem leadingText_begins (s : String) : (leadingText s).toList <+: trimLeft s.toList := by
  cases h : read? (trimLeft s.toList) with
  | none =>
    rw [leadingText_eq_empty_iff.mpr h]
    exact List.nil_prefix
  | some r =>
    rw [toList_leadingText h]
    exact (longest_of_read? h).begins

end Numeral

end QueryTemplate
