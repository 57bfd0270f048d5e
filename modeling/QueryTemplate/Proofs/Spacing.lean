import QueryTemplate.Proofs.Stages

/-!
# Spaces of a line

A line has no blank but single spaces between its words. These lines are the
texts that joining leaves as they are (`normalise_eq_self_iff`), and every SQL
that is built is one of them (`build_spaced`).
-/

namespace QueryTemplate

/-- Every blank is a space, and what follows it is no blank. -/
structure Spaced (cs : List Char) : Prop where
  last : ∀ c ∈ cs.getLast?, isBlank c = false
  space : ∀ c ∈ cs, isBlank c = true → c = ' '
  apart : ∀ before after, cs ≠ before ++ ' ' :: ' ' :: after

structure SingleSpaced (cs : List Char) : Prop extends Spaced cs where
  first : ∀ c ∈ cs.head?, isBlank c = false

theorem isBlank_space : isBlank ' ' = true := by decide

theorem ne_space {c : Char} (hc : isBlank c = false) : c ≠ ' ' := by
  rintro rfl
  rw [isBlank_space] at hc
  cases hc

/-! ## What is squeezed is spaced -/

theorem getLast?_squeeze (cs : List Char) : ∀ begun owed, ∀ c ∈ (squeeze begun owed cs).getLast?, isBlank c = false := by
  induction cs with
  | nil => simp [squeeze]
  | cons d cs ih =>
    intro begun owed
    by_cases hd : isBlank d = true
    · simp only [squeeze, hd, if_true]
      exact ih begun true
    · have hd : isBlank d = false := by simpa using hd
      intro c hc
      rw [squeeze_cons hd, List.getLast?_append, List.getLast?_cons, Option.some_or] at hc
      obtain rfl := Option.some.inj (Option.mem_def.mp hc)
      cases hlast : (squeeze true false cs).getLast? with
      | none => exact hd
      | some e => exact ih true false e hlast

theorem head?_squeeze_start (cs : List Char) : ∀ owed, ∀ c ∈ (squeeze false owed cs).head?, isBlank c = false := by
  induction cs with
  | nil => simp [squeeze]
  | cons d cs ih =>
    intro owed
    by_cases hd : isBlank d = true
    · simp only [squeeze, hd, if_true]
      exact ih true
    · simp [squeeze, hd]

/-- A space is written only before a character that is no blank. -/
theorem apart_squeeze (cs : List Char) :
    ∀ begun owed before after, squeeze begun owed cs ≠ before ++ ' ' :: ' ' :: after := by
  induction cs with
  | nil => simp [squeeze]
  | cons c cs ih =>
    intro begun owed
    by_cases hc : isBlank c = true
    · simp only [squeeze, hc, if_true]
      exact ih begun true
    · have hc : isBlank c = false := by simpa using hc
      have hsolid : ∀ before after, c :: squeeze true false cs ≠ before ++ ' ' :: ' ' :: after := by
        intro before after h
        cases before with
        | nil => exact ne_space hc (List.cons.inj h).1
        | cons d before => exact ih true false before after (List.cons.inj h).2
      rw [squeeze_cons hc]
      split
      · intro before after h
        cases before with
        | nil => exact ne_space hc (List.cons.inj (List.cons.inj h).2).1
        | cons d before => exact hsolid before after (List.cons.inj h).2
      · exact hsolid

theorem singleSpaced_normalise (cs : List Char) : SingleSpaced (normalise cs) := by
  rw [← squeeze_start false]
  exact {
    last := getLast?_squeeze cs false false
    space := fun c hc hb => eq_space_of_mem_squeeze hb hc
    apart := apart_squeeze cs false false
    first := head?_squeeze_start cs false }

/-! ## What is spaced is left as it is -/

theorem Spaced.tail {c : Char} {cs : List Char} (h : Spaced (c :: cs)) : Spaced cs where
  last := by
    intro d hd
    apply h.last
    rw [List.getLast?_cons, Option.mem_def.mp hd]
    rfl
  space := fun d hd => h.space d (List.mem_cons_of_mem c hd)
  apart := by
    rintro before after rfl
    exact h.apart (c :: before) after rfl

theorem Spaced.next {c : Char} {cs : List Char} (h : Spaced (c :: cs)) (hc : isBlank c = true) :
    c = ' ' ∧ ∃ d ds, cs = d :: ds ∧ isBlank d = false := by
  obtain rfl := h.space c (List.mem_cons_self ..) hc
  refine ⟨rfl, ?_⟩
  cases cs with
  | nil =>
    have hlast := h.last ' ' rfl
    rw [hc] at hlast
    cases hlast
  | cons d ds =>
    refine ⟨d, ds, rfl, ?_⟩
    rw [Bool.eq_false_iff]
    intro hd
    obtain rfl := h.space d (List.mem_cons_of_mem _ (List.mem_cons_self ..)) hd
    exact h.apart [] ds rfl

theorem Spaced.squeeze {cs : List Char} (h : Spaced cs) : squeeze true false cs = cs := by
  induction cs with
  | nil => rfl
  | cons c cs ih =>
    have ih := ih h.tail
    by_cases hc : isBlank c = true
    · -- The space is written before the next character, which the induction has read.
      obtain ⟨rfl, d, ds, rfl, hd⟩ := h.next hc
      rw [squeeze_cons hd] at ih
      rw [QueryTemplate.squeeze, if_pos hc, squeeze_cons hd]
      simpa using ih
    · have hc : isBlank c = false := by simpa using hc
      rw [squeeze_cons hc, ih]
      rfl

theorem normalise_eq_self_iff {cs : List Char} : normalise cs = cs ↔ SingleSpaced cs := by
  constructor
  · intro h
    rw [← h]
    exact singleSpaced_normalise cs
  · intro h
    rw [← squeeze_start false]
    cases cs with
    | nil => rfl
    | cons c cs =>
      rw [squeeze_cons (h.first c rfl), h.toSpaced.tail.squeeze]
      rfl

/-- **Joining segments** is joining the words of the text that they make, and a line
that has been built is not changed by joining it again. -/
theorem build_spaced :
    (∀ segments, joinSegments segments = normalise (segments.flatMap Segment.content)) ∧
    ∀ (E : Escaper) (source sql : String) (args : List Arg), build E source args = .ok sql →
      SingleSpaced sql.toList ∧ joinSegments [.text sql.toList] = sql.toList := by
  refine ⟨joinSegments_eq, ?_⟩
  intro E source sql args h
  obtain ⟨t, rs, -, -, rfl⟩ := build_eq_ok E h
  rw [String.toList_ofList]
  have hs := singleSpaced_normalise (meaning source.toList rs)
  refine ⟨hs, ?_⟩
  rw [joinSegments_eq, List.flatMap_singleton]
  exact normalise_eq_self_iff.mpr hs

/-- A line feed in a name, and a blank of three bytes next to an elided fragment. -/
theorem build_spaced_elided : SingleSpaced "a = `b c` d".toList := by
  have h : build .mySql " a\t= ?#\u3000\x7b?\x7d d " [.text "b\n c", .skip] = .ok "a = `b c` d" := by decide +kernel
  exact (build_spaced.2 _ _ _ _ h).1

end QueryTemplate
