import Mathlib.Algebra.GroupWithZero.Nat
import QueryTemplate.Proofs.Stages

/-!
# Markup is conserved

Every question mark and brace of a template is markup, and none of it is
written. So the ones in what is built are those of the texts that are put in,
one by one and in order (`filter_meaning`), and joining the line drops none.
-/

namespace QueryTemplate

def isMarkup (c : Char) : Bool := c == '?' || isBrace c

/-- The texts that are put in: those of the placeholders that are neither skipped nor in a fragment
with a skip. -/
def Template.texts (t : Template) (rs : List Rendering) : List String :=
  (QueryTemplate.remaining Rendering.isSkip t.fragments (t.placeholders.zip rs)).filterMap fun x => x.2.sql?

theorem isMarkup_eq_false {c : Char} : isMarkup c = false ↔ c ≠ '?' ∧ isBrace c = false := by
  simp [isMarkup]

theorem isBlank_of_isMarkup {c : Char} (h : isMarkup c = true) : isBlank c = false := by
  simp only [isMarkup, isBrace, Bool.or_eq_true, beq_iff_eq] at h
  rcases h with rfl | rfl | rfl <;> decide

/-! ## Joining a line -/

theorem filter_squeeze {p : Char → Bool} (hp : ∀ c, p c = true → isBlank c = false) (begun owed : Bool)
    (cs : List Char) : (squeeze begun owed cs).filter p = cs.filter p := by
  have hblank : ∀ c, isBlank c = true → p c = false := by
    intro c hc
    by_cases h : p c = true
    · rw [hp c h] at hc
      cases hc
    · simpa using h
  have hspace : p ' ' = false := hblank ' ' (by decide)
  induction cs generalizing begun owed with
  | nil => rfl
  | cons c cs ih =>
    by_cases hc : isBlank c = true
    · simp [squeeze, hc, hblank c hc, ih]
    · have hc : isBlank c = false := by simpa using hc
      by_cases ho : (begun && owed) = true
      · simp [squeeze_cons hc, ho, hspace, List.filter_cons, ih]
      · simp [squeeze_cons hc, ho, List.filter_cons, ih]

theorem filter_normalise {p : Char → Bool} (hp : ∀ c, p c = true → isBlank c = false) (cs : List Char) :
    (normalise cs).filter p = cs.filter p := by
  rw [← squeeze_start false, filter_squeeze hp]

/-! ## Reading a template -/

theorem filter_stretch {cs : List Char} (hcs : Unbraced cs) {rs : List Rendering} (hlen : rs.length = cs.count '?') :
    (meaning cs rs).filter isMarkup = (rs.flatMap Rendering.chars).filter isMarkup := by
  induction cs using tag_induction generalizing rs with
  | nil =>
    obtain rfl := List.eq_nil_of_length_eq_zero hlen
    rw [meaning]
    rfl
  | char c cs hm ih =>
    obtain ⟨hc, hcs⟩ := unbraced_cons.mp hcs
    rw [List.count_cons_of_ne hm] at hlen
    rw [meaning_char hc hm, List.filter_cons_of_neg (by simp [isMarkup_eq_false.mpr ⟨hm, hc⟩]), ih hcs hlen]
  | mark cs ih =>
    obtain ⟨-, hcs⟩ := unbraced_cons.mp hcs
    cases rs with
    | nil => simp at hlen
    | cons r rs =>
      have hrs : rs.length = (afterTag cs).count '?' := by
        rw [count_afterTag]
        simpa using hlen
      rw [meaning_mark, List.filter_append, ih (unbraced_afterTag hcs) hrs, List.flatMap_cons, List.filter_append]

theorem filter_braced {body : List Char} (hb : Unbraced body) (rest : List Char) {ys : List Filled}
    (hlen : ys.length = body.count '?') (rs : List Rendering) :
    (meaning (braced body ++ rest) (ys.map Prod.snd ++ rs)).filter isMarkup =
      ((if ys.any fun y => y.2.isSkip then [] else ys).flatMap fun y => y.2.chars).filter isMarkup ++
        (meaning rest rs).filter isMarkup := by
  have hspace : isMarkup ' ' = false := by decide
  have hany : (ys.map Prod.snd).any Rendering.isSkip = ys.any fun y => y.2.isSkip := List.any_map
  have hcount : (ys.map Prod.snd).length = body.count '?' := by rwa [List.length_map]
  rw [meaning_braced hb rest hcount, hany, List.filter_append]
  by_cases hs : (ys.any fun y => y.2.isSkip) = true
  · simp [hs, hspace]
  · simp [hs, filter_stretch hb hcount, List.flatMap_map]

/-- **The markup in a meaning** is that of the renderings that remain, in order. -/
theorem Markup.filter_meaning {offset : Nat} {cs : List Char} {xs : List Filled} {fs : List Fragment}
    (h : Markup offset cs xs fs) :
    (meaning cs (xs.map Prod.snd)).filter isMarkup =
      ((remaining Rendering.isSkip fs xs).flatMap fun x => x.2.chars).filter isMarkup := by
  induction h with
  | plain hcs hs =>
    rw [remaining_nil, filter_stretch hcs (length_map_of_scan hs _), List.flatMap_map]
  | @fragment offset before body rest xs ys zs fs hb hx hi hy hm ih =>
    have hstarts : ∀ g ∈ fs, (fragmentAt (offset + byteLength before) body).span.stop ≤ g.span.start := hm.starts
    rw [(Markup.around hx hy hm).remaining hstarts, List.map_append, List.map_append,
      meaning_append_of_unbraced hb (tags_append (leadingTag_braced _ _) _) (length_map_of_scan hx _),
      List.filter_append, filter_stretch hb (length_map_of_scan hx _), filter_braced hi rest (length_of_scan_fst hy), ih]
    simp only [List.flatMap_append, List.filter_append, List.flatMap_map]

theorem flatMap_chars (xs : List Filled) :
    (xs.flatMap fun x => x.2.chars) = (xs.filterMap fun x => x.2.sql?).flatMap String.toList := by
  induction xs with
  | nil => rfl
  | cons x xs ih =>
    obtain ⟨p, r⟩ := x
    cases r with
    | sql text => exact congrArg (text.toList ++ ·) ih
    | skip => exact ih

/-! ## Building -/

section
variable (E : Escaper)

theorem filter_build {source : String} {t : Template} {args : List Arg} {rs : List Rendering}
    (h : Template.parse source = .ok t) (hrs : t.renderArgs E args = .ok rs) :
    (normalise (meaning source.toList rs)).filter isMarkup =
      ((t.texts rs).flatMap String.toList).filter isMarkup := by
  have hlen := length_of_renderArgs E hrs
  have hsnd : (t.placeholders.zip rs).map Prod.snd = rs := List.map_snd_zip (Nat.le_of_eq hlen)
  have hmeaning := (markup_of_parse h hlen).2.filter_meaning
  rw [hsnd, flatMap_chars] at hmeaning
  rw [filter_normalise fun _ => isBlank_of_isMarkup, hmeaning]
  rfl

/-- **No markup survives and none is lost**: the question marks and the braces in
what is built are those of the texts that are put in. -/
theorem markup_conserved {source sql : String} {args : List Arg} (h : build E source args = .ok sql) :
    ∃ t rs, Template.parse source = .ok t ∧ t.renderArgs E args = .ok rs ∧ ∀ c ∈ ['?', '\x7b', '\x7d'],
      sql.toList.count c = ((t.texts rs).map fun text => text.toList.count c).sum ∧
        ((∀ text ∈ t.texts rs, c ∉ text.toList) → c ∉ sql.toList) := by
  obtain ⟨t, rs, ht, hrs, rfl⟩ := build_eq_ok E h
  refine ⟨t, rs, ht, hrs, ?_⟩
  intro c hc
  have hmarkup : isMarkup c = true := by
    simp only [List.mem_cons, List.not_mem_nil, or_false] at hc
    rcases hc with rfl | rfl | rfl <;> rfl
  have hcount : (normalise (meaning source.toList rs)).count c =
      ((t.texts rs).map fun text => text.toList.count c).sum := by
    rw [← List.count_filter hmarkup, filter_build E ht hrs, List.count_filter hmarkup, List.count_flatMap]
    rfl
  rw [String.toList_ofList]
  refine ⟨hcount, ?_⟩
  intro hnone hmem
  have hmem : c ∈ (normalise (meaning source.toList rs)).filter isMarkup := List.mem_filter.mpr ⟨hmem, hmarkup⟩
  rw [filter_build E ht hrs] at hmem
  obtain ⟨text, htext, hc⟩ := List.mem_flatMap.mp (List.mem_filter.mp hmem).1
  exact hnone text htext hc

end

/-- Question marks and braces in the arguments, one of them in a fragment that is elided. -/
theorem markup_conserved_elided :
    ∃ t rs, Template.parse "a=? \x7bb=?d c=?\x7d ?#" = .ok t ∧
      t.renderArgs .mySql [.text "\x7b??", .skip, .text "?", .text "\x7d"] = .ok rs ∧ ∀ c ∈ ['?', '\x7b', '\x7d'],
        "a='\x7b??' \x60\x7d\x60".toList.count c = ((t.texts rs).map fun text => text.toList.count c).sum := by
  have hsql : build .mySql "a=? \x7bb=?d c=?\x7d ?#" [.text "\x7b??", .skip, .text "?", .text "\x7d"] =
      .ok "a='\x7b??' \x60\x7d\x60" := by decide
  obtain ⟨t, rs, ht, hrs, h⟩ := markup_conserved .mySql hsql
  exact ⟨t, rs, ht, hrs, fun c hc => (h c hc).1⟩

end QueryTemplate
