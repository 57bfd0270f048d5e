import QueryTemplate.Proofs.Outcomes
import QueryTemplate.Template.Placeholder

/-!
# Tags of a text

At every question mark the scan takes the longest tag after it. What it finds
depends on the tags alone, so it can be cut in two wherever no tag goes on
(`scan_append`), and it fails at the first tag that is no kind
(`scan_eq_error_iff`).
-/

namespace QueryTemplate

def tags : List Char → List (List Char)
  | [] => []
  | c :: cs => if c = '?' then leadingTag cs :: tags cs else tags cs

def kinds (cs : List Char) : List Kind := (tags cs).filterMap Kind.ofTag?

/-- Every question mark begins a placeholder. -/
def WellTagged (cs : List Char) : Prop := ∀ tag ∈ tags cs, Kind.ofTag? tag ≠ none

def afterTag (cs : List Char) : List Char := cs.dropWhile isTagChar

/-- The first question mark that begins no placeholder is between `before` and `after`. -/
structure FirstMalformed (cs before after : List Char) : Prop where
  here : cs = before ++ '?' :: after
  malformed : Kind.ofTag? (leadingTag after) = none
  first : ∀ pre post, cs = pre ++ '?' :: post → pre.length < before.length →
    Kind.ofTag? (leadingTag post) ≠ none

theorem isTagChar_mark : isTagChar '?' = false := by decide

theorem utf8Size_mark : Char.utf8Size '?' = 1 := by decide

theorem leadingTag_append_afterTag (cs : List Char) : leadingTag cs ++ afterTag cs = cs :=
  List.takeWhile_append_dropWhile

theorem isTagChar_of_mem_leadingTag {c : Char} {cs : List Char} (h : c ∈ leadingTag cs) : isTagChar c = true :=
  List.all_eq_true.mp (List.all_takeWhile (p := isTagChar)) c h

theorem ne_mark_of_mem_leadingTag {c : Char} {cs : List Char} (h : c ∈ leadingTag cs) : c ≠ '?' := by
  rintro rfl
  exact absurd (isTagChar_of_mem_leadingTag h) (by simp [isTagChar_mark])

/-- A text is read character by character, and each question mark with its tag. -/
theorem tag_induction {P : List Char → Prop} (nil : P []) (char : ∀ c cs, c ≠ '?' → P cs → P (c :: cs))
    (mark : ∀ cs, P (afterTag cs) → P ('?' :: cs)) : ∀ cs, P cs
  | [] => nil
  | c :: cs => by
    by_cases hc : c = '?'
    · subst hc
      exact mark cs (tag_induction nil char mark (afterTag cs))
    · exact char c cs hc (tag_induction nil char mark cs)
termination_by cs => cs.length
decreasing_by
  · exact Nat.lt_succ_of_le (List.dropWhile_sublist _).length_le
  · exact Nat.lt_succ_self _

theorem leadingTag_append {ys : List Char} (hy : leadingTag ys = []) (xs : List Char) :
    leadingTag (xs ++ ys) = leadingTag xs := by
  unfold leadingTag at *
  rw [List.takeWhile_append, hy]
  split
  · rename_i h
    rw [List.append_nil]
    exact ((List.takeWhile_prefix isTagChar).eq_of_length h).symm
  · rfl

theorem afterTag_append {xs ys : List Char} (hcut : leadingTag (xs ++ ys) = leadingTag xs) :
    afterTag (xs ++ ys) = afterTag xs ++ ys := by
  have h := leadingTag_append_afterTag (xs ++ ys)
  rw [hcut] at h
  refine List.append_cancel_left (h.trans ?_)
  rw [← List.append_assoc, leadingTag_append_afterTag]

theorem tags_append {ys : List Char} (hy : leadingTag ys = []) (xs : List Char) :
    tags (xs ++ ys) = tags xs ++ tags ys := by
  induction xs with
  | nil => rfl
  | cons c xs ih =>
    by_cases hc : c = '?'
    · simp [tags, hc, ih, leadingTag_append hy]
    · simp [tags, hc, ih]

theorem tags_skip {xs : List Char} (hx : ∀ c ∈ xs, c ≠ '?') (ys : List Char) : tags (xs ++ ys) = tags ys := by
  induction xs with
  | nil => rfl
  | cons c xs ih =>
    obtain ⟨hc, hx⟩ := List.forall_mem_cons.mp hx
    rw [List.cons_append, tags, if_neg hc, ih hx]

theorem tags_afterTag (cs : List Char) : tags (afterTag cs) = tags cs := by
  rw [← tags_skip fun _ => ne_mark_of_mem_leadingTag, leadingTag_append_afterTag]

theorem length_tags (cs : List Char) : (tags cs).length = cs.count '?' := by
  induction cs with
  | nil => rfl
  | cons c cs ih =>
    by_cases hc : c = '?'
    · simp [tags, hc, ih]
    · simp [tags, hc, ih]

/-- The last tags of a text are those of its end, whatever is put in front of it. -/
theorem tags_of_append {xs ys : List Char} {ts us : List (List Char)} (h : tags (xs ++ ys) = ts ++ us)
    (hlen : ts.length = xs.count '?') : tags ys = us := by
  induction xs generalizing ts with
  | nil =>
    obtain rfl := List.eq_nil_of_length_eq_zero hlen
    exact h
  | cons c xs ih =>
    rw [List.cons_append, tags] at h
    by_cases hc : c = '?'
    · subst hc
      cases ts with
      | nil => simp at hlen
      | cons t ts =>
        simp only [if_true, List.cons_append, List.cons.injEq] at h
        exact ih h.2 (by simpa using hlen)
    · rw [if_neg hc] at h
      rw [List.count_cons_of_ne hc] at hlen
      exact ih h hlen

theorem tags_eq_map_kinds {cs : List Char} (h : WellTagged cs) : tags cs = (kinds cs).map Kind.tag := by
  unfold WellTagged at h
  unfold kinds
  generalize tags cs = ts at h
  induction ts with
  | nil => rfl
  | cons t ts ih =>
    obtain ⟨ht, hts⟩ := List.forall_mem_cons.mp h
    obtain ⟨k, hk⟩ := Option.ne_none_iff_exists'.mp ht
    rw [List.filterMap_cons_some hk, List.map_cons, ← ih hts, ← Kind.ofTag?_eq_some_iff.mp hk]

theorem kinds_append {ys : List Char} (hy : leadingTag ys = []) (xs : List Char) :
    kinds (xs ++ ys) = kinds xs ++ kinds ys := by
  rw [kinds, tags_append hy, List.filterMap_append]
  rfl

theorem wellTagged_append {ys : List Char} (hy : leadingTag ys = []) {xs : List Char} :
    WellTagged (xs ++ ys) ↔ WellTagged xs ∧ WellTagged ys := by
  simp [WellTagged, tags_append hy, or_imp, forall_and]

namespace Placeholder

/-! ## Cutting the scan -/

theorem scan_skip {xs : List Char} (hx : ∀ c ∈ xs, c ≠ '?') (offset : Nat) (ys : List Char) :
    scan offset (xs ++ ys) = scan (offset + byteLength xs) ys := by
  induction xs generalizing offset with
  | nil => rfl
  | cons c xs ih =>
    have hc : c ≠ '?' := hx c (List.mem_cons_self ..)
    rw [List.cons_append, scan, if_neg hc, ih fun d hd => hx d (List.mem_cons_of_mem _ hd), byteLength,
      Nat.add_assoc]

theorem scan_tag (offset : Nat) (cs : List Char) :
    scan offset cs = scan (offset + byteLength (leadingTag cs)) (afterTag cs) := by
  rw [← scan_skip fun _ => ne_mark_of_mem_leadingTag, leadingTag_append_afterTag]

theorem at?_append {ys : List Char} (hy : leadingTag ys = []) (offset : Nat) (xs : List Char) :
    at? offset (xs ++ ys) = at? offset xs := by
  rw [at?, leadingTag_append hy]
  rfl

theorem scan_append {ys : List Char} (hy : leadingTag ys = []) (offset : Nat) (xs : List Char) :
    scan offset (xs ++ ys) = (do
      let ps ← scan offset xs
      let qs ← scan (offset + byteLength xs) ys
      return ps ++ qs) := by
  induction xs generalizing offset with
  | nil =>
    have h0 : byteLength [] = 0 := rfl
    rw [List.nil_append, h0, Nat.add_zero]
    cases scan offset ys <;> rfl
  | cons c xs ih =>
    by_cases hc : c = '?'
    · subst hc
      rw [List.cons_append, scan, if_pos rfl, at?_append hy, ih, scan, if_pos rfl, byteLength, utf8Size_mark,
        Nat.add_assoc]
      simp
    · rw [List.cons_append, scan, if_neg hc, ih, scan, if_neg hc, byteLength, Nat.add_assoc]

/-! ## What the scan finds -/

theorem at?_eq_ok_iff {offset : Nat} {cs : List Char} {p : Placeholder} :
    at? offset cs = .ok p ↔
      leadingTag cs = p.kind.tag ∧ p.span = ⟨offset, offset + 1 + byteLength (leadingTag cs)⟩ := by
  obtain ⟨span, kind⟩ := p
  simp only [at?]
  cases hk : Kind.ofTag? (leadingTag cs) with
  | none =>
    refine ⟨fun h => by simp at h, fun ⟨ht, _⟩ => ?_⟩
    rw [Kind.ofTag?_eq_some_iff.mpr ht] at hk
    cases hk
  | some k =>
    have hkt := Kind.ofTag?_eq_some_iff.mp hk
    refine ⟨fun h => ?_, fun ⟨ht, hs⟩ => ?_⟩
    · obtain ⟨rfl, rfl⟩ := Placeholder.mk.inj (Except.ok.inj h)
      exact ⟨hkt, rfl⟩
    · have hkk : some k = some kind := by rw [← hk, Kind.ofTag?_eq_some_iff.mpr ht]
      rw [Option.some.inj hkk, hs]

theorem at?_of_kind {cs : List Char} {k : Kind} (hk : Kind.ofTag? (leadingTag cs) = some k) (offset : Nat) :
    at? offset cs = .ok ⟨⟨offset, offset + 1 + byteLength (leadingTag cs)⟩, k⟩ :=
  at?_eq_ok_iff.mpr ⟨Kind.ofTag?_eq_some_iff.mp hk, rfl⟩

theorem scan_cons_eq_ok {c : Char} {cs : List Char} {offset : Nat} {ps : List Placeholder}
    (h : scan offset (c :: cs) = .ok ps) :
    (c ≠ '?' ∧ scan (offset + c.utf8Size) cs = .ok ps) ∨
      (c = '?' ∧ ∃ p qs, at? offset cs = .ok p ∧ scan (offset + 1) cs = .ok qs ∧ ps = p :: qs) := by
  rw [scan] at h
  split at h
  · rename_i hc
    obtain ⟨p, hp, h⟩ := bind_eq_ok h
    obtain ⟨qs, hq, h⟩ := bind_eq_ok h
    exact .inr ⟨hc, p, qs, hp, hq, (Except.ok.inj h).symm⟩
  · rename_i hc
    exact .inl ⟨hc, h⟩

theorem map_kind_of_scan {cs : List Char} {offset : Nat} {ps : List Placeholder} (h : scan offset cs = .ok ps) :
    ps.map (·.kind) = kinds cs ∧ WellTagged cs := by
  induction cs generalizing offset ps with
  | nil =>
    cases h
    exact ⟨rfl, fun tag ht => (List.not_mem_nil ht).elim⟩
  | cons c cs ih =>
    rcases scan_cons_eq_ok h with ⟨hc, h⟩ | ⟨rfl, p, qs, hp, hq, rfl⟩
    · obtain ⟨hk, ht⟩ := ih h
      simp only [kinds, WellTagged, tags, if_neg hc]
      exact ⟨hk, ht⟩
    · obtain ⟨hk, ht⟩ := ih hq
      have hp := Kind.ofTag?_eq_some_iff.mpr (at?_eq_ok_iff.mp hp).1
      simp only [kinds, WellTagged, tags, if_true, List.filterMap_cons, hp, List.map_cons]
      refine ⟨by rw [hk]; rfl, fun tag htag => ?_⟩
      rcases List.mem_cons.mp htag with rfl | htag
      · simp [hp]
      · exact ht tag htag

theorem scan_eq_ok {cs : List Char} (h : WellTagged cs) (offset : Nat) : ∃ ps, scan offset cs = .ok ps := by
  induction cs generalizing offset with
  | nil => exact ⟨[], rfl⟩
  | cons c cs ih =>
    by_cases hc : c = '?'
    · simp only [WellTagged, tags, if_pos hc] at h
      obtain ⟨qs, hq⟩ := ih (fun tag ht => h tag (List.mem_cons_of_mem _ ht)) (offset + 1)
      obtain ⟨k, hk⟩ := Option.ne_none_iff_exists'.mp (h _ (List.mem_cons_self ..))
      refine ⟨⟨⟨offset, offset + 1 + byteLength (leadingTag cs)⟩, k⟩ :: qs, ?_⟩
      rw [scan, if_pos hc, hq, at?_of_kind hk]
      rfl
    · simp only [WellTagged, tags, if_neg hc] at h
      obtain ⟨ps, hps⟩ := ih h (offset + c.utf8Size)
      exact ⟨ps, by rw [scan, if_neg hc, hps]⟩

theorem length_of_scan {cs : List Char} {offset : Nat} {ps : List Placeholder} (h : scan offset cs = .ok ps) :
    ps.length = cs.count '?' := by
  induction cs generalizing offset ps with
  | nil => cases h; rfl
  | cons c cs ih =>
    rcases scan_cons_eq_ok h with ⟨hc, h⟩ | ⟨rfl, p, qs, -, hq, rfl⟩
    · rw [ih h, List.count_cons_of_ne hc]
    · rw [List.length_cons, ih hq, List.count_cons_self]

theorem span_of_scan {cs : List Char} {offset : Nat} {ps : List Placeholder} (h : scan offset cs = .ok ps) :
    ∀ p ∈ ps, offset ≤ p.span.start ∧ p.span.start < p.span.stop ∧ p.span.stop ≤ offset + byteLength cs := by
  induction cs generalizing offset ps with
  | nil =>
    cases h
    exact fun p hp => (List.not_mem_nil hp).elim
  | cons c cs ih =>
    intro p hp
    rcases scan_cons_eq_ok h with ⟨hc, h⟩ | ⟨rfl, q, qs, hq, hqs, rfl⟩
    · have := ih h p hp
      simp only [byteLength]
      omega
    · simp only [byteLength, utf8Size_mark]
      rcases List.mem_cons.mp hp with rfl | hp
      · have htag : byteLength (leadingTag cs) ≤ byteLength cs := by
          have := congrArg byteLength (leadingTag_append_afterTag cs)
          rw [byteLength_append] at this
          omega
        rw [(at?_eq_ok_iff.mp hq).2]
        simp only
        omega
      · have := ih hqs p hp
        omega

end Placeholder

theorem length_kinds {cs : List Char} (h : WellTagged cs) : (kinds cs).length = cs.count '?' := by
  obtain ⟨ps, hs⟩ := Placeholder.scan_eq_ok h 0
  rw [← (Placeholder.map_kind_of_scan hs).1, List.length_map, Placeholder.length_of_scan hs]

/-! ## Where the scan fails -/

theorem mem_tags {tag cs : List Char} :
    tag ∈ tags cs ↔ ∃ pre post, cs = pre ++ '?' :: post ∧ tag = leadingTag post := by
  induction cs with
  | nil => simp [tags]
  | cons c cs ih =>
    have hcons : (∃ pre post, c :: cs = pre ++ '?' :: post ∧ tag = leadingTag post) ↔
        (c = '?' ∧ tag = leadingTag cs) ∨ tag ∈ tags cs := by
      rw [ih]
      constructor
      · rintro ⟨_ | ⟨d, pre⟩, post, h, rfl⟩
        · obtain ⟨rfl, rfl⟩ := List.cons.inj h
          exact .inl ⟨rfl, rfl⟩
        · exact .inr ⟨pre, post, (List.cons.inj h).2, rfl⟩
      · rintro (⟨rfl, rfl⟩ | ⟨pre, post, rfl, rfl⟩)
        · exact ⟨[], cs, rfl, rfl⟩
        · exact ⟨c :: pre, post, rfl, rfl⟩
    rw [hcons]
    by_cases hc : c = '?'
    · simp [tags, hc]
    · simp [tags, hc]

theorem FirstMalformed.not_wellTagged {cs before after : List Char} (h : FirstMalformed cs before after) :
    ¬ WellTagged cs :=
  fun ht => ht _ (mem_tags.mpr ⟨before, after, h.here, rfl⟩) h.malformed

theorem FirstMalformed.length_le {cs before after before' after' : List Char}
    (h : FirstMalformed cs before after) (h' : FirstMalformed cs before' after') :
    before'.length ≤ before.length :=
  Nat.le_of_not_lt fun hlt => h'.first before after h.here hlt h.malformed

theorem FirstMalformed.unique {cs before after before' after' : List Char}
    (h : FirstMalformed cs before after) (h' : FirstMalformed cs before' after') :
    before = before' ∧ after = after' := by
  have hlen : before.length = before'.length := Nat.le_antisymm (h'.length_le h) (h.length_le h')
  obtain ⟨rfl, ha⟩ := List.append_inj (h.here.symm.trans h'.here) hlen
  exact ⟨rfl, (List.cons.inj ha).2⟩

theorem FirstMalformed.cons {c : Char} {cs before after : List Char} (h : FirstMalformed cs before after)
    (hc : c = '?' → Kind.ofTag? (leadingTag cs) ≠ none) : FirstMalformed (c :: cs) (c :: before) after where
  here := by rw [h.here, List.cons_append]
  malformed := h.malformed
  first
    | [], post, hp, _ => by
      obtain ⟨hc', rfl⟩ := List.cons.inj hp
      exact hc hc'
    | d :: pre, post, hp, hlt => h.first pre post (List.cons.inj hp).2 (Nat.lt_of_succ_lt_succ hlt)

theorem Placeholder.firstMalformed_of_scan {cs : List Char} {offset : Nat} {e : TemplateError}
    (h : scan offset cs = .error e) :
    ∃ before after, FirstMalformed cs before after ∧
      e = .invalidPlaceholder (String.ofList ('?' :: leadingTag after)) (offset + byteLength before) := by
  induction cs generalizing offset e with
  | nil => cases h
  | cons c cs ih =>
    by_cases hc : c = '?'
    · subst hc
      cases hk : Kind.ofTag? (leadingTag cs) with
      | none =>
        refine ⟨[], cs, ⟨rfl, hk, fun _ _ _ hlt => (Nat.not_lt_zero _ hlt).elim⟩, ?_⟩
        simp only [scan, at?, hk, if_true] at h
        exact (Except.error.inj h).symm
      | some k =>
        rw [scan, if_pos rfl, at?_of_kind hk] at h
        cases hq : scan (offset + 1) cs with
        | ok qs => rw [hq] at h; cases h
        | error e' =>
          rw [hq] at h
          obtain ⟨before, after, hf, rfl⟩ := ih hq
          refine ⟨'?' :: before, after, hf.cons fun _ => by simp [hk], ?_⟩
          rw [byteLength, utf8Size_mark, ← Nat.add_assoc]
          exact (Except.error.inj h).symm
    · rw [scan, if_neg hc] at h
      obtain ⟨before, after, hf, rfl⟩ := ih h
      exact ⟨c :: before, after, hf.cons fun h => (hc h).elim, by rw [byteLength, Nat.add_assoc]⟩

theorem Placeholder.scan_eq_error_iff {cs : List Char} {offset : Nat} {e : TemplateError} :
    scan offset cs = .error e ↔ ∃ before after, FirstMalformed cs before after ∧
      e = .invalidPlaceholder (String.ofList ('?' :: leadingTag after)) (offset + byteLength before) := by
  refine ⟨firstMalformed_of_scan, ?_⟩
  rintro ⟨before, after, hf, rfl⟩
  cases hs : scan offset cs with
  | ok ps => exact (hf.not_wellTagged (map_kind_of_scan hs).2).elim
  | error e =>
    obtain ⟨before', after', hf', rfl⟩ := firstMalformed_of_scan hs
    obtain ⟨rfl, rfl⟩ := hf.unique hf'
    rfl

end QueryTemplate
