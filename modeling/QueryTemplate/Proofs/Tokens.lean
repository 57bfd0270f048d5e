import Mathlib.Data.List.Nodup
import QueryTemplate.Proofs.Tags

/-!
# Tokens of a text

A token is a question mark with all the tag characters that follow it. A search
that goes on behind each match finds the tokens of a text one after the other
(`scan_of_matches`). The scan returns a placeholder for each of them, or it
points at the first whose tag is unknown (`scan_exact`).
-/

namespace QueryTemplate

/-- The question mark behind `before` has the whole tag `tag`. -/
structure Token (cs before tag after : List Char) : Prop where
  here : cs = before ++ '?' :: (tag ++ after)
  run : ∀ c ∈ tag, isTagChar c = true
  stops : ∀ c ∈ after.head?, isTagChar c = false

def knownTags : List String := ["", "d", "f", "a", "#"]

structure FirstUnknown (cs before tag after : List Char) : Prop where
  token : Token cs before tag after
  unknown : String.ofList tag ∉ knownTags
  first : ∀ before' tag' after', Token cs before' tag' after' → before'.length < before.length →
    String.ofList tag' ∈ knownTags

/-! ## Searching -/

structure Match where
  offset : Nat
  tag : List Char

/-- The leftmost matches that do not overlap, each as long as it can be. -/
inductive Matches : Nat → List Char → List Match → Prop
  | done {offset cs} : (∀ c ∈ cs, c ≠ '?') → Matches offset cs []
  | found {offset skipped tag rest ms} : (∀ c ∈ skipped, c ≠ '?') → (∀ c ∈ tag, isTagChar c = true) →
      (∀ c ∈ rest.head?, isTagChar c = false) → Matches (offset + byteLength (skipped ++ '?' :: tag)) rest ms →
      Matches offset (skipped ++ '?' :: (tag ++ rest)) (⟨offset + byteLength skipped, tag⟩ :: ms)

def Match.placeholder (m : Match) : Except TemplateError Placeholder :=
  match Kind.ofTag? m.tag with
  | some kind => .ok ⟨⟨m.offset, m.offset + byteLength ('?' :: m.tag)⟩, kind⟩
  | none => .error (.invalidPlaceholder (String.ofList ('?' :: m.tag)) m.offset)

theorem leadingTag_run {tag after : List Char} (hrun : ∀ c ∈ tag, isTagChar c = true)
    (hstops : ∀ c ∈ after.head?, isTagChar c = false) : leadingTag (tag ++ after) = tag ∧ afterTag (tag ++ after) = after := by
  have hnone : after.takeWhile isTagChar = [] ∧ after.dropWhile isTagChar = after := by
    cases after with
    | nil => exact ⟨rfl, rfl⟩
    | cons c after => simp [hstops c rfl]
  unfold leadingTag afterTag
  rw [List.takeWhile_append_of_pos hrun, List.dropWhile_append_of_pos hrun, hnone.1, hnone.2, List.append_nil]
  exact ⟨rfl, rfl⟩

theorem head?_afterTag (cs : List Char) : ∀ c ∈ (afterTag cs).head?, isTagChar c = false := by
  intro c hc
  have h := List.head?_dropWhile_not isTagChar cs
  unfold afterTag at hc
  rw [Option.mem_def.mp hc] at h
  exact h

theorem Matches.cons {offset : Nat} {c : Char} {cs : List Char} {ms : List Match} (hc : c ≠ '?')
    (h : Matches (offset + c.utf8Size) cs ms) : Matches offset (c :: cs) ms := by
  cases h with
  | done hcs => exact .done (List.forall_mem_cons.mpr ⟨hc, hcs⟩)
  | @found _ skipped tag rest ms hskipped hrun hstops hrest =>
    have hoffset : offset + c.utf8Size + byteLength skipped = offset + byteLength (c :: skipped) := by
      rw [byteLength, Nat.add_assoc]
    rw [hoffset, ← List.cons_append]
    refine .found (List.forall_mem_cons.mpr ⟨hc, hskipped⟩) hrun hstops ?_
    rwa [List.cons_append, byteLength, ← Nat.add_assoc]

theorem exists_matches (cs : List Char) : ∀ offset, ∃ ms, Matches offset cs ms := by
  induction cs using tag_induction with
  | nil => exact fun offset => ⟨[], .done (by simp)⟩
  | char c cs hc ih =>
    intro offset
    obtain ⟨ms, h⟩ := ih (offset + c.utf8Size)
    exact ⟨ms, h.cons hc⟩
  | mark cs ih =>
    intro offset
    obtain ⟨ms, h⟩ := ih (offset + byteLength ([] ++ '?' :: leadingTag cs))
    have hfound := Matches.found (by simp) (fun _ => isTagChar_of_mem_leadingTag) (head?_afterTag cs) h
    rw [leadingTag_append_afterTag] at hfound
    exact ⟨_, hfound⟩

/-- The scan goes on right behind the question mark. No tag holds one, so it
finds what the search finds. -/
theorem scan_of_matches {offset : Nat} {cs : List Char} {ms : List Match} (h : Matches offset cs ms) :
    Placeholder.scan offset cs = ms.mapM Match.placeholder := by
  induction h with
  | @done offset cs hcs =>
    rw [← List.append_nil cs, Placeholder.scan_skip hcs]
    rfl
  | @found offset skipped tag rest ms hskipped hrun hstops _ ih =>
    have htag : ∀ c ∈ tag, c ≠ '?' := by
      rintro c hc rfl
      exact absurd (hrun _ hc) (by simp [isTagChar_mark])
    have hat : Placeholder.at? (offset + byteLength skipped) (tag ++ rest) =
        Match.placeholder ⟨offset + byteLength skipped, tag⟩ := by
      simp only [Placeholder.at?, Match.placeholder, (leadingTag_run hrun hstops).1]
      cases Kind.ofTag? tag with
      | none => rfl
      | some kind => simp only [byteLength, utf8Size_mark, Nat.add_assoc]
    have hoffset : offset + byteLength skipped + 1 + byteLength tag =
        offset + byteLength (skipped ++ '?' :: tag) := by
      simp only [byteLength_append, byteLength, utf8Size_mark, Nat.add_assoc]
    rw [Placeholder.scan_skip hskipped, Placeholder.scan, if_pos rfl, hat, Placeholder.scan_skip htag, hoffset, ih,
      List.mapM_cons]

/-! ## Tokens and tags -/

theorem token_iff {cs before tag after : List Char} :
    Token cs before tag after ↔ ∃ post, cs = before ++ '?' :: post ∧ tag = leadingTag post ∧ after = afterTag post := by
  constructor
  · intro h
    obtain ⟨htag, hafter⟩ := leadingTag_run h.run h.stops
    exact ⟨tag ++ after, h.here, htag.symm, hafter.symm⟩
  · rintro ⟨post, rfl, rfl, rfl⟩
    refine ⟨?_, fun _ => isTagChar_of_mem_leadingTag, head?_afterTag post⟩
    rw [leadingTag_append_afterTag]

theorem existsUnique_token {cs before post : List Char} (hcs : cs = before ++ '?' :: post) :
    ∃! tag, ∃ after, Token cs before tag after := by
  refine ⟨leadingTag post, ⟨afterTag post, token_iff.mpr ⟨post, hcs, rfl, rfl⟩⟩, ?_⟩
  rintro tag ⟨after, h⟩
  obtain ⟨post', hcs', rfl, -⟩ := token_iff.mp h
  rw [hcs] at hcs'
  rw [(List.cons.inj (List.append_cancel_left hcs')).2]

theorem mem_knownTags {tag : List Char} : String.ofList tag ∈ knownTags ↔ Kind.ofTag? tag ≠ none := by
  have hsome : Kind.ofTag? tag ≠ none ↔ ∃ k : Kind, tag = k.tag := by
    simp only [Option.ne_none_iff_exists', Kind.ofTag?_eq_some_iff]
  rw [hsome]
  constructor
  · intro h
    simp only [knownTags, List.mem_cons, List.not_mem_nil, or_false, ← String.toList_inj, String.toList_ofList] at h
    rcases h with rfl | rfl | rfl | rfl | rfl
    · exact ⟨.generic, rfl⟩
    · exact ⟨.int, rfl⟩
    · exact ⟨.float, rfl⟩
    · exact ⟨.assignments, rfl⟩
    · exact ⟨.identifiers, rfl⟩
  · rintro ⟨k, rfl⟩
    cases k <;> decide

theorem wellTagged_iff {cs : List Char} :
    WellTagged cs ↔ ∀ before tag after, Token cs before tag after → String.ofList tag ∈ knownTags := by
  unfold WellTagged
  simp only [mem_knownTags, mem_tags, token_iff]
  constructor
  · rintro h before tag after ⟨post, hcs, htag, -⟩
    exact h tag ⟨before, post, hcs, htag⟩
  · rintro h tag ⟨before, post, hcs, htag⟩
    exact h before tag (afterTag post) ⟨post, hcs, htag, rfl⟩

theorem firstUnknown_iff {cs before tag after : List Char} :
    FirstUnknown cs before tag after ↔
      ∃ post, FirstMalformed cs before post ∧ tag = leadingTag post ∧ after = afterTag post := by
  constructor
  · intro h
    obtain ⟨post, hcs, rfl, rfl⟩ := token_iff.mp h.token
    refine ⟨post, ⟨hcs, not_not.mp fun hk => h.unknown (mem_knownTags.mpr hk), ?_⟩, rfl, rfl⟩
    intro pre post' hcs' hlt
    exact mem_knownTags.mp (h.first pre _ _ (token_iff.mpr ⟨post', hcs', rfl, rfl⟩) hlt)
  · rintro ⟨post, h, rfl, rfl⟩
    refine ⟨token_iff.mpr ⟨post, h.here, rfl, rfl⟩, fun hk => mem_knownTags.mp hk h.malformed, ?_⟩
    intro before' tag' after' ht hlt
    obtain ⟨post', hcs', rfl, rfl⟩ := token_iff.mp ht
    exact mem_knownTags.mpr (h.first before' post' hcs' hlt)

theorem Token.cons {cs before tag after : List Char} (h : Token cs before tag after) (c : Char) :
    Token (c :: cs) (c :: before) tag after := ⟨by rw [h.here, List.cons_append], h.run, h.stops⟩

theorem Token.slice {cs before tag after : List Char} (h : Token cs before tag after) :
    Span.slice ⟨byteLength before, byteLength before + byteLength ('?' :: tag)⟩ cs = '?' :: tag := by
  rw [h.here, ← List.cons_append]
  exact Span.slice_append ..

/-! ## Placeholders and tokens -/

namespace Placeholder

theorem token_of_scan {cs : List Char} {offset : Nat} {ps : List Placeholder} (h : scan offset cs = .ok ps) :
    ∀ p ∈ ps, ∃ before after, Token cs before p.kind.tag after ∧
      p.span = ⟨offset + byteLength before, offset + byteLength before + byteLength ('?' :: p.kind.tag)⟩ := by
  induction cs generalizing offset ps with
  | nil =>
    cases h
    simp
  | cons c cs ih =>
    -- A token of the rest is one of the whole text, behind one more character.
    have hcons : ∀ {qs}, scan (offset + c.utf8Size) cs = .ok qs → ∀ p ∈ qs, ∃ before after,
        Token (c :: cs) before p.kind.tag after ∧
          p.span = ⟨offset + byteLength before, offset + byteLength before + byteLength ('?' :: p.kind.tag)⟩ := by
      intro qs hqs p hp
      obtain ⟨before, after, ht, hspan⟩ := ih hqs p hp
      have hoffset : offset + byteLength (c :: before) = offset + c.utf8Size + byteLength before := by
        rw [byteLength, Nat.add_assoc]
      exact ⟨c :: before, after, ht.cons c, by rw [hspan, hoffset]⟩
    rcases scan_cons_eq_ok h with ⟨-, h⟩ | ⟨rfl, p, qs, hp, hqs, rfl⟩
    · exact hcons h
    · intro q hq
      rcases List.mem_cons.mp hq with rfl | hq
      · obtain ⟨htag, hspan⟩ := at?_eq_ok_iff.mp hp
        refine ⟨[], afterTag cs, token_iff.mpr ⟨cs, rfl, htag.symm, rfl⟩, ?_⟩
        rw [hspan, htag]
        simp [byteLength, utf8Size_mark, Nat.add_assoc]
      · exact hcons hqs q hq

theorem exists_of_scan {before after : List Char} {offset : Nat} {ps : List Placeholder}
    (h : scan offset (before ++ '?' :: after) = .ok ps) : ∃ p ∈ ps, p.position = offset + byteLength before := by
  induction before generalizing offset ps with
  | nil =>
    rcases scan_cons_eq_ok h with ⟨hc, -⟩ | ⟨-, p, qs, hp, -, rfl⟩
    · exact absurd rfl hc
    · refine ⟨p, List.mem_cons_self .., ?_⟩
      unfold position
      rw [(at?_eq_ok_iff.mp hp).2]
      rfl
  | cons c before ih =>
    rcases scan_cons_eq_ok h with ⟨-, h⟩ | ⟨rfl, p, qs, -, hqs, rfl⟩
    · obtain ⟨q, hq, hposition⟩ := ih h
      exact ⟨q, hq, by rw [hposition, byteLength, Nat.add_assoc]⟩
    · obtain ⟨q, hq, hposition⟩ := ih hqs
      exact ⟨q, List.mem_cons_of_mem p hq, by rw [hposition, byteLength, utf8Size_mark, Nat.add_assoc]⟩

theorem pairwise_of_scan {cs : List Char} {offset : Nat} {ps : List Placeholder} (h : scan offset cs = .ok ps) :
    ps.Pairwise fun p q => p.span.stop ≤ q.span.start := by
  induction cs generalizing offset ps with
  | nil =>
    cases h
    exact .nil
  | cons c cs ih =>
    rcases scan_cons_eq_ok h with ⟨-, h⟩ | ⟨rfl, p, qs, hp, hqs, rfl⟩
    · exact ih h
    · refine .cons ?_ (ih hqs)
      intro q hq
      rw [scan_tag] at hqs
      rw [(at?_eq_ok_iff.mp hp).2]
      exact (span_of_scan hqs q hq).1

theorem ascending_of_scan {cs : List Char} {offset : Nat} {ps : List Placeholder} (h : scan offset cs = .ok ps) :
    ps.Pairwise fun p q => p.span.start < q.span.start ∧ p.span.stop ≤ q.span.start := by
  refine (pairwise_of_scan h).imp_of_mem ?_
  intro p q hp _ hpq
  have := span_of_scan h p hp
  omega

theorem eq_of_position {cs : List Char} {offset : Nat} {ps : List Placeholder} (h : scan offset cs = .ok ps)
    {p q : Placeholder} (hp : p ∈ ps) (hq : q ∈ ps) (hpq : p.position = q.position) : p = q := by
  have hnodup : (ps.map position).Nodup := by
    refine List.pairwise_map.mpr ((ascending_of_scan h).imp ?_)
    intro p q hpq
    exact Nat.ne_of_lt hpq.1
  exact List.inj_on_of_nodup_map hnodup hp hq hpq

end Placeholder

/-- **The scan is exact.** It succeeds if every tag is known, and then each question
mark has its own placeholder, with all of its tag. Else the first unknown tag is
reported as a whole. -/
theorem scan_exact (cs : List Char) :
    ((∃ ms, Matches 0 cs ms) ∧ ∀ ms, Matches 0 cs ms → Placeholder.scan 0 cs = ms.mapM Match.placeholder) ∧
    (∀ before post, cs = before ++ '?' :: post → ∃! tag, ∃ after, Token cs before tag after) ∧
    ((∃ ps, Placeholder.scan 0 cs = .ok ps) ↔
      ∀ before tag after, Token cs before tag after → String.ofList tag ∈ knownTags) ∧
    (∀ ps, Placeholder.scan 0 cs = .ok ps →
      ps.length = cs.count '?' ∧
      (ps.Pairwise fun p q => p.span.start < q.span.start ∧ p.span.stop ≤ q.span.start) ∧
      (∀ p ∈ ps, ∃ before tag after, Token cs before tag after ∧
        p.span = ⟨byteLength before, byteLength before + byteLength ('?' :: tag)⟩ ∧
        p.span.slice cs = p.kind.text.toList) ∧
      ∀ before post, cs = before ++ '?' :: post → ∃! p, p ∈ ps ∧ p.position = byteLength before) ∧
    ∀ e, Placeholder.scan 0 cs = .error e ↔ ∃ before tag after, FirstUnknown cs before tag after ∧
      e = .invalidPlaceholder (String.ofList ('?' :: tag)) (byteLength before) := by
  refine ⟨⟨exists_matches cs 0, fun ms => scan_of_matches⟩, fun _ _ => existsUnique_token, ?_, ?_, ?_⟩
  · rw [← wellTagged_iff]
    exact ⟨fun ⟨_, h⟩ => (Placeholder.map_kind_of_scan h).2, fun h => Placeholder.scan_eq_ok h 0⟩
  · intro ps h
    refine ⟨Placeholder.length_of_scan h, Placeholder.ascending_of_scan h, ?_, ?_⟩
    · intro p hp
      obtain ⟨before, after, ht, hspan⟩ := Placeholder.token_of_scan h p hp
      rw [Nat.zero_add] at hspan
      refine ⟨before, p.kind.tag, after, ht, hspan, ?_⟩
      rw [hspan, ht.slice, Kind.text, String.toList_ofList]
    · rintro before post rfl
      obtain ⟨p, hp, hposition⟩ := Placeholder.exists_of_scan h
      rw [Nat.zero_add] at hposition
      exact ⟨p, ⟨hp, hposition⟩, fun q hq => Placeholder.eq_of_position h hq.1 hp (hq.2.trans hposition.symm)⟩
  · intro e
    rw [Placeholder.scan_eq_error_iff]
    simp only [firstUnknown_iff, Nat.zero_add]
    constructor
    · rintro ⟨before, after, hf, rfl⟩
      exact ⟨before, _, _, ⟨after, hf, rfl, rfl⟩, rfl⟩
    · rintro ⟨before, _, _, ⟨after, hf, rfl, rfl⟩, rfl⟩
      exact ⟨before, after, hf, rfl⟩

/-- Two tokens next to each other behind a character of two bytes, and a tag that is
unknown because of its second character. -/
theorem scan_exact_adjacent :
    (∃! p : Placeholder, p ∈ [⟨⟨2, 3⟩, .generic⟩, ⟨⟨3, 5⟩, .int⟩] ∧ p.position = 3) ∧
      ∃ before tag after, FirstUnknown "?d é?#a ?x".toList before tag after ∧
        TemplateError.invalidPlaceholder "?#a" 5 =
          .invalidPlaceholder (String.ofList ('?' :: tag)) (byteLength before) := by
  constructor
  · have hscan : Placeholder.scan 0 "é??d".toList = .ok [⟨⟨2, 3⟩, .generic⟩, ⟨⟨3, 5⟩, .int⟩] := by decide
    exact ((scan_exact _).2.2.2.1 _ hscan).2.2.2 ['é', '?'] ['d'] rfl
  · have herror : Placeholder.scan 0 "?d é?#a ?x".toList = .error (.invalidPlaceholder "?#a" 5) := by decide
    exact ((scan_exact _).2.2.2.2 _).mp herror

end QueryTemplate
