import QueryTemplate.Build
import QueryTemplate.Proofs.Outcomes
import QueryTemplate.Proofs.Places
import QueryTemplate.Proofs.Words

/-!
# The meaning of a template

`meaning` reads a source from left to right and writes at once what becomes of
it: no offsets, no lists of placeholders and fragments. The layout puts the same
text together from spans (`Markup.content_pieces`), so rendering is the meaning
with its blanks normalised.
-/

namespace QueryTemplate

def Rendering.chars : Rendering → List Char
  | .sql text => text.toList
  | .skip => []

/-- The source read from left to right, where `rs` are the renderings of its
placeholders in order. A fragment with a skipped placeholder becomes one space,
any other becomes its interior, and all other text is copied. -/
def meaning : List Char → List Rendering → List Char
  | [], _ => []
  | c :: cs, rs =>
    if c = '\x7b' then
      let body := cs.takeWhile (· != '\x7d')
      let inside := rs.take (body.count '?')
      (if inside.any Rendering.isSkip then [' '] else meaning body inside) ++
        meaning (cs.dropWhile (· != '\x7d')).tail (rs.drop (body.count '?'))
    else if c = '?' then
      match rs with
      | [] => meaning (afterTag cs) []
      | r :: rs => r.chars ++ meaning (afterTag cs) rs
    else c :: meaning cs rs
termination_by cs => cs.length
decreasing_by
  · exact Nat.lt_succ_of_le (List.takeWhile_sublist _).length_le
  · rw [List.length_tail, List.length_cons]
    have := (List.dropWhile_sublist (· != '\x7d') (l := cs)).length_le
    omega
  · exact Nat.lt_succ_of_le (List.dropWhile_sublist _).length_le
  · exact Nat.lt_succ_of_le (List.dropWhile_sublist _).length_le
  · exact Nat.lt_succ_self _

/-! ## Reading piece by piece -/

theorem count_afterTag (cs : List Char) : (afterTag cs).count '?' = cs.count '?' := by
  have hz : (leadingTag cs).count '?' = 0 := by
    rw [List.count_eq_zero]
    intro h
    exact ne_mark_of_mem_leadingTag h rfl
  conv_rhs => rw [← leadingTag_append_afterTag cs, List.count_append, hz, Nat.zero_add]

theorem unbraced_afterTag {cs : List Char} (h : Unbraced cs) : Unbraced (afterTag cs) :=
  fun c hc => h c ((List.dropWhile_sublist _).subset hc)

theorem meaning_char {c : Char} (hb : isBrace c = false) (hm : c ≠ '?') (cs : List Char) (rs : List Rendering) :
    meaning (c :: cs) rs = c :: meaning cs rs := by
  rw [meaning.eq_def]
  simp only [(isBrace_eq_false.mp hb).1, hm, if_false]

theorem meaning_mark (cs : List Char) (r : Rendering) (rs : List Rendering) :
    meaning ('?' :: cs) (r :: rs) = r.chars ++ meaning (afterTag cs) rs := by
  rw [meaning, if_neg (by decide), if_pos rfl]

theorem meaning_braced {body : List Char} (hb : Unbraced body) (rest : List Char) {rs : List Rendering}
    (hr : rs.length = body.count '?') (rs' : List Rendering) :
    meaning (braced body ++ rest) (rs ++ rs') =
      (if rs.any Rendering.isSkip then [' '] else meaning body rs) ++ meaning rest rs' := by
  have hne : ∀ c ∈ body, (c != '\x7d') = true := by
    intro c hc
    simpa using (isBrace_eq_false.mp (hb c hc)).2
  have htake : (body ++ '\x7d' :: rest).takeWhile (· != '\x7d') = body := by
    rw [List.takeWhile_append_of_pos hne]
    simp
  have hdrop : (body ++ '\x7d' :: rest).dropWhile (· != '\x7d') = '\x7d' :: rest := by
    rw [List.dropWhile_append_of_pos hne]
    simp
  rw [braced_append, meaning.eq_def]
  simp only [if_true, htake, hdrop, ← hr, List.take_left, List.drop_left, List.tail_cons]

theorem meaning_append_of_unbraced {xs ys : List Char} (hx : Unbraced xs)
    (hcut : tags (xs ++ ys) = tags xs ++ tags ys) {rs : List Rendering} (hr : rs.length = xs.count '?')
    (rs' : List Rendering) : meaning (xs ++ ys) (rs ++ rs') = meaning xs rs ++ meaning ys rs' := by
  induction xs using tag_induction generalizing rs with
  | nil =>
    obtain rfl := List.eq_nil_of_length_eq_zero hr
    rw [meaning]
    rfl
  | char c xs hm ih =>
    obtain ⟨hc, hx⟩ := unbraced_cons.mp hx
    simp only [List.cons_append, tags, if_neg hm] at hcut
    rw [List.count_cons_of_ne hm] at hr
    rw [List.cons_append, meaning_char hc hm, meaning_char hc hm, ih hx hcut hr, List.cons_append]
  | mark xs ih =>
    obtain ⟨hc, hx⟩ := unbraced_cons.mp hx
    simp only [List.cons_append, tags, if_true, List.cons.injEq] at hcut
    obtain ⟨htag, hcut⟩ := hcut
    have hafter : tags (afterTag xs ++ ys) = tags (afterTag xs) ++ tags ys := by
      rw [← afterTag_append htag, tags_afterTag, tags_afterTag, hcut]
    cases rs with
    | nil => simp at hr
    | cons r rs =>
      have hr' : rs.length = (afterTag xs).count '?' := by
        rw [count_afterTag]
        simpa using hr
      rw [List.cons_append, List.cons_append, meaning_mark, meaning_mark, afterTag_append htag,
        ih (unbraced_afterTag hx) hafter hr', List.append_assoc]

theorem exists_append_of_length {α : Type} {rs : List α} {k l : Nat} (h : rs.length = k + l) :
    ∃ as bs, rs = as ++ bs ∧ as.length = k ∧ bs.length = l := by
  refine ⟨rs.take k, rs.drop k, (List.take_append_drop k rs).symm, ?_, ?_⟩
  · rw [List.length_take]
    omega
  · rw [List.length_drop]
    omega

theorem meaning_append {xs ys : List Char} (hx : Balanced xs) (hcut : tags (xs ++ ys) = tags xs ++ tags ys)
    {rs : List Rendering} (hr : rs.length = xs.count '?') (rs' : List Rendering) :
    meaning (xs ++ ys) (rs ++ rs') = meaning xs rs ++ meaning ys rs' := by
  induction hx generalizing rs with
  | plain hx => exact meaning_append_of_unbraced hx hcut hr rs'
  | @fragment before body rest hb hi _ ih =>
    have hbraced (ds : List Char) : tags (before ++ (braced body ++ ds)) = tags before ++ tags (braced body ++ ds) :=
      tags_append (leadingTag_braced body ds) before
    rw [List.append_assoc, List.append_assoc, hbraced, hbraced, tags_braced, tags_braced] at hcut
    simp only [List.append_assoc, List.append_cancel_left_eq] at hcut
    rw [List.count_append, count_braced] at hr
    obtain ⟨as, rs, rfl, ha, hr⟩ := exists_append_of_length hr
    obtain ⟨bs, cs, rfl, hbs, hcs⟩ := exists_append_of_length hr
    simp only [List.append_assoc]
    rw [meaning_append_of_unbraced hb (hbraced _) ha, meaning_append_of_unbraced hb (hbraced _) ha,
      meaning_braced hi _ hbs, meaning_braced hi _ hbs, ih hcut hcs]
    simp only [List.append_assoc]

/-! ## The layout puts the meaning together -/

def Piece.content (source : List Char) (p : Piece) : List Char := (p.segment? source).elim [] Segment.content

theorem content_text (pre text post : List Char) :
    (Piece.text ⟨byteLength pre, byteLength pre + byteLength text⟩).content (pre ++ (text ++ post)) = text :=
  Span.slice_append pre text post

theorem content_placeholder (source : List Char) (span : Span) (r : Rendering) :
    (Piece.placeholder span r).content source = r.chars := by
  cases r <;> rfl

/-- The pieces of a stretch without braces, where `gap` is the text that comes
before it and has not been written yet. -/
theorem content_copy (pre gap post : List Char) {cs : List Char} {xs : List Filled} (hcs : Unbraced cs)
    (hs : Placeholder.scan (byteLength pre + byteLength gap) cs = .ok (xs.map Prod.fst)) :
    (Layout.copy (byteLength pre) (byteLength pre + byteLength gap + byteLength cs) xs).flatMap
      (Piece.content (pre ++ (gap ++ (cs ++ post)))) = gap ++ meaning cs (xs.map Prod.snd) := by
  induction cs using tag_induction generalizing pre gap xs with
  | nil =>
    obtain rfl := List.map_eq_nil_iff.mp (Except.ok.inj hs).symm
    simp [Layout.copy, byteLength, content_text, meaning]
  | char c cs hm ih =>
    obtain ⟨hc, hcs⟩ := unbraced_cons.mp hcs
    have hgap : byteLength gap + c.utf8Size = byteLength (gap ++ [c]) := by simp [byteLength]
    rw [Placeholder.scan, if_neg hm, Nat.add_assoc, hgap] at hs
    have := ih pre (gap ++ [c]) hcs hs
    rw [meaning_char hc hm, byteLength, ← Nat.add_assoc, Nat.add_assoc (byteLength pre), hgap]
    simpa using this
  | mark cs ih =>
    obtain ⟨-, hcs⟩ := unbraced_cons.mp hcs
    rcases Placeholder.scan_cons_eq_ok hs with ⟨hm, -⟩ | ⟨-, p, qs, hp, hq, hxs⟩
    · exact (hm rfl).elim
    obtain ⟨⟨p, r⟩, xs, rfl, rfl, rfl⟩ := List.map_eq_cons_iff.mp hxs
    obtain ⟨-, hspan⟩ := Placeholder.at?_eq_ok_iff.mp hp
    have hpre : byteLength (pre ++ (gap ++ '?' :: leadingTag cs)) =
        byteLength pre + byteLength gap + 1 + byteLength (leadingTag cs) := by
      simp only [byteLength_append, byteLength, utf8Size_mark]
      omega
    have hstop : byteLength pre + byteLength gap + byteLength ('?' :: cs) =
        byteLength pre + byteLength gap + 1 + byteLength (leadingTag cs) + byteLength (afterTag cs) := by
      rw [byteLength, utf8Size_mark, ← leadingTag_append_afterTag cs, byteLength_append, leadingTag_append_afterTag]
      omega
    have hsource : pre ++ (gap ++ ('?' :: cs ++ post)) =
        (pre ++ (gap ++ '?' :: leadingTag cs)) ++ ([] ++ (afterTag cs ++ post)) := by
      conv_lhs => rw [← leadingTag_append_afterTag cs]
      simp
    rw [Placeholder.scan_tag, ← hpre] at hq
    have := ih (pre ++ (gap ++ '?' :: leadingTag cs)) [] (unbraced_afterTag hcs) hq
    simp only [byteLength, Nat.add_zero, List.nil_append, hpre] at this
    rw [List.map_cons, meaning_mark, Layout.copy, hspan, List.flatMap_cons, List.flatMap_cons, content_text,
      content_placeholder, hsource, hstop, List.nil_append, this]

theorem content_stretch (pre post : List Char) {cs : List Char} {xs : List Filled} (hcs : Unbraced cs)
    (hs : Placeholder.scan (byteLength pre) cs = .ok (xs.map Prod.fst)) :
    (Layout.copy (byteLength pre) (byteLength pre + byteLength cs) xs).flatMap
      (Piece.content (pre ++ (cs ++ post))) = meaning cs (xs.map Prod.snd) :=
  content_copy pre [] post hcs hs

theorem content_fragment (pre rest : List Char) {body : List Char} {all xs : List Filled} (hb : Unbraced body)
    (hs : Placeholder.scan (byteLength pre + 1) body = .ok (xs.map Prod.fst))
    (hall : (fragmentAt (byteLength pre) body).inside all = xs) :
    (Layout.fragment all (fragmentAt (byteLength pre) body) xs).flatMap
      (Piece.content (pre ++ (braced body ++ rest))) =
        if (xs.map Prod.snd).any Rendering.isSkip then [' '] else meaning body (xs.map Prod.snd) := by
  have hskip : (fragmentAt (byteLength pre) body).isElided all = (xs.map Prod.snd).any Rendering.isSkip := by
    rw [Fragment.isElided, hall, List.any_map]
    rfl
  rw [Layout.fragment, hskip]
  by_cases hany : (xs.map Prod.snd).any Rendering.isSkip = true
  · rw [if_pos hany, if_pos hany]
    rfl
  · have hpre : byteLength (pre ++ ['\x7b']) = byteLength pre + 1 := by simp [byteLength, utf8Size_open]
    have hstop : byteLength pre + byteLength (braced body) - 1 = byteLength pre + 1 + byteLength body := by
      rw [byteLength_braced]
      omega
    have hsource : pre ++ (braced body ++ rest) = (pre ++ ['\x7b']) ++ (body ++ '\x7d' :: rest) := by
      simp [braced_append]
    rw [← hpre] at hs
    have hcopy := content_stretch (pre ++ ['\x7b']) ('\x7d' :: rest) hb hs
    rw [hpre, ← hsource] at hcopy
    rw [if_neg hany, if_neg hany, List.flatMap_cons, List.flatMap_append]
    simpa [Piece.content, Piece.segment?, Fragment.interior, fragmentAt, hstop] using hcopy

/-- **The layout of a template** says its meaning. In the rest of a source only
the placeholders of the rest decide which fragments are elided. -/
theorem Markup.content_pieces {offset : Nat} {cs : List Char} {xs : List Filled} {fs : List Fragment}
    (h : Markup offset cs xs fs) {pre : List Char} {all : List Filled} (ho : offset = byteLength pre)
    (hall : ∀ f : Fragment, offset ≤ f.span.start → f.holds all = f.holds xs) :
    (Layout.pieces all (offset + byteLength cs) offset fs xs).flatMap (Piece.content (pre ++ cs)) =
      meaning cs (xs.map Prod.snd) := by
  -- `all` stays the whole list while `xs` shrinks: the placeholders that are gone lie before.
  induction h generalizing pre with
  | plain hcs hs =>
    subst ho
    simpa [Layout.pieces] using content_stretch pre [] hcs hs
  | @fragment offset before body rest xs ys zs fs hb hx hi hy hm ih =>
    subst ho
    have ha := Markup.around hx hy hm
    have hinside := ha.inside_of_same hall
    have hbefore := content_stretch pre (braced body ++ rest) hb hx
    have hfragment := content_fragment (pre ++ before) rest hi (by rwa [byteLength_append])
      (by rw [byteLength_append]; exact hinside)
    have hafter : (Layout.pieces all (byteLength pre + byteLength before + byteLength (braced body) +
        byteLength rest) (byteLength pre + byteLength before + byteLength (braced body)) fs zs).flatMap
          (Piece.content ((pre ++ (before ++ braced body)) ++ rest)) = meaning rest (zs.map Prod.snd) :=
      ih (by simp only [byteLength_append, Nat.add_assoc]) (ha.later_of_same hall)
    rw [ha.pieces, List.flatMap_append, List.flatMap_append, List.map_append, List.map_append,
      meaning_append_of_unbraced hb (tags_append (leadingTag_braced _ _) _) (length_map_of_scan hx _),
      meaning_braced hi _ (length_map_of_scan hy _), ← hbefore, ← hfragment, ← hafter]
    simp only [byteLength_append, List.append_assoc, fragmentAt, Nat.add_assoc]

/-! ## Rendering -/

theorem content_segments (source : List Char) (pieces : List Piece) :
    (pieces.filterMap (Piece.segment? source)).flatMap Segment.content = pieces.flatMap (Piece.content source) := by
  induction pieces with
  | nil => rfl
  | cons p pieces ih =>
    rw [List.filterMap_cons, List.flatMap_cons, ← ih, Piece.content]
    cases p.segment? source <;> rfl

theorem assemble_layout {source : String} {t : Template} {rs : List Rendering}
    (h : Template.parse source = .ok t) (hr : rs.length = t.arity) :
    assemble t.source (t.layout rs) = String.ofList (normalise (meaning source.toList rs)) := by
  obtain ⟨hsource, hm⟩ := markup_of_parse h hr
  have hsnd : (t.placeholders.zip rs).map Prod.snd = rs := List.map_snd_zip (Nat.le_of_eq hr)
  have hpieces : (Layout.pieces (t.placeholders.zip rs) (0 + byteLength source.toList) 0 t.fragments
      (t.placeholders.zip rs)).flatMap (Piece.content ([] ++ source.toList)) = meaning source.toList rs := by
    rw [hm.content_pieces rfl fun _ _ => rfl, hsnd]
  rw [assemble, joinSegments_eq, content_segments, Template.layout, hsource, utf8ByteSize_eq, ← hpieces,
    Nat.zero_add, List.nil_append]

section
variable (E : Escaper)

theorem renderArgs_eq_ok_iff {t : Template} {args : List Arg} {rs : List Rendering} :
    t.renderArgs E args = .ok rs ↔ args.length = t.arity ∧
      List.Forall₂ (fun x r => x.2.render E x.1.kind = .ok r) (t.placeholders.zip args) rs := by
  unfold Template.renderArgs
  split
  · rename_i hlen
    rw [mapM_eq_ok_iff]
    simp [hlen]
  · rename_i hlen
    simp [hlen]

theorem length_of_renderArgs {t : Template} {args : List Arg} {rs : List Rendering}
    (h : t.renderArgs E args = .ok rs) : rs.length = t.arity := by
  obtain ⟨hlen, hrs⟩ := (renderArgs_eq_ok_iff E).mp h
  rw [← hrs.length_eq, List.length_zip, Template.arity, hlen, Template.arity, Nat.min_self]

theorem render_eq {source : String} {t : Template} (h : Template.parse source = .ok t) (args : List Arg) :
    t.render E args =
      (t.renderArgs E args).map fun rs => String.ofList (normalise (meaning source.toList rs)) := by
  unfold Template.render Template.renderTraced
  cases hr : t.renderArgs E args with
  | error e => rfl
  | ok rs =>
    simp only [Except.map]
    rw [assemble_layout h (length_of_renderArgs E hr)]

/-- **A template renders to its meaning**, its words with one space between, when
every argument can be rendered for its placeholder. -/
theorem render_eq_meaning {source : String} {t : Template} {args : List Arg} {rs : List Rendering}
    (h : Template.parse source = .ok t) (hlen : args.length = t.arity)
    (hrs : List.Forall₂ (fun x r => x.2.render E x.1.kind = .ok r) (t.placeholders.zip args) rs) :
    t.render E args = .ok (String.ofList (normalise (meaning source.toList rs))) := by
  rw [render_eq E h, (renderArgs_eq_ok_iff E).mpr ⟨hlen, hrs⟩]
  rfl

end

/-- A skip in one of two adjacent fragments, where a tag ends at a brace. -/
theorem render_eq_meaning_adjacent :
    normalise (meaning "?# \x7b x=?d\x7d\x7b\ty= ?\x7d z".toList [.sql "`a\n b`", .skip, .sql "'?\x7b'"]) =
      "`a b` y= '?\x7b' z".toList := by
  let t : Template := ⟨"?# \x7b x=?d\x7d\x7b\ty= ?\x7d z",
    [⟨⟨0, 2⟩, .identifiers⟩, ⟨⟨7, 9⟩, .int⟩, ⟨⟨15, 16⟩, .generic⟩], [⟨⟨3, 10⟩⟩, ⟨⟨10, 17⟩⟩]⟩
  have h : Template.parse t.source = .ok t := by decide
  have hrs : List.Forall₂ (fun (x : Placeholder × Arg) r => x.2.render .mySql x.1.kind = .ok r)
      (t.placeholders.zip [.text "a\n b", .skip, .text "?\x7b"])
      [.sql "`a\n b`", .skip, .sql "'?\x7b'"] := .cons rfl (.cons rfl (.cons rfl .nil))
  have hsql : t.render .mySql [.text "a\n b", .skip, .text "?\x7b"] = .ok "`a b` y= '?\x7b' z" := by decide
  have hmeaning := Except.ok.inj ((render_eq_meaning .mySql h rfl hrs).symm.trans hsql)
  rw [← String.toList_inj, String.toList_ofList] at hmeaning
  exact hmeaning

end QueryTemplate
