import QueryTemplate.Proofs.Stages

/-!
# Composing templates

Where no tag goes on over a border, the text after it is a template of its own:
braces stay in balance, the kinds of the placeholders come one after the other,
and so do the renderings and the meanings. By way of these laws what is built
from a source is compared with what is built from its parts: a fragment that a
skip elides, one that is kept, and a space between two templates.
-/

namespace QueryTemplate

theorem meaning_space (cs : List Char) (rs : List Rendering) : meaning (' ' :: cs) rs = ' ' :: meaning cs rs :=
  meaning_char (by decide) (by decide) cs rs

section
variable (E : Escaper)

theorem length_of_renderAll {ks : List Kind} {args : List Arg} {rs : List Rendering}
    (h : renderAll E ks args = .ok rs) : rs.length = ks.length := by
  have hlen := ((renderAll_isOk_iff E).mp ⟨rs, h⟩).1
  rw [renderAll, if_pos hlen] at h
  rw [← (mapM_eq_ok_iff.mp h).length_eq, List.length_zip, hlen, Nat.min_self]

theorem renderAll_append {ks ls : List Kind} {xs ys : List Arg} (hx : xs.length = ks.length)
    (hy : ys.length = ls.length) :
    renderAll E (ks ++ ls) (xs ++ ys) = (do
      let rs ← renderAll E ks xs
      let ss ← renderAll E ls ys
      return rs ++ ss) := by
  have hlen : (xs ++ ys).length = (ks ++ ls).length := by rw [List.length_append, List.length_append, hx, hy]
  rw [renderAll, if_pos hlen, renderAll, if_pos hx, renderAll, if_pos hy, List.zip_append hx.symm,
    List.mapM_append]

/-- **Sources next to each other**: their arguments are rendered one list after the
other, and what they mean is joined. -/
theorem build_append {xs ys : List Char} {as bs : List Arg} (hx : WellFormed xs) (hy : WellFormed ys)
    (hcut : leadingTag ys = []) (has : as.length = xs.count '?') (hbs : bs.length = ys.count '?') :
    build E (String.ofList (xs ++ ys)) (as ++ bs) = (do
      let rs ← renderAll E (kinds xs) as
      let ss ← renderAll E (kinds ys) bs
      return String.ofList (normalise (meaning xs rs ++ meaning ys ss))) := by
  have hw : WellFormed (String.ofList (xs ++ ys)).toList := by
    rw [String.toList_ofList]
    exact hx.append hy hcut
  rw [build_eq E hw, String.toList_ofList, kinds_append hcut,
    renderAll_append E (by rw [has, length_kinds hx.tagged]) (by rw [hbs, length_kinds hy.tagged])]
  cases hrs : renderAll E (kinds xs) as with
  | error e => rfl
  | ok rs =>
    have hlen := length_of_renderAll E hrs
    rw [length_kinds hx.tagged] at hlen
    cases renderAll E (kinds ys) bs with
    | error e => rfl
    | ok ss =>
      show Except.ok (String.ofList (normalise (meaning (xs ++ ys) (rs ++ ss)))) = _
      rw [meaning_append hx.balanced (tags_append hcut xs) hlen]
      rfl

/-! ## Skips -/

theorem map_isSkip_of_renderAll {ks : List Kind} {args : List Arg} {rs : List Rendering}
    (h : renderAll E ks args = .ok rs) : rs.map Rendering.isSkip = args.map Arg.isSkip := by
  have hlen := ((renderAll_isOk_iff E).mp ⟨rs, h⟩).1
  rw [renderAll, if_pos hlen] at h
  have hrel : List.Forall₂ (fun (x : Kind × Arg) r => x.2.isSkip = Rendering.isSkip r) (ks.zip args) rs :=
    (mapM_eq_ok_iff.mp h).imp fun x r hr => (Arg.isSkip_of_render E hr).symm
  rw [← List.map_snd_zip (Nat.le_of_eq hlen), List.map_map]
  symm
  rwa [← List.forall₂_eq_eq_eq, List.forall₂_map_left_iff, List.forall₂_map_right_iff]

theorem any_isSkip_of_renderAll {ks : List Kind} {args : List Arg} {rs : List Rendering}
    (h : renderAll E ks args = .ok rs) : rs.any Rendering.isSkip = args.any Arg.isSkip := by
  have hany := congrArg (List.any · id) (map_isSkip_of_renderAll E h)
  rw [List.any_map, List.any_map] at hany
  exact hany

theorem isSkip_of_slice {as bs cs : List Rendering} {args : List Arg}
    (h : (as ++ (bs ++ cs)).map Rendering.isSkip = args.map Arg.isSkip)
    (hargs : ∀ i a, as.length ≤ i → i < as.length + bs.length → args[i]? = some a → a.isSkip = false) :
    bs.any Rendering.isSkip = false := by
  rw [List.any_eq_false]
  intro r hr
  obtain ⟨j, hj⟩ := List.mem_iff_getElem?.mp hr
  have hlt : j < bs.length := (List.getElem?_eq_some_iff.mp hj).1
  have hget : (args.map Arg.isSkip)[as.length + j]? = some r.isSkip := by
    rw [← h, List.getElem?_map, List.getElem?_append_right (Nat.le_add_right ..), Nat.add_sub_cancel_left,
      List.getElem?_append_left hlt, hj]
    rfl
  rw [List.getElem?_map, Option.map_eq_some_iff] at hget
  obtain ⟨a, ha, hsame⟩ := hget
  rw [← hsame, hargs _ a (Nat.le_add_right ..) (Nat.add_lt_add_left hlt _) ha]
  exact Bool.false_ne_true

/-! ## Eliding a fragment -/

/-- The fragment goes for its arguments, and those around it are rendered as before. -/
theorem build_gap {xs body ys : List Char} {as bs cs : List Arg} {rs : List Rendering} (hx : WellFormed xs)
    (hy : WellFormed ys) (hb : Unbraced body) (hbt : WellTagged body) (has : as.length = xs.count '?')
    (hcs : cs.length = ys.count '?') (hrs : renderAll E (kinds body) bs = .ok rs)
    (hskip : bs.any Arg.isSkip = true) :
    build E (String.ofList (xs ++ (braced body ++ ys))) (as ++ (bs ++ cs)) =
      build E (String.ofList (xs ++ ' ' :: ys)) (as ++ cs) := by
  have hky : cs.length = (kinds ys).length := by rw [hcs, length_kinds hy.tagged]
  have hlen := length_of_renderAll E hrs
  have hbs := ((renderAll_isOk_iff E).mp ⟨rs, hrs⟩).1
  have hgap : rs.any Rendering.isSkip = true := by rw [any_isSkip_of_renderAll E hrs, hskip]
  rw [length_kinds hbt] at hlen hbs
  have hcount : (bs ++ cs).length = (braced body ++ ys).count '?' := by
    rw [List.length_append, count_braced, hbs, hcs]
  have hcount' : cs.length = (' ' :: ys).count '?' := by rw [hcs, List.count_cons_of_ne (by decide)]
  rw [build_append E hx (hy.braced hb hbt) (leadingTag_braced _ _) has hcount,
    build_append E hx hy.space (leadingTag_space _) has hcount', kinds_braced, kinds_space,
    renderAll_append E (by rw [hbs, length_kinds hbt]) hky, hrs]
  refine bind_congr fun ra => ?_
  cases renderAll E (kinds ys) cs with
  | error e => rfl
  | ok rc =>
    show Except.ok (String.ofList (normalise (meaning xs ra ++ meaning (braced body ++ ys) (rs ++ rc)))) =
      .ok (String.ofList (normalise (meaning xs ra ++ meaning (' ' :: ys) rc)))
    rw [meaning_braced hb ys hlen, if_pos hgap, meaning_space]
    rfl

/-- **An elided fragment** is as good as a space in its place. -/
theorem build_elide {before body after : String} {t u : Template} {ps : List Placeholder} (xs ys zs : List Arg)
    (hbefore : Template.parse before = .ok t) (hafter : Template.parse after = .ok u)
    (hbody : Unbraced body.toList) (hps : Placeholder.scan 0 body.toList = .ok ps)
    (hxs : xs.length = t.arity) (hys : ys.length = ps.length) (hzs : zs.length = u.arity)
    (hskip : ∃ a ∈ ys, a.isSkip = true)
    (hrest : ∀ x ∈ ps.zip ys, x.2.isSkip = false → ∃ r, x.2.render E x.1.kind = .ok r) :
    build E (before ++ "\x7b" ++ body ++ "\x7d" ++ after) (xs ++ ys ++ zs) =
      build E (before ++ " " ++ after) (xs ++ zs) := by
  obtain ⟨hx, hxa⟩ := wellFormed_of_parse hbefore
  obtain ⟨hy, hya⟩ := wellFormed_of_parse hafter
  obtain ⟨hk, hbt⟩ := Placeholder.map_kind_of_scan hps
  have hrender : ∀ x ∈ (kinds body.toList).zip ys, ∃ r, x.2.render E x.1 = .ok r := by
    rw [← hk, List.zip_map_left]
    intro x hx
    obtain ⟨y, hy, rfl⟩ := List.mem_map.mp hx
    cases ha : y.2.isSkip with
    | false => exact hrest y hy ha
    | true => exact ⟨.skip, by rw [Prod.map_snd, id, Arg.eq_skip_of_isSkip ha]; rfl⟩
  obtain ⟨rs, hrs⟩ := (renderAll_isOk_iff E).mpr ⟨by rw [← hk, List.length_map, hys], hrender⟩
  have hgap := build_gap E hx hy hbody hbt (hxs.trans hxa) (hzs.trans hya) hrs (List.any_eq_true.mpr hskip)
  have hsource : before ++ "\x7b" ++ body ++ "\x7d" ++ after =
      String.ofList (before.toList ++ (braced body.toList ++ after.toList)) := by
    rw [← String.toList_inj]
    simp [braced]
  have hspace : before ++ " " ++ after = String.ofList (before.toList ++ ' ' :: after.toList) := by
    rw [← String.toList_inj]
    simp
  rw [hsource, hspace, List.append_assoc]
  exact hgap

end

/-- A fragment between a tag and a tag, at the end of a word. -/
theorem build_elide_adjacent :
    build .mySql "a=?d\x7b, ?# = ?\x7d,b=?" [.int 1, .skip, .text "x", .text "y z"] = .ok "a=1 ,b='y z'" := by
  have hbefore : Template.parse "a=?d" = .ok ⟨"a=?d", [⟨⟨2, 4⟩, .int⟩], []⟩ := by decide
  have hafter : Template.parse ",b=?" = .ok ⟨",b=?", [⟨⟨3, 4⟩, .generic⟩], []⟩ := by decide
  have hps : Placeholder.scan 0 ", ?# = ?".toList = .ok [⟨⟨2, 4⟩, .identifiers⟩, ⟨⟨7, 8⟩, .generic⟩] := by decide
  have hrest : ∀ x ∈ [(Placeholder.mk ⟨2, 4⟩ .identifiers, Arg.skip), (⟨⟨7, 8⟩, .generic⟩, .text "x")],
      x.2.isSkip = false → ∃ r, x.2.render .mySql x.1.kind = .ok r := by
    intro x hx hs
    simp only [List.mem_cons, List.not_mem_nil, or_false] at hx
    rcases hx with rfl | rfl
    · cases hs
    · exact ⟨.sql "'x'", rfl⟩
  have h := build_elide .mySql [.int 1] [.skip, .text "x"] [.text "y z"] hbefore hafter (by decide) hps rfl rfl rfl
    ⟨.skip, List.mem_cons_self .., rfl⟩ hrest
  exact h.trans (by decide)

section
variable (E : Escaper)

/-! ## Keeping a fragment -/

theorem meaning_keep {xs body ys : List Char} (hx : Balanced xs) (hb : Unbraced body)
    (hcut : tags (xs ++ (body ++ ys)) = tags (xs ++ (braced body ++ ys))) {as bs : List Rendering}
    (has : as.length = xs.count '?') (hbs : bs.length = body.count '?') (hkept : bs.any Rendering.isSkip = false)
    (cs : List Rendering) :
    meaning (xs ++ (body ++ ys)) (as ++ (bs ++ cs)) = meaning (xs ++ (braced body ++ ys)) (as ++ (bs ++ cs)) := by
  -- Equal tags mean that no tag goes on where a brace was, on either side of the body.
  have hbraced : tags (xs ++ (braced body ++ ys)) = tags xs ++ tags (braced body ++ ys) :=
    tags_append (leadingTag_braced body ys) xs
  have hinner : tags (body ++ ys) = tags body ++ tags ys :=
    tags_of_append ((hcut.trans hbraced).trans (by rw [tags_braced])) (length_tags xs)
  have houter : tags (xs ++ (body ++ ys)) = tags xs ++ tags (body ++ ys) := by
    rw [hcut, hbraced, tags_braced, hinner]
  rw [meaning_append hx houter has, meaning_append_of_unbraced hb hinner hbs, meaning_append hx hbraced has,
    meaning_braced hb ys hbs, hkept]
  rfl

theorem build_flat {xs body ys : List Char} {args : List Arg} (hx : Balanced xs) (hb : Unbraced body)
    (hplain : WellFormed (xs ++ (body ++ ys))) (hkept : WellFormed (xs ++ (braced body ++ ys)))
    (hkinds : kinds (xs ++ (body ++ ys)) = kinds (xs ++ (braced body ++ ys)))
    (hargs : ∀ i a, xs.count '?' ≤ i → i < xs.count '?' + body.count '?' → args[i]? = some a → a.isSkip = false) :
    build E (String.ofList (xs ++ (braced body ++ ys))) args = build E (String.ofList (xs ++ (body ++ ys))) args := by
  have htags : tags (xs ++ (body ++ ys)) = tags (xs ++ (braced body ++ ys)) := by
    rw [tags_eq_map_kinds hplain.tagged, tags_eq_map_kinds hkept.tagged, hkinds]
  rw [build_eq E (by rwa [String.toList_ofList]), build_eq E (by rwa [String.toList_ofList]), String.toList_ofList,
    String.toList_ofList, ← hkinds]
  cases hrs : renderAll E (kinds (xs ++ (body ++ ys))) args with
  | error e => rfl
  | ok rs =>
    have hlen := length_of_renderAll E hrs
    rw [length_kinds hplain.tagged, List.count_append, List.count_append] at hlen
    obtain ⟨as, rs, rfl, has, hlen⟩ := exists_append_of_length hlen
    obtain ⟨bs, cs, rfl, hbs, -⟩ := exists_append_of_length hlen
    rw [← has, ← hbs] at hargs
    have hnone := isSkip_of_slice (map_isSkip_of_renderAll E hrs) hargs
    show Except.ok (String.ofList (normalise (meaning (xs ++ (braced body ++ ys)) (as ++ (bs ++ cs))))) =
      .ok (String.ofList (normalise (meaning (xs ++ (body ++ ys)) (as ++ (bs ++ cs)))))
    rw [meaning_keep hx hb htags has hbs hnone]

/-- **A fragment that is kept** is as good as its interior, unless a tag goes on
where a brace was. -/
theorem build_keep {before body after : String} {t u w : Template} {ps : List Placeholder} {args : List Arg}
    (hbefore : Template.parse before = .ok t) (hafter : Template.parse after = .ok u)
    (hbody : Unbraced body.toList) (hps : Placeholder.scan 0 body.toList = .ok ps)
    (hplain : Template.parse (before ++ body ++ after) = .ok w)
    (hargs : ∀ i a, t.arity ≤ i → i < t.arity + ps.length → args[i]? = some a → a.isSkip = false) :
    ∃ v, Template.parse (before ++ "\x7b" ++ body ++ "\x7d" ++ after) = .ok v ∧
      (w.placeholders.map (·.kind) = v.placeholders.map (·.kind) →
        build E (before ++ "\x7b" ++ body ++ "\x7d" ++ after) args = build E (before ++ body ++ after) args) := by
  have hsource : before ++ body ++ after = String.ofList (before.toList ++ (body.toList ++ after.toList)) := by
    rw [← String.toList_inj]
    simp
  have hbraced : before ++ "\x7b" ++ body ++ "\x7d" ++ after =
      String.ofList (before.toList ++ (braced body.toList ++ after.toList)) := by
    rw [← String.toList_inj]
    simp [braced]
  obtain ⟨hx, hxa⟩ := wellFormed_of_parse hbefore
  obtain ⟨hy, -⟩ := wellFormed_of_parse hafter
  have hkept : WellFormed (before.toList ++ (braced body.toList ++ after.toList)) :=
    hx.append (hy.braced hbody (Placeholder.map_kind_of_scan hps).2) (leadingTag_braced _ _)
  rw [hbraced]
  rw [hsource] at hplain ⊢
  obtain ⟨v, hv⟩ := parse_iff.mpr (by rwa [String.toList_ofList])
  refine ⟨v, hv, fun hkinds => ?_⟩
  rw [kinds_of_parse hplain, kinds_of_parse hv, String.toList_ofList, String.toList_ofList] at hkinds
  have hw := (wellFormed_of_parse hplain).1
  rw [String.toList_ofList] at hw
  rw [hxa, Placeholder.length_of_scan hps] at hargs
  exact build_flat E hx.balanced hbody hw hkept hkinds hargs

end

/-- A tag that ends at a brace, next to a fragment that a skip elides. -/
theorem build_keep_adjacent :
    build .mySql "x\x7b?\x7d=\x7b?d\x7d,?#" [.skip, .int 1, .text "c"] = .ok "x =1,`c`" := by
  have hbefore : Template.parse "x\x7b?\x7d=" = .ok ⟨"x\x7b?\x7d=", [⟨⟨2, 3⟩, .generic⟩], [⟨⟨1, 4⟩⟩]⟩ := by decide
  have hafter : Template.parse ",?#" = .ok ⟨",?#", [⟨⟨1, 3⟩, .identifiers⟩], []⟩ := by decide
  have hps : Placeholder.scan 0 "?d".toList = .ok [⟨⟨0, 2⟩, .int⟩] := by decide
  have hplain : Template.parse "x\x7b?\x7d=?d,?#" = .ok ⟨"x\x7b?\x7d=?d,?#",
      [⟨⟨2, 3⟩, .generic⟩, ⟨⟨5, 7⟩, .int⟩, ⟨⟨8, 10⟩, .identifiers⟩], [⟨⟨1, 4⟩⟩]⟩ := by decide
  have hkept : Template.parse "x\x7b?\x7d=\x7b?d\x7d,?#" = .ok ⟨"x\x7b?\x7d=\x7b?d\x7d,?#",
      [⟨⟨2, 3⟩, .generic⟩, ⟨⟨6, 8⟩, .int⟩, ⟨⟨10, 12⟩, .identifiers⟩], [⟨⟨1, 4⟩⟩, ⟨⟨5, 9⟩⟩]⟩ := by decide
  have hargs : ∀ (i : Nat) (a : Arg), 1 ≤ i → i < 1 + 1 → [Arg.skip, .int 1, .text "c"][i]? = some a →
      a.isSkip = false := by
    intro i a hi hj ha
    obtain rfl : i = 1 := by omega
    cases ha
    rfl
  obtain ⟨v, hv, h⟩ := build_keep .mySql hbefore hafter (by decide) hps hplain hargs
  obtain rfl := Except.ok.inj (hkept.symm.trans hv)
  exact (h rfl).trans (by decide)

section
variable (E : Escaper)

/-! ## A space between templates -/

/-- **Two templates with a space between** take the arguments of both. What is built
are their lines with a space between, and the first error is that of the left one. -/
theorem build_join {left right : String} {t u : Template} (xs ys : List Arg) (hleft : Template.parse left = .ok t)
    (hright : Template.parse right = .ok u) (hxs : xs.length = t.arity) (hys : ys.length = u.arity) :
    (∃ v, Template.parse (left ++ " " ++ right) = .ok v ∧ v.arity = t.arity + u.arity) ∧
      build E (left ++ " " ++ right) (xs ++ ys) = (do
        let sql ← build E left xs
        let sql' ← build E right ys
        return " ".intercalate ([sql, sql'].filter (· ≠ ""))) := by
  obtain ⟨hx, hxa⟩ := wellFormed_of_parse hleft
  obtain ⟨hy, hya⟩ := wellFormed_of_parse hright
  have hsource : left ++ " " ++ right = String.ofList (left.toList ++ ' ' :: right.toList) := by
    rw [← String.toList_inj]
    simp
  have hw : WellFormed (left.toList ++ ' ' :: right.toList) := hx.append hy.space (leadingTag_space _)
  rw [hsource]
  constructor
  · obtain ⟨v, hv⟩ := parse_iff.mpr (by rwa [String.toList_ofList])
    refine ⟨v, hv, ?_⟩
    rw [(wellFormed_of_parse hv).2, String.toList_ofList, hxa, hya, List.count_append,
      List.count_cons_of_ne (by decide)]
  · have hcount : ys.length = (' ' :: right.toList).count '?' := by
      rw [hys, hya, List.count_cons_of_ne (by decide)]
    rw [build_append E hx hy.space (leadingTag_space _) (hxs.trans hxa) hcount, kinds_space, build_eq E hx,
      build_eq E hy]
    cases renderAll E (kinds left.toList) xs with
    | error e => rfl
    | ok rs =>
      cases renderAll E (kinds right.toList) ys with
      | error e => rfl
      | ok ss =>
        show Except.ok (String.ofList (normalise (meaning left.toList rs ++ meaning (' ' :: right.toList) ss))) =
          .ok (" ".intercalate ([String.ofList (normalise (meaning left.toList rs)),
            String.ofList (normalise (meaning right.toList ss))].filter (· ≠ "")))
        rw [meaning_space, ofList_normalise_append_blank (by decide)]
end

/-- A skip leaves nothing of the template on the left. -/
theorem build_join_empty :
    build .mySql "\x7ba=?d\x7d b=?" [.skip, .text "x  y"] = .ok "b='x y'" := by
  have hleft : Template.parse "\x7ba=?d\x7d" = .ok ⟨"\x7ba=?d\x7d", [⟨⟨3, 5⟩, .int⟩], [⟨⟨0, 6⟩⟩]⟩ := by decide
  have hright : Template.parse "b=?" = .ok ⟨"b=?", [⟨⟨2, 3⟩, .generic⟩], []⟩ := by decide
  have h := (build_join .mySql [.skip] [.text "x  y"] hleft hright rfl rfl).2
  exact h.trans (by decide)

end QueryTemplate
