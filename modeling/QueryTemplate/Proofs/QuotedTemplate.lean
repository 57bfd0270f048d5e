import Mathlib.Data.List.Chain
import QueryTemplate.Proofs.Quoting

/-!
# Literals of what is built

Two literals run into one where nothing stands between them. With a character
other than a brace between any two placeholders of the source, what is built is
spelled with the literals of its arguments (`Markup.spelled`), one after another.
-/

namespace QueryTemplate

/-- After every tag, a character other than a brace comes before the next question mark. -/
def Apart (cs : List Char) : Prop :=
  ∀ pre post, cs = pre ++ '?' :: post → ((afterTag post).dropWhile isBrace).head? ≠ some '?'

theorem Apart.of_append {xs ys : List Char} (h : Apart (xs ++ ys)) : Apart ys :=
  fun pre post hp => h (xs ++ pre) post (by rw [hp, List.append_assoc])

theorem Apart.of_cons {c : Char} {cs : List Char} (h : Apart (c :: cs)) : Apart cs :=
  Apart.of_append (show Apart ([c] ++ cs) from h)

theorem Apart.of_braced {body rest : List Char} (h : Apart (braced body ++ rest)) :
    Apart (body ++ '\x7d' :: rest) := by
  rw [braced_append] at h
  exact h.of_cons

theorem unmarked_cons {c : Char} {cs : List Char} : Unmarked (c :: cs) ↔ isMark c = false ∧ Unmarked cs := by
  simp [Unmarked]

theorem unmarked_append {xs ys : List Char} : Unmarked (xs ++ ys) ↔ Unmarked xs ∧ Unmarked ys := by
  simp [Unmarked, or_imp, forall_and]

theorem unmarked_braced {body rest : List Char} :
    Unmarked (braced body ++ rest) ↔ Unmarked body ∧ Unmarked rest := by
  have ho : isMark '\x7b' = false := by decide
  have hc : isMark '\x7d' = false := by decide
  simp [braced_append, unmarked_cons, unmarked_append, ho, hc]

/-! ## Where no mark begins

The first character of the source that is no brace decides what comes first. -/

theorem bare_stretch {xs rest ys : List Char} (hx : Unbraced xs) (hu : Unmarked xs)
    (hh : ((xs ++ rest).dropWhile isBrace).head? ≠ some '?')
    (hbare : (rest.dropWhile isBrace).head? ≠ some '?' → Bare ys) (rs : List Rendering) :
    Bare (meaning xs rs ++ ys) := by
  cases xs with
  | nil =>
    rw [meaning]
    exact hbare hh
  | cons c xs =>
    obtain ⟨hc, -⟩ := unbraced_cons.mp hx
    have hm : c ≠ '?' := by
      rintro rfl
      simp [hc] at hh
    rw [meaning_char hc hm]
    exact bare_cons.mpr (unmarked_cons.mp hu).1

theorem bare_braced {body rest : List Char} (hb : Unbraced body) (hu : Unmarked body)
    (hh : ((braced body ++ rest).dropWhile isBrace).head? ≠ some '?') {rs rs' : List Rendering}
    (hlen : rs.length = body.count '?')
    (hbare : (rest.dropWhile isBrace).head? ≠ some '?' → Bare (meaning rest rs')) :
    Bare (meaning (braced body ++ rest) (rs ++ rs')) := by
  rw [meaning_braced hb rest hlen]
  split
  · exact bare_cons.mpr isMark_space
  · rw [braced_append, List.dropWhile_cons_of_pos isBrace_open] at hh
    refine bare_stretch hb hu hh (fun h => hbare ?_) rs
    rwa [List.dropWhile_cons_of_pos isBrace_close] at h

theorem bare_meaning {cs : List Char} (h : Balanced cs) (hu : Unmarked cs)
    (hh : (cs.dropWhile isBrace).head? ≠ some '?') {rs : List Rendering} (hr : rs.length = cs.count '?') :
    Bare (meaning cs rs) := by
  induction h generalizing rs with
  | plain hcs =>
    rw [← List.append_nil (meaning _ rs)]
    exact bare_stretch hcs hu (by rwa [List.append_nil]) (fun _ => by simp [Bare]) rs
  | @fragment before body rest hb hi hrest ih =>
    obtain ⟨hub, hu⟩ := unmarked_append.mp hu
    obtain ⟨hui, hur⟩ := unmarked_braced.mp hu
    rw [List.count_append, count_braced] at hr
    obtain ⟨as, rs, rfl, ha, hr⟩ := exists_append_of_length hr
    obtain ⟨bs, ds, rfl, hbs, hds⟩ := exists_append_of_length hr
    rw [meaning_append_of_unbraced hb (tags_append (leadingTag_braced _ _) _) ha]
    exact bare_stretch hb hub hh (fun h => bare_braced hi hui h hbs fun h => ih hur h hds) as

/-! ## What is spelled -/

section
variable {β : Type} {r : β → Rendering} {l : β → List Literal}

/-- A stretch without braces, with the output `ys` for the `rest` of the source after it. -/
theorem spelled_stretch {xs rest ys : List Char} {ws : List β} {ms : List Literal} (hx : Unbraced xs)
    (hrest : leadingTag rest = []) (hu : Unmarked xs) (ha : Apart (xs ++ rest)) (hy : Spelled ys ms)
    (hbare : (rest.dropWhile isBrace).head? ≠ some '?' → Bare ys) (hlen : ws.length = xs.count '?')
    (hw : ∀ w ∈ ws, Spelled (r w).chars (l w)) :
    Spelled (meaning xs (ws.map r) ++ ys) (ws.flatMap l ++ ms) := by
  induction xs using tag_induction generalizing ws with
  | nil =>
    obtain rfl := List.eq_nil_of_length_eq_zero hlen
    rw [meaning]
    exact hy
  | char c xs hm ih =>
    obtain ⟨hc, hx⟩ := unbraced_cons.mp hx
    obtain ⟨huc, hu⟩ := unmarked_cons.mp hu
    rw [List.count_cons_of_ne hm] at hlen
    rw [meaning_char hc hm]
    exact .plain huc (ih hx hu ha.of_cons hlen hw)
  | mark xs ih =>
    obtain ⟨-, hx⟩ := unbraced_cons.mp hx
    cases ws with
    | nil => simp at hlen
    | cons w ws =>
      have hxu : Unmarked (afterTag xs) := fun c hc =>
        hu c (List.mem_cons_of_mem _ ((List.dropWhile_sublist _).mem hc))
      have hxa : Apart (afterTag xs ++ rest) := by
        have hsplit : '?' :: xs ++ rest = ('?' :: leadingTag xs) ++ (afterTag xs ++ rest) := by
          conv_lhs => rw [← leadingTag_append_afterTag xs]
          simp
        rw [hsplit] at ha
        exact ha.of_append
      have hws : ws.length = (afterTag xs).count '?' := by
        rw [count_afterTag]
        simpa using hlen
      have htail := ih (unbraced_afterTag hx) hxu hxa hws fun w hmem => hw w (List.mem_cons_of_mem _ hmem)
      rw [List.map_cons, meaning_mark, List.append_assoc, List.flatMap_cons, List.append_assoc]
      refine (hw w (List.mem_cons_self ..)).append htail ?_
      have hnext : ((afterTag xs ++ rest).dropWhile isBrace).head? ≠ some '?' := by
        rw [← afterTag_append (leadingTag_append hrest xs)]
        exact ha [] (xs ++ rest) rfl
      exact bare_stretch (unbraced_afterTag hx) hxu hnext hbare _

theorem spelled_braced {body rest : List Char} {ws : List β} {rs : List Rendering} {ms : List Literal}
    (hb : Unbraced body) (hu : Unmarked body) (ha : Apart (braced body ++ rest)) (hlen : ws.length = body.count '?')
    (hms : Spelled (meaning rest rs) ms) (hbare : (rest.dropWhile isBrace).head? ≠ some '?' → Bare (meaning rest rs))
    (hw : ∀ w ∈ ws, Spelled (r w).chars (l w)) :
    Spelled (meaning (braced body ++ rest) (ws.map r ++ rs))
      ((if ws.any fun w => (r w).isSkip then [] else ws).flatMap l ++ ms) := by
  have hany : (ws.map r).any Rendering.isSkip = ws.any fun w => (r w).isSkip := List.any_map
  rw [meaning_braced hb rest (by rwa [List.length_map]), hany]
  split
  · exact .plain isMark_space hms
  · refine spelled_stretch hb (leadingTag_close rest) hu ha.of_braced hms (fun h => hbare ?_) hlen hw
    rwa [List.dropWhile_cons_of_pos isBrace_close] at h

end

/-- **What is built** is spelled with the literals of the placeholders that remain. -/
theorem Markup.spelled {α : Type} {skip : α → Bool} {r : Placeholder × α → Rendering}
    {l : Placeholder × α → List Literal} {offset : Nat} {cs : List Char} {xs : List (Placeholder × α)}
    {fs : List Fragment} (h : Markup offset cs xs fs) (hu : Unmarked cs) (ha : Apart cs)
    (hl : ∀ x ∈ xs, Spelled (r x).chars (l x)) (hskip : ∀ x ∈ xs, (r x).isSkip = skip x.2) :
    Spelled (meaning cs (xs.map r)) ((remaining skip fs xs).flatMap l) := by
  -- The rest comes first: what it begins with decides whether a literal before it is over.
  induction h with
  | @plain offset cs xs hcs hs =>
    have h := spelled_stretch hcs rfl hu (by rwa [List.append_nil]) .nil (fun _ => by simp [Bare])
      (length_of_scan_fst hs) hl
    rw [List.append_nil, List.append_nil] at h
    rwa [remaining_nil]
  | @fragment offset before body rest xs ys zs fs hb hx hi hy hm ih =>
    simp only [List.forall_mem_append] at hl hskip
    obtain ⟨hlx, hly, hlz⟩ := hl
    obtain ⟨-, hsy, hsz⟩ := hskip
    obtain ⟨hub, hu⟩ := unmarked_append.mp hu
    obtain ⟨hui, hur⟩ := unmarked_braced.mp hu
    have hrest := ih hur ha.of_append.of_braced.of_append.of_cons hlz hsz
    have hlenz : (zs.map r).length = rest.count '?' := by rw [List.length_map, hm.length_eq]
    have hbare := fun h => bare_meaning hm.balanced hur h hlenz
    have hinner := spelled_braced hi hui ha.of_append (length_of_scan_fst hy) hrest hbare hly
    rw [any_congr_of_mem hsy] at hinner
    have hstarts : ∀ g ∈ fs, (fragmentAt (offset + byteLength before) body).span.stop ≤ g.span.start := hm.starts
    rw [(Markup.around hx hy hm).remaining hstarts, List.flatMap_append, List.flatMap_append, List.map_append,
      List.map_append, meaning_append_of_unbraced hb (tags_append (leadingTag_braced _ _) _) (length_map_of_scan hx r)]
    exact spelled_stretch hb (leadingTag_braced body rest) hub ha hinner
      (fun h => bare_braced hi hui h (length_map_of_scan hy r) hbare) (length_of_scan_fst hx) hlx

/-! ## Placeholders that are separated -/

/-- Between two placeholders that follow each other stands a character other than a brace. -/
def Separated (source : List Char) (ps : List Placeholder) : Prop :=
  ps.IsChain fun p q => ∃ c ∈ (Span.mk p.span.stop q.span.start).slice source, isBrace c = false

theorem slice_of_scan {pre cs xs rest : List Char} {p : Placeholder} {qs : List Placeholder}
    (hp : Placeholder.at? (byteLength pre) cs = .ok p) (hq : Placeholder.scan (byteLength pre + 1) cs = .ok qs)
    (hcs : afterTag cs = xs ++ '?' :: rest) (hx : ∀ c ∈ xs, c ≠ '?') :
    ∃ q qs', qs = q :: qs' ∧ (Span.mk p.span.stop q.span.start).slice (pre ++ '?' :: cs) = xs := by
  rw [Placeholder.scan_tag, hcs, Placeholder.scan_skip hx] at hq
  rcases Placeholder.scan_cons_eq_ok hq with ⟨h, -⟩ | ⟨-, q, qs', hq', -, rfl⟩
  · exact (h rfl).elim
  have hpre : byteLength (pre ++ '?' :: leadingTag cs) = byteLength pre + 1 + byteLength (leadingTag cs) := by
    simp only [byteLength_append, byteLength, utf8Size_mark, Nat.add_assoc]
  have hsource : pre ++ '?' :: cs = (pre ++ '?' :: leadingTag cs) ++ (xs ++ '?' :: rest) := by
    rw [← hcs, List.append_assoc, List.cons_append, leadingTag_append_afterTag]
  obtain ⟨-, hpspan⟩ := Placeholder.at?_eq_ok_iff.mp hp
  obtain ⟨-, hqspan⟩ := Placeholder.at?_eq_ok_iff.mp hq'
  refine ⟨q, qs', rfl, ?_⟩
  rw [hpspan, hqspan, hsource, ← hpre]
  exact Span.slice_append _ _ _

theorem apart_of_scan (pre : List Char) {cs : List Char} {ps : List Placeholder}
    (h : Placeholder.scan (byteLength pre) cs = .ok ps) (hsep : Separated (pre ++ cs) ps) : Apart cs := by
  induction cs generalizing pre ps with
  | nil => exact fun pre post hp => by simp at hp
  | cons c cs ih =>
    have hpre : byteLength (pre ++ [c]) = byteLength pre + c.utf8Size := by simp [byteLength]
    have hsource : pre ++ c :: cs = (pre ++ [c]) ++ cs := by simp
    rcases Placeholder.scan_cons_eq_ok h with ⟨hc, h⟩ | ⟨rfl, p, qs, hp, hq, rfl⟩
    · rw [← hpre] at h
      rw [hsource] at hsep
      rintro (_ | ⟨d, pre'⟩) post hp
      · exact (hc (List.cons.inj hp).1).elim
      · exact ih _ h hsep pre' post (List.cons.inj hp).2
    · rintro (_ | ⟨d, pre'⟩) post hp'
      · obtain rfl := (List.cons.inj hp').2
        -- If braces alone came between, the next placeholder would begin right after them.
        intro hh
        obtain ⟨rest, hrest⟩ := List.head?_eq_some_iff.mp hh
        have hsplit : afterTag cs = (afterTag cs).takeWhile isBrace ++ '?' :: rest := by
          rw [← hrest, List.takeWhile_append_dropWhile]
        have hbraces : ∀ c ∈ (afterTag cs).takeWhile isBrace, isBrace c = true :=
          List.all_eq_true.mp List.all_takeWhile
        have hmark : isBrace '?' = false := by decide
        obtain ⟨q, qs, rfl, hslice⟩ := slice_of_scan hp hq hsplit fun c hc he => by
          rw [he] at hc
          exact absurd (hbraces _ hc) (by simp [hmark])
        obtain ⟨c, hc, hsolid⟩ := (List.isChain_cons_cons.mp hsep).1
        rw [hslice] at hc
        exact absurd (hbraces c hc) (by simp [hsolid])
      · rw [utf8Size_mark] at hpre
        rw [← hpre] at hq
        rw [hsource] at hsep
        exact ih _ hq hsep.tail pre' post (List.cons.inj hp').2

/-- **Quoting holds**: the literals in what is built are those of the arguments
that remain, with their blanks squeezed, and what is built ends outside them. -/
theorem literals_render {source sql : String} {t : Template} {args : List Arg} (h : Template.parse source = .ok t)
    (hquotes : ∀ c ∈ source.toList, c ∉ ['\'', '"', '\x60', '\\'])
    (hsep : Separated source.toList t.placeholders) (hr : t.render .mySql args = .ok sql) :
    literals sql.toList =
      some ((t.remaining args).flatMap fun x => (x.2.quoted x.1.kind).map Literal.squeezed) := by
  have hu : Unmarked source.toList := by
    intro c hc
    have hn := hquotes c hc
    simp only [List.mem_cons, not_or] at hn
    rw [isMark, Bool.or_eq_false_iff, beq_eq_false_iff_ne, beq_eq_false_iff_ne]
    exact ⟨hn.1, hn.2.2.1⟩
  have ha : Apart source.toList := apart_of_scan [] (parse_eq_ok_iff.mp h).2.1 hsep
  rw [render_eq .mySql h] at hr
  cases hrs : t.renderArgs .mySql args with
  | error e => rw [hrs] at hr; cases hr
  | ok rs =>
    rw [hrs] at hr
    obtain rfl := Except.ok.inj hr
    obtain ⟨hlen, hall⟩ := (renderArgs_eq_ok_iff .mySql).mp hrs
    obtain ⟨r, rfl, hok⟩ := exists_map_of_forall₂ .skip hall
    obtain ⟨-, hm⟩ := markup_of_parse h hlen
    have hspelled := hm.spelled hu ha (fun x hx => Arg.spelled_render (hok x hx)) fun x hx =>
      Arg.isSkip_of_render .mySql (hok x hx)
    rw [String.toList_ofList, hspelled.normalise.read, List.map_flatMap]
    rfl

/-- A doubled mark, a run of blanks before a newline and a backslash at the end,
around a fragment that is elided. -/
theorem literals_render_escaped :
    literals "`a`` b` = `k` = 'it\\'s \\n\\\\'".toList =
      some [⟨.name, "a` b".toList⟩, ⟨.name, "k".toList⟩, ⟨.text, "it's \n\\".toList⟩] := by
  let t : Template := ⟨"?# \x7bAND ?\x7d= ?a",
    [⟨⟨0, 2⟩, .identifiers⟩, ⟨⟨8, 9⟩, .generic⟩, ⟨⟨12, 14⟩, .assignments⟩], [⟨⟨3, 10⟩⟩]⟩
  have h : Template.parse t.source = .ok t := by decide
  have hsep : Separated t.source.toList t.placeholders :=
    .cons_cons ⟨' ', by decide, by decide⟩ (.cons_cons ⟨'=', by decide, by decide⟩ (.singleton _))
  have hr : t.render .mySql [.text "a` \t b", .skip, .map [("k", .text "it's \t\n\\")]] =
      .ok "`a`` b` = `k` = 'it\\'s \\n\\\\'" := by decide
  have hquotes : t.source.toList.all (fun c => decide (c ∉ ['\'', '"', '\x60', '\\'])) = true := by decide
  have hnone := fun c hc => of_decide_eq_true (List.all_eq_true.mp hquotes c hc)
  exact (literals_render h hnone hsep hr).trans (by decide)

end QueryTemplate
