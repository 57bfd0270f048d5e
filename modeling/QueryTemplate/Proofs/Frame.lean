import QueryTemplate.Proofs.Stages

/-!
# The place of an argument

The text of one argument has a place of its own in what is built: what comes
before and after it is settled by the template and the other arguments
(`Markup.frame`), as long as none of these takes the fragment around it. Its ends
are solid, so no blank of the neighbouring text reaches into it.
-/

namespace QueryTemplate

/-- A text inside two others that do not depend on it, or left out if `taken`. -/
def Framed (taken : Bool) (g : String → List Char) : Prop :=
  if taken then ∀ s s', g s = g s' else ∃ pre post, ∀ s, g s = pre ++ (s.toList ++ post)

theorem Framed.eq {g : String → List Char} (h : Framed true g) (s s' : String) : g s = g s' := h s s'

theorem Framed.split {g : String → List Char} (h : Framed false g) :
    ∃ pre post, ∀ s, g s = pre ++ (s.toList ++ post) := h

theorem Framed.after {taken : Bool} {g : String → List Char} (h : Framed taken g) (xs : List Char) :
    Framed taken fun s => xs ++ g s := by
  cases taken with
  | true => exact fun s s' => congrArg (xs ++ ·) (h s s')
  | false =>
    obtain ⟨pre, post, h⟩ := h
    refine ⟨xs ++ pre, post, ?_⟩
    intro s
    simp only [h, List.append_assoc]

theorem Framed.before {taken : Bool} {g : String → List Char} (h : Framed taken g) (ys : List Char) :
    Framed taken fun s => g s ++ ys := by
  cases taken with
  | true => exact fun s s' => congrArg (· ++ ys) (h s s')
  | false =>
    obtain ⟨pre, post, h⟩ := h
    refine ⟨pre, post ++ ys, ?_⟩
    intro s
    simp only [h, List.append_assoc]

theorem framed_stretch {cs : List Char} (hcs : Unbraced cs) {rs ss : List Rendering}
    (hlen : rs.length + (ss.length + 1) = cs.count '?') :
    Framed false fun s => meaning cs (rs ++ .sql s :: ss) := by
  induction cs using tag_induction generalizing rs with
  | nil => simp at hlen
  | char c cs hm ih =>
    obtain ⟨hc, hcs⟩ := unbraced_cons.mp hcs
    rw [List.count_cons_of_ne hm] at hlen
    simp only [meaning_char hc hm]
    exact (ih hcs hlen).after [c]
  | mark cs ih =>
    obtain ⟨hc, hcs⟩ := unbraced_cons.mp hcs
    cases rs with
    | nil =>
      refine ⟨[], meaning (afterTag cs) ss, ?_⟩
      intro s
      exact meaning_mark cs (.sql s) ss
    | cons r rs =>
      have hlen' : rs.length + (ss.length + 1) = (afterTag cs).count '?' := by
        rw [count_afterTag]
        simp at hlen
        omega
      simp only [List.cons_append, meaning_mark]
      exact (ih (unbraced_afterTag hcs) hlen').after r.chars

theorem framed_braced {body : List Char} (hb : Unbraced body) (rest : List Char) {rs ss : List Rendering}
    (hlen : rs.length + (ss.length + 1) = body.count '?') (rs' : List Rendering) :
    Framed (rs.any Rendering.isSkip || ss.any Rendering.isSkip) fun s =>
      meaning (braced body ++ rest) (rs ++ .sql s :: (ss ++ rs')) := by
  have hany (s : String) : (rs ++ .sql s :: ss).any Rendering.isSkip =
      (rs.any Rendering.isSkip || ss.any Rendering.isSkip) := by
    simp [Rendering.isSkip]
  have hcount (s : String) : (rs ++ .sql s :: ss).length = body.count '?' := by
    simpa using hlen
  have hmeaning (s : String) := meaning_braced hb rest (hcount s) rs'
  simp only [List.append_assoc, List.cons_append, hany] at hmeaning
  simp only [hmeaning]
  cases rs.any Rendering.isSkip || ss.any Rendering.isSkip with
  | true => exact fun s s' => rfl
  | false => exact (framed_stretch hb hlen).before _

theorem split_append {α : Type} {as bs xs ys : List α} {x : α} (h : as ++ bs = xs ++ x :: ys) :
    (∃ zs, as = xs ++ x :: zs ∧ ys = zs ++ bs) ∨ ∃ zs, xs = as ++ zs ∧ bs = zs ++ x :: ys := by
  rcases List.append_eq_append_iff.mp h with ⟨zs, hxs, hbs⟩ | ⟨zs, has, hzs⟩
  · exact .inr ⟨zs, hxs, hbs⟩
  · cases zs with
    | nil => exact .inr ⟨[], by simpa using has.symm, hzs.symm⟩
    | cons z zs =>
      obtain ⟨rfl, rfl⟩ := List.cons.inj hzs
      exact .inl ⟨zs, has, rfl⟩

theorem any_isSkip_map {α : Type} {skip : α → Bool} {r : Placeholder × α → Rendering} {xs : List (Placeholder × α)}
    (h : ∀ x ∈ xs, (r x).isSkip = skip x.2) : (xs.map r).any Rendering.isSkip = xs.any fun x => skip x.2 := by
  rw [List.any_map]
  exact any_congr_of_mem h

/-- **The place of a placeholder** in the meaning, with its rendering `s` left open. -/
theorem Markup.frame {α : Type} {skip : α → Bool} {r : Placeholder × α → Rendering} {offset : Nat} {cs : List Char}
    {zs : List (Placeholder × α)} {fs : List Fragment} (h : Markup offset cs zs fs)
    {xs ys : List (Placeholder × α)} {z : Placeholder × α} (hzs : zs = xs ++ z :: ys) (hz : skip z.2 = false)
    (hr : ∀ x ∈ xs ++ ys, (r x).isSkip = skip x.2) :
    Framed (takes skip fs zs z.1) fun s => meaning cs (xs.map r ++ .sql s :: ys.map r) := by
  induction h generalizing xs ys with
  | @plain offset cs zs hcs hs =>
    have hlen := length_of_scan_fst hs
    apply framed_stretch hcs
    rw [← hlen, hzs]
    simp
  | @fragment offset before body rest as bs ds fs hb hx hi hy hm ih =>
    have ha := Markup.around hx hy hm
    have hfs : ∀ g ∈ fs, (fragmentAt (offset + byteLength before) body).span.stop ≤ g.span.start := hm.starts
    have hcut := tags_append (leadingTag_braced body rest) before
    have hmem {us vs : List (Placeholder × α)} : z ∈ us ++ z :: vs := List.mem_append_right _ (List.mem_cons_self ..)
    rcases split_append hzs with ⟨as', rfl, rfl⟩ | ⟨xs, rfl, hbs⟩
    · -- The placeholder comes before the fragment.
      have hlen : (xs.map r).length + ((as'.map r).length + 1) = before.count '?' := by
        rw [← length_of_scan_fst hx]
        simp
      have hmeaning (s : String) : meaning (before ++ (braced body ++ rest))
          (xs.map r ++ .sql s :: (as' ++ (bs ++ ds)).map r) =
            meaning before (xs.map r ++ .sql s :: as'.map r) ++ meaning (braced body ++ rest) ((bs ++ ds).map r) := by
        rw [← meaning_append_of_unbraced hb hcut (by simpa using hlen)]
        simp
      simp only [ha.takes_before hfs skip _ hmem, hmeaning]
      exact (framed_stretch hb hlen).before _
    · have hmeaning (rs : List Rendering) : meaning (before ++ (braced body ++ rest)) (as.map r ++ rs) =
          meaning before (as.map r) ++ meaning (braced body ++ rest) rs :=
        meaning_append_of_unbraced hb hcut (length_map_of_scan hx r) rs
      rcases split_append hbs with ⟨bs', rfl, rfl⟩ | ⟨xs, rfl, rfl⟩
      · -- It lies in the fragment.
        have hlen : (xs.map r).length + ((bs'.map r).length + 1) = body.count '?' := by
          rw [← length_of_scan_fst hy]
          simp
        simp only [List.forall_mem_append] at hr
        obtain ⟨⟨-, hxs⟩, hys, -⟩ := hr
        have hany : ((xs ++ z :: bs').any fun y => skip y.2) =
            ((xs.map r).any Rendering.isSkip || (bs'.map r).any Rendering.isSkip) := by
          rw [List.any_append, List.any_cons, hz, Bool.false_or, any_isSkip_map hxs, any_isSkip_map hys]
        rw [ha.takes_inside hfs skip hmem, hany]
        simp only [List.map_append, List.append_assoc, hmeaning]
        exact (framed_braced hi rest hlen (ds.map r)).after _
      · -- It comes after the fragment.
        simp only [List.append_assoc, List.forall_mem_append] at hr
        have hrest := ih rfl (List.forall_mem_append.mpr hr.2.2)
        rw [ha.takes_after hfs skip hmem]
        simp only [List.map_append, List.append_assoc, hmeaning, meaning_braced hi rest (length_map_of_scan hy r)]
        exact (hrest.after _).after _

/-! ## Rendering around an argument -/

theorem takes_others {α : Type} {skip : α → Bool} {z : Placeholder × α} (hz : skip z.2 = false) (fs : List Fragment)
    (xs ys : List (Placeholder × α)) (p : Placeholder) :
    takes skip fs (xs ++ z :: ys) p = takes skip fs (xs ++ ys) p := by
  unfold takes
  apply any_congr_of_mem
  intro f _
  unfold Fragment.holdsSkip
  rw [Fragment.holds_append, Fragment.holds_append, List.any_append, List.any_append]
  by_cases hf : f.contains z.1 = true
  · simp [Fragment.holds, hf, hz]
  · simp [Fragment.holds, hf]

section
variable (E : Escaper)

def filling (x : Placeholder × Arg) : Rendering := (x.2.render E x.1.kind).toOption.getD (.sql "")

theorem filling_of_render {p : Placeholder} {a : Arg} {r : Rendering} (h : a.render E p.kind = .ok r) :
    filling E (p, a) = r := by
  simp only [filling, h]
  rfl

theorem sql_of_render {kind : Kind} {a : Arg} {r : Rendering} (ha : a.isSkip = false) (h : a.render E kind = .ok r) :
    ∃ s, r = .sql s := by
  rcases Arg.render_eq_ok E h with ⟨rfl, -⟩ | ⟨-, s, -, hr⟩
  · cases ha
  · exact ⟨s, hr⟩

theorem isSkip_filling (x : Placeholder × Arg) : (filling E x).isSkip = x.2.isSkip := by
  unfold filling
  cases hr : x.2.render E x.1.kind with
  | ok r => exact Arg.isSkip_of_render E hr
  | error e =>
    cases hs : x.2.isSkip with
    | false => rfl
    | true =>
      rw [Arg.eq_skip_of_isSkip hs] at hr
      cases hr

variable {source : String} {t : Template} {ps qs : List Placeholder} {p : Placeholder} {before after : List Arg}

theorem zip_hole (hbefore : before.length = ps.length) (a : Arg) :
    (ps ++ p :: qs).zip (before ++ a :: after) = ps.zip before ++ (p, a) :: qs.zip after := by
  rw [List.zip_append hbefore.symm, List.zip_cons_cons]

theorem render_hole (h : Template.parse source = .ok t) (hp : t.placeholders = ps ++ p :: qs)
    (hbefore : before.length = ps.length) {a : Arg} {sql : String} (hr : t.render E (before ++ a :: after) = .ok sql) :
    after.length = qs.length ∧ ∃ r, a.render E p.kind = .ok r ∧ sql = String.ofList (normalise (meaning source.toList
      ((ps.zip before).map (filling E) ++ r :: (qs.zip after).map (filling E)))) := by
  rw [render_eq E h] at hr
  cases hrs : t.renderArgs E (before ++ a :: after) with
  | error e => rw [hrs] at hr; cases hr
  | ok rs =>
    rw [hrs] at hr
    obtain rfl := Except.ok.inj hr
    obtain ⟨hlen, hall⟩ := (renderArgs_eq_ok_iff E).mp hrs
    have hafter : after.length = qs.length := by
      simp [Template.arity, hp, hbefore] at hlen
      exact hlen
    rw [hp, zip_hole hbefore] at hall
    have hrs : rs = (ps.zip before ++ (p, a) :: qs.zip after).map (filling E) :=
      eq_map_of_forall₂ (Rendering.sql "") hall
    obtain ⟨r, hr⟩ := exists_ok_of_forall₂ hall (List.mem_append_right _ (List.mem_cons_self ..))
    refine ⟨hafter, r, hr, ?_⟩
    rw [hrs, List.map_append, List.map_cons, filling_of_render E hr]

theorem framed_render (h : Template.parse source = .ok t) (hp : t.placeholders = ps ++ p :: qs)
    (hbefore : before.length = ps.length) (hafter : after.length = qs.length) :
    Framed (takes Arg.isSkip t.fragments (ps.zip before ++ qs.zip after) p) fun s =>
      meaning source.toList ((ps.zip before).map (filling E) ++ .sql s :: (qs.zip after).map (filling E)) := by
  have hlen : (before ++ Arg.null :: after).length = t.arity := by
    simp [Template.arity, hp, hbefore, hafter]
  obtain ⟨-, hm⟩ := markup_of_parse h hlen
  rw [hp, zip_hole hbefore] at hm
  rw [← takes_others (z := (p, Arg.null)) rfl]
  exact hm.frame rfl rfl fun x _ => isSkip_filling E x

/-- **The frame of an argument**: its text stands in what is built with its blanks
collapsed, and the rest is settled without it. -/
theorem render_frame (h : Template.parse source = .ok t) (hp : t.placeholders = ps ++ p :: qs)
    (hbefore : before.length = ps.length) :
    (∀ (kind : Kind) (a : Arg) (text : String), a.render E kind = .ok (.sql text) → Solid text.toList) ∧
      (takes Arg.isSkip t.fragments (ps.zip before ++ qs.zip after) p = true → ∀ (a a' : Arg) (sql sql' : String),
        a.isSkip = false → a'.isSkip = false → t.render E (before ++ a :: after) = .ok sql →
          t.render E (before ++ a' :: after) = .ok sql' → sql = sql') ∧
      (takes Arg.isSkip t.fragments (ps.zip before ++ qs.zip after) p = false → ∃ pre post : String,
        ∀ (a : Arg) (text sql : String), a.render E p.kind = .ok (.sql text) →
          t.render E (before ++ a :: after) = .ok sql →
            sql = pre ++ String.ofList (collapse isBlank text.toList) ++ post) := by
  refine ⟨fun _ _ _ => Arg.solid_render E, ?_, ?_⟩
  · intro htaken a a' sql sql' ha ha' hr hr'
    obtain ⟨hafter, r, hra, rfl⟩ := render_hole E h hp hbefore hr
    obtain ⟨-, r', hra', rfl⟩ := render_hole E h hp hbefore hr'
    obtain ⟨s, rfl⟩ := sql_of_render E ha hra
    obtain ⟨s', rfl⟩ := sql_of_render E ha' hra'
    have hframed := framed_render E h hp hbefore hafter
    rw [htaken] at hframed
    rw [hframed.eq s s']
  · intro hfree
    by_cases hafter : after.length = qs.length
    · have hframed := framed_render E h hp hbefore hafter
      rw [hfree] at hframed
      obtain ⟨xs, ys, hmeaning⟩ := hframed.split
      obtain ⟨pre, post, hline⟩ := normalise_solid xs ys
      refine ⟨String.ofList pre, String.ofList post, ?_⟩
      intro a text sql ha hr
      obtain ⟨-, r, hra, rfl⟩ := render_hole E h hp hbefore hr
      obtain rfl := Except.ok.inj (ha.symm.trans hra)
      rw [hmeaning, hline _ (Arg.solid_render E ha), String.ofList_append, String.ofList_append, String.append_assoc]
    · -- Nothing is built from too few or too many arguments.
      refine ⟨"", "", ?_⟩
      intro a text sql ha hr
      exact absurd (render_hole E h hp hbefore hr).1 hafter

end

/-- An argument that shares its fragment with a skip, and with a number. -/
theorem render_frame_shared :
    (∀ sql sql', build .mySql "\x7b?d\x7d a \x7b= ? or ?d\x7d" [.skip, .text "x \t y", .skip] = .ok sql →
      build .mySql "\x7b?d\x7d a \x7b= ? or ?d\x7d" [.skip, .int 1, .skip] = .ok sql' → sql = sql') ∧
    ∃ pre post : String, "a = 'x y' or 5" = pre ++ "'x y'" ++ post ∧ "a = 1 or 5" = pre ++ "1" ++ post := by
  let t : Template := ⟨"\x7b?d\x7d a \x7b= ? or ?d\x7d",
    [⟨⟨1, 3⟩, .int⟩, ⟨⟨10, 11⟩, .generic⟩, ⟨⟨15, 17⟩, .int⟩], [⟨⟨0, 4⟩⟩, ⟨⟨7, 18⟩⟩]⟩
  have h : Template.parse t.source = .ok t := by decide
  have hp : t.placeholders = [⟨⟨1, 3⟩, .int⟩] ++ ⟨⟨10, 11⟩, .generic⟩ :: [⟨⟨15, 17⟩, .int⟩] := rfl
  constructor
  · intro sql sql' hr hr'
    have hbuild := build_of_parse .mySql h
    obtain ⟨-, htaken, -⟩ := @render_frame .mySql _ t _ _ _ [.skip] [.skip] h hp rfl
    exact htaken (by decide) (.text "x \t y") (.int 1) sql sql' rfl rfl ((hbuild _).symm.trans hr)
      ((hbuild _).symm.trans hr')
  · obtain ⟨-, -, hfree⟩ := @render_frame .mySql _ t _ _ _ [.skip] [.int 5] h hp rfl
    obtain ⟨pre, post, hsql⟩ := hfree (by decide)
    refine ⟨pre, post, ?_, ?_⟩
    · exact hsql (.text "x \t y") "'x \t y'" "a = 'x y' or 5" (by decide) (by decide)
    · exact hsql (.int 1) "1" "a = 1 or 5" (by decide) (by decide)

end QueryTemplate
