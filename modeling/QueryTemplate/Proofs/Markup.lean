import QueryTemplate.Proofs.Braces
import QueryTemplate.Proofs.Outcomes
import QueryTemplate.Proofs.Tags
import QueryTemplate.Template

/-!
# The markup of a template

A parsed template is read as stretches of text without braces, each with its
placeholders, and the fragments between them. `Markup` is this reading with its
offsets and with what fills the placeholders; what is proved of a template goes
by induction on it.
-/

namespace QueryTemplate

/-- The placeholders, each with what fills it, and the fragments of a text that
begins at `offset`. -/
inductive Markup {α : Type} : Nat → List Char → List (Placeholder × α) → List Fragment → Prop
  | plain {offset cs xs} : Unbraced cs → Placeholder.scan offset cs = .ok (xs.map Prod.fst) →
      Markup offset cs xs []
  | fragment {offset before body rest xs ys zs fs} :
      Unbraced before → Placeholder.scan offset before = .ok (xs.map Prod.fst) →
      Unbraced body → Placeholder.scan (offset + byteLength before + 1) body = .ok (ys.map Prod.fst) →
      Markup (offset + byteLength before + byteLength (braced body)) rest zs fs →
      Markup offset (before ++ (braced body ++ rest)) (xs ++ (ys ++ zs))
        (fragmentAt (offset + byteLength before) body :: fs)

/-! ## Tags end at braces -/

theorem leadingTag_open (cs : List Char) : leadingTag ('\x7b' :: cs) = [] := by
  have h : isTagChar '\x7b' = false := by decide
  simp [leadingTag, h]

theorem leadingTag_close (cs : List Char) : leadingTag ('\x7d' :: cs) = [] := by
  have h : isTagChar '\x7d' = false := by decide
  simp [leadingTag, h]

theorem leadingTag_braced (body rest : List Char) : leadingTag (braced body ++ rest) = [] := by
  rw [braced_append, leadingTag_open]

theorem tags_braced (body rest : List Char) : tags (braced body ++ rest) = tags body ++ tags rest := by
  rw [braced_append, tags, if_neg (by decide), tags_append (leadingTag_close rest), tags, if_neg (by decide)]

theorem kinds_braced (body rest : List Char) : kinds (braced body ++ rest) = kinds body ++ kinds rest := by
  rw [kinds, tags_braced, List.filterMap_append]
  rfl

theorem wellTagged_braced {body rest : List Char} :
    WellTagged (braced body ++ rest) ↔ WellTagged body ∧ WellTagged rest := by
  simp [WellTagged, tags_braced, or_imp, forall_and]

theorem count_braced (body rest : List Char) :
    (braced body ++ rest).count '?' = body.count '?' + rest.count '?' := by
  have ho : ('\x7b' : Char) ≠ '?' := by decide
  have hc : ('\x7d' : Char) ≠ '?' := by decide
  rw [braced_append, List.count_cons_of_ne ho, List.count_append, List.count_cons_of_ne hc]

theorem scan_braced (offset : Nat) (body rest : List Char) :
    Placeholder.scan offset (braced body ++ rest) = (do
      let ps ← Placeholder.scan (offset + 1) body
      let qs ← Placeholder.scan (offset + byteLength (braced body)) rest
      return ps ++ qs) := by
  rw [braced_append, Placeholder.scan, if_neg (by decide), utf8Size_open,
    Placeholder.scan_append (leadingTag_close rest), Placeholder.scan.eq_def _ ('\x7d' :: rest)]
  simp only [show ('\x7d' : Char) ≠ '?' by decide, if_false, utf8Size_close, offset_braced]

theorem leadingTag_space (cs : List Char) : leadingTag (' ' :: cs) = [] := by
  have h : isTagChar ' ' = false := by decide
  simp [leadingTag, h]

theorem wellTagged_space {cs : List Char} : WellTagged (' ' :: cs) ↔ WellTagged cs := by
  rw [WellTagged, tags, if_neg (by decide)]
  rfl

theorem kinds_space (cs : List Char) : kinds (' ' :: cs) = kinds cs := by
  rw [kinds, tags, if_neg (by decide)]
  rfl

/-! ## Well-formed sources -/

/-- What can be parsed: every brace belongs to a fragment, and every question mark begins a placeholder. -/
structure WellFormed (cs : List Char) : Prop where
  balanced : Balanced cs
  tagged : WellTagged cs

namespace WellFormed

theorem append {xs ys : List Char} (hx : WellFormed xs) (hy : WellFormed ys) (hcut : leadingTag ys = []) :
    WellFormed (xs ++ ys) where
  balanced := balanced_append hx.balanced hy.balanced
  tagged := (wellTagged_append hcut).mpr ⟨hx.tagged, hy.tagged⟩

theorem braced {body rest : List Char} (hb : Unbraced body) (ht : WellTagged body) (hr : WellFormed rest) :
    WellFormed (braced body ++ rest) where
  balanced := balanced_braced hb hr.balanced
  tagged := wellTagged_braced.mpr ⟨ht, hr.tagged⟩

theorem space {cs : List Char} (h : WellFormed cs) : WellFormed (' ' :: cs) where
  balanced := h.balanced.cons (by decide)
  tagged := wellTagged_space.mpr h.tagged

end WellFormed

/-! ## Reading a template -/

theorem Balanced.markup {α : Type} {cs : List Char} (h : Balanced cs) {offset : Nat} {xs : List (Placeholder × α)}
    (hs : Placeholder.scan offset cs = .ok (xs.map Prod.fst)) :
    Markup offset cs xs (Fragment.scanFrom offset none cs) := by
  induction h generalizing offset xs with
  | plain hcs =>
    rw [Fragment.scanFrom_unbraced hcs]
    exact .plain hcs hs
  | fragment hb hi _ ih =>
    rw [Placeholder.scan_append (leadingTag_braced _ _), scan_braced] at hs
    obtain ⟨ps, hp, hs⟩ := bind_eq_ok hs
    obtain ⟨qs, hqs, hs⟩ := bind_eq_ok hs
    obtain ⟨as, bs, rfl, rfl, rfl⟩ := List.map_eq_append_iff.mp (Except.ok.inj hs).symm
    obtain ⟨ps, hq, hqs⟩ := bind_eq_ok hqs
    obtain ⟨qs, hr, hqs⟩ := bind_eq_ok hqs
    obtain ⟨bs, ds, rfl, rfl, rfl⟩ := List.map_eq_append_iff.mp (Except.ok.inj hqs).symm
    rw [Fragment.scanFrom_append hb, Fragment.scanFrom_braced hi]
    exact .fragment hb hp hi hq (ih hr)

theorem length_of_scan_fst {α : Type} {offset : Nat} {cs : List Char} {xs : List (Placeholder × α)}
    (h : Placeholder.scan offset cs = .ok (xs.map Prod.fst)) : xs.length = cs.count '?' := by
  rw [← Placeholder.length_of_scan h, List.length_map]

theorem length_map_of_scan {α β : Type} {offset : Nat} {cs : List Char} {xs : List (Placeholder × α)}
    (h : Placeholder.scan offset cs = .ok (xs.map Prod.fst)) (g : Placeholder × α → β) :
    (xs.map g).length = cs.count '?' := by
  rw [List.length_map, length_of_scan_fst h]

theorem Markup.balanced {α : Type} {offset : Nat} {cs : List Char} {xs : List (Placeholder × α)}
    {fs : List Fragment} (h : Markup offset cs xs fs) : Balanced cs := by
  induction h with
  | plain hcs => exact .plain hcs
  | fragment hb _ hi _ _ ih => exact .fragment hb hi ih

theorem Markup.length_eq {α : Type} {offset : Nat} {cs : List Char} {xs : List (Placeholder × α)}
    {fs : List Fragment} (h : Markup offset cs xs fs) : xs.length = cs.count '?' := by
  induction h with
  | plain _ hs => exact length_of_scan_fst hs
  | fragment _ hx _ hy _ ih =>
    rw [List.length_append, List.length_append, List.count_append, count_braced, ih, length_of_scan_fst hx,
      length_of_scan_fst hy]

theorem parse_eq (source : String) :
    Template.parse source = match Fragment.check source.toList with
      | .error e => .error e
      | .ok () => (Placeholder.scan 0 source.toList).map fun ps => ⟨source, ps, Fragment.scan source.toList⟩ := by
  unfold Template.parse
  cases Fragment.check source.toList with
  | error e => rfl
  | ok _ => cases Placeholder.scan 0 source.toList <;> rfl

theorem parse_eq_ok_iff {source : String} {t : Template} :
    Template.parse source = .ok t ↔ Balanced source.toList ∧
      Placeholder.scan 0 source.toList = .ok t.placeholders ∧
      t = ⟨source, t.placeholders, Fragment.scan source.toList⟩ := by
  rw [parse_eq]
  cases hc : Fragment.check source.toList with
  | error e =>
    refine ⟨fun h => (by cases h), fun ⟨hb, _⟩ => ?_⟩
    rw [check_eq_ok_iff.mpr hb] at hc
    cases hc
  | ok _ =>
    have hb := check_eq_ok_iff.mp hc
    cases hs : Placeholder.scan 0 source.toList with
    | error e => exact ⟨fun h => (by cases h), fun ⟨_, h, _⟩ => (by cases h)⟩
    | ok ps =>
      refine ⟨fun h => ?_, fun ⟨_, hps, ht⟩ => ?_⟩
      · obtain rfl := Except.ok.inj h
        exact ⟨hb, rfl, rfl⟩
      · rw [Except.ok.inj hps, ht]
        rfl

theorem parse_iff {source : String} : (∃ t, Template.parse source = .ok t) ↔ WellFormed source.toList := by
  constructor
  · rintro ⟨t, h⟩
    obtain ⟨hb, hs, -⟩ := parse_eq_ok_iff.mp h
    exact ⟨hb, (Placeholder.map_kind_of_scan hs).2⟩
  · rintro ⟨hb, ht⟩
    obtain ⟨ps, hs⟩ := Placeholder.scan_eq_ok ht 0
    exact ⟨⟨source, ps, Fragment.scan source.toList⟩, parse_eq_ok_iff.mpr ⟨hb, hs, rfl⟩⟩

theorem not_wellFormed {source : String} {e : TemplateError} (h : Template.parse source = .error e) :
    ¬ WellFormed source.toList := by
  intro hw
  obtain ⟨t, ht⟩ := parse_iff.mpr hw
  rw [h] at ht
  cases ht

theorem wellFormed_of_parse {source : String} {t : Template} (h : Template.parse source = .ok t) :
    WellFormed source.toList ∧ t.arity = source.toList.count '?' :=
  ⟨parse_iff.mp ⟨t, h⟩, Placeholder.length_of_scan (parse_eq_ok_iff.mp h).2.1⟩

theorem kinds_of_parse {source : String} {t : Template} (h : Template.parse source = .ok t) :
    t.placeholders.map (·.kind) = kinds source.toList :=
  (Placeholder.map_kind_of_scan (parse_eq_ok_iff.mp h).2.1).1

/-- A parsed template with something for each placeholder. -/
theorem markup_of_parse {α : Type} {source : String} {t : Template} (h : Template.parse source = .ok t)
    {as : List α} (ha : as.length = t.arity) :
    t.source = source ∧ Markup 0 source.toList (t.placeholders.zip as) t.fragments := by
  obtain ⟨hb, hs, ht⟩ := parse_eq_ok_iff.mp h
  have hfst : (t.placeholders.zip as).map Prod.fst = t.placeholders := List.map_fst_zip (Nat.le_of_eq ha.symm)
  rw [← hfst] at hs
  refine ⟨by rw [ht], ?_⟩
  rw [show t.fragments = Fragment.scan source.toList by rw [ht]]
  exact hb.markup hs

end QueryTemplate
