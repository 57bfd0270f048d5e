import QueryTemplate.Proofs.BracePairs
import QueryTemplate.Proofs.Planning

/-!
# What a fragment contains and what planning takes for it

A fragment is elided for the whole spans that it contains, but the planner moves
its index by where placeholders begin. No placeholder crosses a brace, so these
are the same placeholders, and the index is at the first of them whenever the
planner comes to a fragment (`containment_agrees`).
-/

namespace QueryTemplate

/-! ## Placeholders and fragments -/

section
variable {α : Type} {start stop mid : Nat} {xs : List (Placeholder × α)}

theorem Within.filter_before (h : Within start stop xs) (hm : stop ≤ mid) :
    (xs.filter fun x => x.1.span.start < mid) = xs := by
  rw [List.filter_eq_self]
  intro x hx
  have := h x hx
  simp only [decide_eq_true_eq]
  omega

theorem Within.filter_after (h : Within start stop xs) (hm : mid ≤ start) :
    (xs.filter fun x => x.1.span.start < mid) = [] := by
  rw [List.filter_eq_nil_iff]
  intro x hx
  have := h x hx
  simp only [decide_eq_true_eq]
  omega

end

theorem Markup.inside_or_apart {α : Type} {offset : Nat} {cs : List Char} {xs : List (Placeholder × α)}
    {fs : List Fragment} (h : Markup offset cs xs fs) : ∀ f ∈ fs, ∀ x ∈ xs,
      (f.span.start < x.1.span.start ∧ x.1.span.stop < f.span.stop) ∨
        x.1.span.stop ≤ f.span.start ∨ f.span.stop ≤ x.1.span.start := by
  induction h with
  | plain => simp
  | fragment _ hx _ hy hm ih =>
    have ha := Markup.around hx hy hm
    have hw := ha.wide
    intro f hf x hmem
    rw [List.mem_append, List.mem_append] at hmem
    rcases List.mem_cons.mp hf with rfl | hf
    · rcases hmem with hx | hy | hz
      · exact .inr (.inl (ha.before x hx).2.2)
      · have := ha.inside x hy
        omega
      · exact .inr (.inr (ha.after x hz).1)
    · have hstart := hm.starts f hf
      rcases hmem with hx | hy | hz
      · have := ha.before x hx
        simp only [fragmentAt] at *
        omega
      · have := ha.inside x hy
        simp only [fragmentAt] at *
        omega
      · exact ih f hf x hz

theorem length_filter_contains {fs : List Fragment} (h : fs.Pairwise fun f g => f.span.stop ≤ g.span.start)
    {p : Placeholder} (hp : p.span.start < p.span.stop) : (fs.filter fun f => f.contains p).length ≤ 1 := by
  induction fs with
  | nil => simp
  | cons f fs ih =>
    obtain ⟨hf, hfs⟩ := List.pairwise_cons.mp h
    by_cases hc : f.contains p = true
    · have hnone : fs.filter (fun g => g.contains p) = [] := by
        rw [List.filter_eq_nil_iff]
        intro g hg
        have hfg := hf g hg
        simp only [Fragment.contains, Bool.and_eq_true, decide_eq_true_eq] at hc ⊢
        omega
      simp [hc, hnone]
    · simp only [hc, List.filter_cons, Bool.false_eq_true, if_false]
      exact ih hfs

section
variable {source : String} {t : Template} (h : Template.parse source = .ok t)
include h

theorem inside_or_apart {f : Fragment} (hf : f ∈ t.fragments) {p : Placeholder} (hp : p ∈ t.placeholders) :
    (f.span.start < p.span.start ∧ p.span.stop < f.span.stop) ∨
      p.span.stop ≤ f.span.start ∨ f.span.stop ≤ p.span.start := by
  have hlen : t.placeholders.length = t.arity := rfl
  obtain ⟨-, hm⟩ := markup_of_parse h hlen
  have hfst : (t.placeholders.zip t.placeholders).map Prod.fst = t.placeholders := List.map_fst_zip (Nat.le_refl _)
  rw [← hfst] at hp
  obtain ⟨x, hx, rfl⟩ := List.mem_map.mp hp
  exact hm.inside_or_apart f hf x hx

theorem contains_iff {f : Fragment} (hf : f ∈ t.fragments) {p : Placeholder} (hp : p ∈ t.placeholders) :
    f.contains p = true ↔ f.span.start ≤ p.span.start ∧ p.span.start < f.span.stop := by
  have hspan := Placeholder.span_of_scan (parse_eq_ok_iff.mp h).2.1 p hp
  have hcases := inside_or_apart h hf hp
  simp only [Fragment.contains, Bool.and_eq_true, decide_eq_true_eq]
  omega

theorem pairwise_fragments : t.fragments.Pairwise fun f g => f.span.stop ≤ g.span.start := by
  obtain ⟨hb, -, ht⟩ := parse_eq_ok_iff.mp h
  rw [ht]
  exact hb.pairwise_scanFrom 0

end

/-! ## The states of the planner -/

namespace Planner

section
variable (t : Template) (rs : List Rendering)

/-- The planner stands at `cursor`, the placeholder at the index `next` is the next one,
and these fragments are left. It goes on as `pieces?` does. -/
inductive Reaches : Nat → Nat → List Fragment → Prop
  | start : Reaches 0 0 t.fragments
  | step {cursor next f fs ps last} : Reaches cursor next (f :: fs) → visit? t rs cursor next f = some (ps, last) →
      Reaches f.span.stop last fs

/-- The source and the placeholders are cut where the planner stands. -/
structure Stands (cursor next : Nat) (fs : List Fragment) (pre cs : List Char) (done xs : List Filled) : Prop where
  source_eq : t.source.toList = pre ++ cs
  cursor_eq : cursor = byteLength pre
  zip_eq : t.placeholders.zip rs = done ++ xs
  next_eq : next = done.length
  before : Within 0 cursor done
  markup : Markup cursor cs xs fs

/-- The index is `reached` at the fragment and `last` behind it, and the placeholders
between are those that it contains. -/
structure Passes (cursor next : Nat) (f : Fragment) (reached last : Nat) : Prop where
  reached_eq : reached = (t.placeholders.filter fun p => p.span.start < f.span.start).length
  comes : ∃ before, copy? t rs cursor f.span.start next = some (before, reached)
  elided : f.isElided (t.placeholders.zip rs) = true → dropUntil t f.span.stop reached = last
  kept : f.isElided (t.placeholders.zip rs) = false → ∃ within,
    copy? t rs f.interior.start f.interior.stop reached = some (within, last) ∧
      within.filterMap Piece.filled? = (f.holds (t.placeholders.zip rs)).map fun x => (x.1.span, x.2)
  taken : reached ≤ last ∧
    (t.placeholders.drop reached).take (last - reached) = t.placeholders.filter fun p => f.contains p

end

section
variable {t : Template} {rs : List Rendering} {cursor next : Nat} {f : Fragment} {fs : List Fragment}
  {pre cs : List Char} {done all : List Filled}

theorem Stands.drop (h : Stands t rs cursor next fs pre cs done all) : (t.placeholders.zip rs).drop next = all := by
  rw [h.zip_eq, h.next_eq, List.drop_left]

theorem passes_of_around (hlen : rs.length = t.arity) {stop : Nat} {xs ys zs : List Filled}
    (hzip : t.placeholders.zip rs = done ++ (xs ++ (ys ++ zs))) (hdone : Within 0 cursor done)
    (ha : Around cursor stop f xs ys zs)
    (hbefore : copy? t rs cursor f.span.start done.length =
      some (Layout.copy cursor f.span.start xs, done.length + xs.length))
    (hwithin : copy? t rs f.interior.start f.interior.stop (done.length + xs.length) =
      some (Layout.copy f.interior.start f.interior.stop ys, done.length + xs.length + ys.length))
    (huntil : dropUntil t f.span.stop (done.length + xs.length) = done.length + xs.length + ys.length) :
    Passes t rs cursor done.length f (done.length + xs.length) (done.length + xs.length + ys.length) := by
  have hw := ha.wide
  have hplaceholders : t.placeholders = (done ++ (xs ++ (ys ++ zs))).map Prod.fst := by
    rw [← hzip, List.map_fst_zip (Nat.le_of_eq hlen.symm)]
  have hholds : f.holds (done ++ (xs ++ (ys ++ zs))) = ys := by
    rw [Fragment.holds_append, Fragment.holds_before hdone hw.1, ha.holds, List.nil_append]
  constructor
  · rw [hplaceholders, List.filter_map, List.length_map]
    simp only [Function.comp_def, List.filter_append, hdone.filter_before hw.1, ha.before.filter_before (Nat.le_refl _),
      ha.inside.filter_after (Nat.le_succ _), ha.after.filter_after (show f.span.start ≤ f.span.stop by omega),
      List.append_nil, List.length_append]
  · exact ⟨_, hbefore⟩
  · exact fun _ => huntil
  · intro _
    refine ⟨_, hwithin, ?_⟩
    rw [filled_copy, hzip, hholds]
  · refine ⟨Nat.le_add_right .., ?_⟩
    have hfilter : (t.placeholders.filter fun p => f.contains p) = ys.map Prod.fst := by
      rw [hplaceholders, List.filter_map]
      exact congrArg _ hholds
    rw [hfilter, hplaceholders, Nat.add_sub_cancel_left, ← List.drop_drop, ← List.map_drop, List.drop_left,
      ← List.map_drop, List.drop_left, ← List.map_take, List.take_left]

/-- The planner goes past a fragment and stands behind it. -/
theorem Stands.visit (hlen : rs.length = t.arity) (h : Stands t rs cursor next (f :: fs) pre cs done all) :
    ∃ reached last ps pre' cs' done' all', Passes t rs cursor next f reached last ∧
      visit? t rs cursor next f = some (ps, last) ∧ Stands t rs f.span.stop last fs pre' cs' done' all' := by
  have hdrop := h.drop
  obtain ⟨hsource, hcursor, hzip, rfl, hdone, hm⟩ := h
  cases hm with
  | @fragment _ before body rest xs ys zs _ hb hx hi hy hm =>
    have ha := Markup.around hx hy hm
    obtain ⟨hbefore, hwithin, huntil⟩ := passes_fragment hlen hsource hcursor hx hy hm hdrop rfl
    refine ⟨_, _, _, pre ++ (before ++ braced body), rest, done ++ (xs ++ ys), zs,
      passes_of_around hlen hzip hdone ha hbefore hwithin huntil,
      visit?_eq hlen hsource hcursor hx hy hm hdrop rfl, ?_⟩
    constructor
    · simp [hsource]
    · simp [fragmentAt, hcursor, Nat.add_assoc]
    · simp [hzip]
    · simp [Nat.add_assoc]
    · have hw := ha.wide
      refine (hdone.mono (Nat.le_refl _) (by omega)).append ((ha.before.mono (Nat.zero_le _) (by omega)).append ?_)
      exact ha.inside.mono (Nat.zero_le _) (Nat.sub_le ..)
    · exact hm

section
variable {source : String} (h : Template.parse source = .ok t) (hlen : rs.length = t.arity)
include h hlen

theorem Reaches.stands (hr : Reaches t rs cursor next fs) :
    ∃ pre cs done all, Stands t rs cursor next fs pre cs done all := by
  induction hr with
  | start =>
    obtain ⟨hsource, hm⟩ := markup_of_parse h hlen
    rw [← hsource] at hm
    exact ⟨[], _, [], _, rfl, rfl, rfl, rfl, by simp [Within], hm⟩
  | step _ hv ih =>
    obtain ⟨pre, cs, done, all, hs⟩ := ih
    obtain ⟨_, _, _, pre', cs', done', all', -, hv', hs'⟩ := hs.visit hlen
    obtain ⟨-, rfl⟩ := Prod.mk.inj (Option.some.inj (hv.symm.trans hv'))
    exact ⟨pre', cs', done', all', hs'⟩

theorem Reaches.passes (hr : Reaches t rs cursor next (f :: fs)) :
    ∃ reached last, Passes t rs cursor next f reached last := by
  obtain ⟨_, _, _, _, hs⟩ := hr.stands h hlen
  obtain ⟨reached, last, _, _, _, _, _, hp, -⟩ := hs.visit hlen
  exact ⟨reached, last, hp⟩

theorem Reaches.later {before after : List Fragment} (hr : Reaches t rs cursor next (before ++ after)) :
    ∃ cursor next, Reaches t rs cursor next after := by
  induction before generalizing cursor next with
  | nil => exact ⟨cursor, next, hr⟩
  | cons g before ih =>
    obtain ⟨_, _, _, _, hs⟩ := hr.stands h hlen
    obtain ⟨_, last, _, _, _, _, _, -, hv, -⟩ := hs.visit hlen
    exact ih (.step hr hv)

end

end

end Planner

/-- **What a fragment contains is what planning takes for it.** A placeholder is
between its braces or apart from it. The planner comes to every fragment with the
index of its first placeholder and leaves it with the index behind its last. -/
theorem containment_agrees {source : String} {t : Template} (h : Template.parse source = .ok t) :
    (∀ f ∈ t.fragments, ∀ p ∈ t.placeholders,
      ((f.span.start < p.span.start ∧ p.span.stop < f.span.stop) ∨
        p.span.stop ≤ f.span.start ∨ f.span.stop ≤ p.span.start) ∧
      (f.contains p = true ↔ f.span.start ≤ p.span.start ∧ p.span.start < f.span.stop)) ∧
    (∀ p ∈ t.placeholders, (t.fragments.filter fun f => f.contains p).length ≤ 1) ∧
    ∀ rs : List Rendering, rs.length = t.arity →
      Planner.plan? t rs = some (t.layout rs) ∧
      (∀ before f after, t.fragments = before ++ f :: after →
        ∃ cursor next, Planner.Reaches t rs cursor next (f :: after)) ∧
      ∀ cursor next f after, Planner.Reaches t rs cursor next (f :: after) →
        ∃ reached last, Planner.Passes t rs cursor next f reached last := by
  refine ⟨?_, ?_, ?_⟩
  · intro f hf p hp
    exact ⟨inside_or_apart h hf hp, contains_iff h hf hp⟩
  · intro p hp
    exact length_filter_contains (pairwise_fragments h) (Placeholder.span_of_scan (parse_eq_ok_iff.mp h).2.1 p hp).2.1
  · intro rs hlen
    refine ⟨Planner.plan?_eq h hlen, ?_, ?_⟩
    · intro before f after hsplit
      have hstart : Planner.Reaches t rs 0 0 t.fragments := .start
      rw [hsplit] at hstart
      exact hstart.later h hlen
    · intro cursor next f after hr
      exact hr.passes h hlen

/-- An elided fragment behind one that is kept, with a character of two bytes before them. -/
theorem containment_agrees_adjacent :
    let t : Template := ⟨"é\x7ba=?d\x7d\x7b ?# ?\x7d?", [⟨⟨5, 7⟩, .int⟩, ⟨⟨10, 12⟩, .identifiers⟩,
      ⟨⟨13, 14⟩, .generic⟩, ⟨⟨15, 16⟩, .generic⟩], [⟨⟨2, 8⟩⟩, ⟨⟨8, 15⟩⟩]⟩
    let rs : List Rendering := [.sql "1", .sql "`b`", .skip, .sql "2"]
    (t.fragments.filter fun f => f.contains ⟨⟨15, 16⟩, .generic⟩).length ≤ 1 ∧
      ∃ cursor next reached last, Planner.Reaches t rs cursor next [⟨⟨8, 15⟩⟩] ∧
        Planner.Passes t rs cursor next ⟨⟨8, 15⟩⟩ reached last := by
  intro t rs
  have h : Template.parse "é\x7ba=?d\x7d\x7b ?# ?\x7d?" = .ok t := by decide
  obtain ⟨-, hone, hplan⟩ := containment_agrees h
  obtain ⟨-, hreaches, hpasses⟩ := hplan rs rfl
  obtain ⟨cursor, next, hr⟩ := hreaches [⟨⟨2, 8⟩⟩] ⟨⟨8, 15⟩⟩ [] rfl
  obtain ⟨reached, last, hp⟩ := hpasses cursor next _ _ hr
  exact ⟨hone _ (by decide), cursor, next, reached, last, hr, hp⟩

end QueryTemplate
