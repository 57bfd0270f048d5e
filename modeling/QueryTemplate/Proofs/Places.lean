import QueryTemplate.Layout
import QueryTemplate.Proofs.Markup

/-!
# Places of placeholders

Placeholders, with what fills them, are cut by where they lie. For a fragment of
the markup the cut by offsets (`splitAt`) and the test of containment (`holds`)
find the same placeholders.
-/

namespace QueryTemplate

section
variable {α : Type}

/-- The placeholders lie between `start` and `stop`, and none is empty. -/
def Within (start stop : Nat) (xs : List (Placeholder × α)) : Prop :=
  ∀ x ∈ xs, start ≤ x.1.span.start ∧ x.1.span.start < x.1.span.stop ∧ x.1.span.stop ≤ stop

def Fragment.holds (f : Fragment) (xs : List (Placeholder × α)) : List (Placeholder × α) :=
  xs.filter fun x => f.contains x.1

def Fragment.holdsSkip (skip : α → Bool) (xs : List (Placeholder × α)) (f : Fragment) : Bool :=
  (f.holds xs).any fun x => skip x.2

def takes (skip : α → Bool) (fs : List Fragment) (xs : List (Placeholder × α)) (p : Placeholder) : Bool :=
  fs.any fun f => f.contains p && f.holdsSkip skip xs

def remaining (skip : α → Bool) (fs : List Fragment) (xs : List (Placeholder × α)) : List (Placeholder × α) :=
  xs.filter fun x => !fs.any fun f => f.contains x.1 && f.holdsSkip skip xs

theorem any_congr_of_mem {xs : List α} {p q : α → Bool} (h : ∀ x ∈ xs, p x = q x) : xs.any p = xs.any q := by
  induction xs with
  | nil => rfl
  | cons x xs ih =>
    obtain ⟨hx, hxs⟩ := List.forall_mem_cons.mp h
    rw [List.any_cons, List.any_cons, hx, ih hxs]

theorem Within.mono {start stop start' stop' : Nat} {xs : List (Placeholder × α)} (h : Within start stop xs)
    (hs : start' ≤ start) (ht : stop ≤ stop') : Within start' stop' xs := by
  intro x hx
  have := h x hx
  omega

theorem Within.append {start stop : Nat} {xs ys : List (Placeholder × α)} (hx : Within start stop xs)
    (hy : Within start stop ys) : Within start stop (xs ++ ys) :=
  fun x hmem => (List.mem_append.mp hmem).elim (hx x) (hy x)

theorem within_of_scan {offset : Nat} {cs : List Char} {xs : List (Placeholder × α)}
    (h : Placeholder.scan offset cs = .ok (xs.map Prod.fst)) : Within offset (offset + byteLength cs) xs :=
  fun _ hx => Placeholder.span_of_scan h _ (List.mem_map_of_mem hx)

theorem Markup.within {offset : Nat} {cs : List Char} {xs : List (Placeholder × α)} {fs : List Fragment}
    (h : Markup offset cs xs fs) : Within offset (offset + byteLength cs) xs := by
  induction h with
  | plain _ hs => exact within_of_scan hs
  | @fragment offset before body rest xs ys zs fs _ hx _ hy _ ih =>
    have hlen := byteLength_braced body
    simp only [byteLength_append]
    exact ((within_of_scan hx).mono (by omega) (by omega)).append
      (((within_of_scan hy).mono (by omega) (by omega)).append (ih.mono (by omega) (by omega)))

theorem Markup.starts {offset : Nat} {cs : List Char} {xs : List (Placeholder × α)} {fs : List Fragment}
    (h : Markup offset cs xs fs) : ∀ f ∈ fs, offset ≤ f.span.start := by
  induction h with
  | plain => exact fun f hf => (List.not_mem_nil hf).elim
  | fragment _ _ _ _ _ ih =>
    intro f hf
    rcases List.mem_cons.mp hf with rfl | hf
    · exact Nat.le_add_right ..
    · have := ih f hf
      omega

theorem remaining_nil (skip : α → Bool) (xs : List (Placeholder × α)) : remaining skip [] xs = xs := by
  simp [remaining]

theorem Fragment.contains_before {f : Fragment} {p : Placeholder} (h : p.span.start < f.span.start) :
    f.contains p = false := by
  have hn : ¬ f.span.start ≤ p.span.start := Nat.not_le.mpr h
  simp [contains, hn]

theorem Fragment.contains_after {f : Fragment} {p : Placeholder} (h : f.span.stop < p.span.stop) :
    f.contains p = false := by
  have hn : ¬ p.span.stop ≤ f.span.stop := Nat.not_le.mpr h
  simp [contains, hn]

theorem Fragment.contains_inside {f : Fragment} {p : Placeholder} (hs : f.span.start ≤ p.span.start)
    (ht : p.span.stop ≤ f.span.stop) : f.contains p = true := by
  simp [contains, hs, ht]

theorem Fragment.holds_append (f : Fragment) (xs ys : List (Placeholder × α)) :
    f.holds (xs ++ ys) = f.holds xs ++ f.holds ys := List.filter_append ..

theorem Fragment.holds_before {f : Fragment} {start stop : Nat} {xs : List (Placeholder × α)}
    (h : Within start stop xs) (hf : stop ≤ f.span.start) : f.holds xs = [] := by
  rw [holds, List.filter_eq_nil_iff]
  intro x hx
  have := h x hx
  rw [contains_before (by omega)]
  exact Bool.false_ne_true

theorem Fragment.holds_after {f : Fragment} {start stop : Nat} {xs : List (Placeholder × α)}
    (h : Within start stop xs) (hf : f.span.stop ≤ start) : f.holds xs = [] := by
  rw [holds, List.filter_eq_nil_iff]
  intro x hx
  have := h x hx
  rw [contains_after (by omega)]
  exact Bool.false_ne_true

theorem Fragment.holds_inside {f : Fragment} {start stop : Nat} {xs : List (Placeholder × α)}
    (h : Within start stop xs) (hs : f.span.start ≤ start) (ht : stop ≤ f.span.stop) : f.holds xs = xs := by
  rw [holds, List.filter_eq_self]
  intro x hx
  have := h x hx
  exact contains_inside (by omega) (by omega)

/-! ## Before, inside and after a fragment -/

structure Around (start stop : Nat) (f : Fragment) (xs ys zs : List (Placeholder × α)) : Prop where
  before : Within start f.span.start xs
  inside : Within (f.span.start + 1) (f.span.stop - 1) ys
  after : Within f.span.stop stop zs
  wide : start ≤ f.span.start ∧ f.span.start + 2 ≤ f.span.stop ∧ f.span.stop ≤ stop

theorem Markup.around {offset : Nat} {before body rest : List Char} {xs ys zs : List (Placeholder × α)}
    {fs : List Fragment} (hx : Placeholder.scan offset before = .ok (xs.map Prod.fst))
    (hy : Placeholder.scan (offset + byteLength before + 1) body = .ok (ys.map Prod.fst))
    (hz : Markup (offset + byteLength before + byteLength (braced body)) rest zs fs) :
    Around offset (offset + byteLength (before ++ (braced body ++ rest)))
      (fragmentAt (offset + byteLength before) body) xs ys zs := by
  have hlen := byteLength_braced body
  constructor
  · exact within_of_scan hx
  · exact (within_of_scan hy).mono (Nat.le_refl _) (by simp only [fragmentAt]; omega)
  · exact hz.within.mono (Nat.le_refl _) (by simp only [byteLength_append]; omega)
  · simp only [fragmentAt, byteLength_append]
    omega

namespace Around

variable {start stop : Nat} {f : Fragment} {xs ys zs : List (Placeholder × α)}

theorem holds (h : Around start stop f xs ys zs) : f.holds (xs ++ (ys ++ zs)) = ys := by
  rw [Fragment.holds_append, Fragment.holds_append, Fragment.holds_before h.before (Nat.le_refl _),
    Fragment.holds_inside h.inside (Nat.le_succ _) (Nat.sub_le ..), Fragment.holds_after h.after (Nat.le_refl _),
    List.nil_append, List.append_nil]

/-- A later fragment contains only placeholders of the rest. -/
theorem holds_later (h : Around start stop f xs ys zs) {g : Fragment} (hg : f.span.stop ≤ g.span.start) :
    g.holds (xs ++ (ys ++ zs)) = g.holds zs := by
  have hw := h.wide
  rw [Fragment.holds_append, Fragment.holds_append, Fragment.holds_before h.before (by omega),
    Fragment.holds_before h.inside (by omega), List.nil_append, List.nil_append]

theorem inside_of_same (h : Around start stop f xs ys zs) {all : List (Placeholder × α)}
    (hall : ∀ g : Fragment, start ≤ g.span.start → g.holds all = g.holds (xs ++ (ys ++ zs))) : f.holds all = ys :=
  (hall f h.wide.1).trans h.holds

theorem later_of_same (h : Around start stop f xs ys zs) {all : List (Placeholder × α)}
    (hall : ∀ g : Fragment, start ≤ g.span.start → g.holds all = g.holds (xs ++ (ys ++ zs))) :
    ∀ g : Fragment, f.span.stop ≤ g.span.start → g.holds all = g.holds zs := by
  intro g hg
  have hw := h.wide
  exact (hall g (by omega)).trans (h.holds_later hg)

theorem takes_before (h : Around start stop f xs ys zs) {fs : List Fragment}
    (hfs : ∀ g ∈ fs, f.span.stop ≤ g.span.start) (skip : α → Bool) (all : List (Placeholder × α))
    {x : Placeholder × α} (hx : x ∈ xs) : takes skip (f :: fs) all x.1 = false := by
  have hw := h.wide
  have hp := h.before x hx
  unfold takes
  rw [List.any_eq_false]
  intro g hg
  have hle : f.span.start ≤ g.span.start := by
    rcases List.mem_cons.mp hg with rfl | hg
    · exact Nat.le_refl _
    · have := hfs g hg
      omega
  simp [Fragment.contains_before (show x.1.span.start < g.span.start by omega)]

theorem takes_inside (h : Around start stop f xs ys zs) {fs : List Fragment}
    (hfs : ∀ g ∈ fs, f.span.stop ≤ g.span.start) (skip : α → Bool) {y : Placeholder × α} (hy : y ∈ ys) :
    takes skip (f :: fs) (xs ++ (ys ++ zs)) y.1 = ys.any fun y => skip y.2 := by
  have hp := h.inside y hy
  have hlater : (fs.any fun g => g.contains y.1 && g.holdsSkip skip (xs ++ (ys ++ zs))) = false := by
    rw [List.any_eq_false]
    intro g hg
    have := hfs g hg
    simp [Fragment.contains_before (show y.1.span.start < g.span.start by omega)]
  rw [takes, List.any_cons, hlater, Fragment.contains_inside (by omega) (by omega), Fragment.holdsSkip, h.holds,
    Bool.true_and, Bool.or_false]

theorem takes_after (h : Around start stop f xs ys zs) {fs : List Fragment}
    (hfs : ∀ g ∈ fs, f.span.stop ≤ g.span.start) (skip : α → Bool) {z : Placeholder × α} (hz : z ∈ zs) :
    takes skip (f :: fs) (xs ++ (ys ++ zs)) z.1 = takes skip fs zs z.1 := by
  have hp := h.after z hz
  rw [takes, List.any_cons, Fragment.contains_after (by omega), Bool.false_and, Bool.false_or]
  apply any_congr_of_mem
  intro g hg
  rw [Fragment.holdsSkip, h.holds_later (hfs g hg), Fragment.holdsSkip]

/-- A skip in a fragment takes its own placeholders only. -/
theorem remaining (h : Around start stop f xs ys zs) {fs : List Fragment}
    (hfs : ∀ g ∈ fs, f.span.stop ≤ g.span.start) (skip : α → Bool) :
    remaining skip (f :: fs) (xs ++ (ys ++ zs)) =
      xs ++ ((if ys.any fun y => skip y.2 then [] else ys) ++ QueryTemplate.remaining skip fs zs) := by
  have hfilter (all : List (Placeholder × α)) (gs : List Fragment) :
      QueryTemplate.remaining skip gs all = all.filter fun x => !takes skip gs all x.1 := rfl
  have hbefore : xs.filter (fun x => !takes skip (f :: fs) (xs ++ (ys ++ zs)) x.1) = xs := by
    rw [List.filter_eq_self]
    intro x hx
    rw [h.takes_before hfs skip _ hx]
    rfl
  have hinside : ys.filter (fun y => !takes skip (f :: fs) (xs ++ (ys ++ zs)) y.1) =
      ys.filter fun _ => !ys.any fun y => skip y.2 := by
    apply List.filter_congr
    intro y hy
    rw [h.takes_inside hfs skip hy]
  have hafter : zs.filter (fun z => !takes skip (f :: fs) (xs ++ (ys ++ zs)) z.1) =
      zs.filter fun z => !takes skip fs zs z.1 := by
    apply List.filter_congr
    intro z hz
    rw [h.takes_after hfs skip hz]
  rw [hfilter, hfilter, List.filter_append, List.filter_append, hbefore, hinside, hafter]
  cases ys.any fun y => skip y.2 <;> simp

end Around

end

def Template.remaining (t : Template) (args : List Arg) : List (Placeholder × Arg) :=
  QueryTemplate.remaining Arg.isSkip t.fragments (t.placeholders.zip args)

theorem splitAt_append {start mid stop : Nat} {xs ys : List Filled} (hx : Within start mid xs)
    (hy : Within mid stop ys) : Layout.splitAt mid (xs ++ ys) = (xs, ys) := by
  have hpos : ∀ x ∈ xs, Layout.startsBefore mid x = true := by
    intro x hmem
    have := hx x hmem
    simp only [Layout.startsBefore, decide_eq_true_eq]
    omega
  have hneg : ys.takeWhile (Layout.startsBefore mid) = [] ∧ ys.dropWhile (Layout.startsBefore mid) = ys := by
    cases ys with
    | nil => exact ⟨rfl, rfl⟩
    | cons y ys =>
      have := hy y (List.mem_cons_self ..)
      have hf : Layout.startsBefore mid y = false := by
        simp only [Layout.startsBefore, decide_eq_false_iff_not]
        omega
      simp [hf]
  rw [Layout.splitAt, List.takeWhile_append_of_pos hpos, List.dropWhile_append_of_pos hpos, hneg.1, hneg.2,
    List.append_nil]

theorem Around.pieces {start stop : Nat} {f : Fragment} {xs ys zs : List Filled} (h : Around start stop f xs ys zs)
    (all : List Filled) (size : Nat) (fs : List Fragment) :
    Layout.pieces all size start (f :: fs) (xs ++ (ys ++ zs)) =
      Layout.copy start f.span.start xs ++ Layout.fragment all f ys ++
        Layout.pieces all size f.span.stop fs zs := by
  have hw := h.wide
  have hrest : Within f.span.start stop (ys ++ zs) :=
    (h.inside.mono (by omega) (by omega)).append (h.after.mono (by omega) (Nat.le_refl _))
  have hys : Within f.span.start f.span.stop ys := h.inside.mono (by omega) (by omega)
  rw [Layout.pieces, splitAt_append h.before hrest]
  simp only
  rw [splitAt_append hys h.after]

end QueryTemplate
