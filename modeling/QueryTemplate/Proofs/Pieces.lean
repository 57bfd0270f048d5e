import QueryTemplate.Proofs.Places
import QueryTemplate.Proofs.Tokens

/-!
# The pieces of a layout

The pieces follow each other from the first byte of a source to the last
(`Markup.tiles`). The marks among them, braces and elisions, are those of the
fragments (`filter_pieces`), and the placeholders among them are those that no
skip takes (`Markup.filled_pieces`).
-/

namespace QueryTemplate

/-! ## Placeholders in order -/

namespace Placeholder

def WrittenIn (offset : Nat) (cs : List Char) (p : Placeholder) : Prop :=
  ∃ before after, cs = before ++ ('?' :: p.kind.tag ++ after) ∧
    p.span = ⟨offset + byteLength before, offset + byteLength before + byteLength ('?' :: p.kind.tag)⟩

theorem written_of_scan {cs : List Char} {offset : Nat} {ps : List Placeholder} (h : scan offset cs = .ok ps) :
    ∀ p ∈ ps, p.WrittenIn offset cs := by
  intro p hp
  obtain ⟨before, after, ht, hspan⟩ := token_of_scan h p hp
  exact ⟨before, after, ht.here, hspan⟩

end Placeholder

section
variable {α : Type}

/-- The placeholders lie one after the other between `start` and `stop`. -/
structure InOrder (start stop : Nat) (xs : List (Placeholder × α)) : Prop where
  within : Within start stop xs
  apart : xs.Pairwise fun x y => x.1.span.stop ≤ y.1.span.start

theorem inOrder_of_scan {offset : Nat} {cs : List Char} {xs : List (Placeholder × α)}
    (h : Placeholder.scan offset cs = .ok (xs.map Prod.fst)) : InOrder offset (offset + byteLength cs) xs where
  within := within_of_scan h
  apart := List.pairwise_map.mp (Placeholder.pairwise_of_scan h)

theorem InOrder.tail {start stop : Nat} {x : Placeholder × α} {xs : List (Placeholder × α)}
    (h : InOrder start stop (x :: xs)) : InOrder x.1.span.stop stop xs where
  within := by
    intro y hy
    have hw := h.within y (List.mem_cons_of_mem _ hy)
    have hxy := (List.pairwise_cons.mp h.apart).1 y hy
    omega
  apart := (List.pairwise_cons.mp h.apart).2

end

/-! ## Tilings -/

/-- The spans follow each other from `start` to `stop`. -/
def Tiles : Nat → Nat → List Span → Prop
  | start, stop, [] => start = stop
  | start, stop, s :: spans => s.start = start ∧ start ≤ s.stop ∧ Tiles s.stop stop spans

theorem tiles_append {start mid stop : Nat} {ss us : List Span} (hs : Tiles start mid ss)
    (hu : Tiles mid stop us) : Tiles start stop (ss ++ us) := by
  induction ss generalizing start with
  | nil =>
    obtain rfl : start = mid := hs
    exact hu
  | cons s ss ih => exact ⟨hs.1, hs.2.1, ih hs.2.2⟩

theorem tiles_singleton {start stop : Nat} (h : start ≤ stop) : Tiles start stop [⟨start, stop⟩] := ⟨rfl, h, rfl⟩

namespace Tiles

variable {start stop : Nat} {spans : List Span}

theorem le (h : Tiles start stop spans) : start ≤ stop := by
  induction spans generalizing start with
  | nil => exact Nat.le_of_eq h
  | cons s spans ih => exact Nat.le_trans h.2.1 (ih h.2.2)

theorem bounds (h : Tiles start stop spans) : ∀ s ∈ spans, start ≤ s.start ∧ s.start ≤ s.stop ∧ s.stop ≤ stop := by
  induction spans generalizing start with
  | nil => simp
  | cons s spans ih =>
    obtain ⟨rfl, hle, h⟩ := h
    intro u hu
    rcases List.mem_cons.mp hu with rfl | hu
    · exact ⟨Nat.le_refl _, hle, h.le⟩
    · have := ih h u hu
      omega

theorem pairwise (h : Tiles start stop spans) : spans.Pairwise fun s u => s.stop ≤ u.start := by
  induction spans generalizing start with
  | nil => exact .nil
  | cons s spans ih => exact .cons (fun u hu => (h.2.2.bounds u hu).1) (ih h.2.2)

theorem exists_mem_iff (h : Tiles start stop spans) (n : Nat) :
    (∃ s ∈ spans, s.start ≤ n ∧ n < s.stop) ↔ start ≤ n ∧ n < stop := by
  induction spans generalizing start with
  | nil =>
    obtain rfl : start = stop := h
    simp
  | cons s spans ih =>
    obtain ⟨rfl, hle, h⟩ := h
    have hstop := h.le
    rw [List.exists_mem_cons_iff, ih h]
    omega

end Tiles

theorem tiles_copy {start stop : Nat} {xs : List Filled} (hle : start ≤ stop) (h : InOrder start stop xs) :
    Tiles start stop ((Layout.copy start stop xs).map Piece.span) := by
  induction xs generalizing start with
  | nil => exact tiles_singleton hle
  | cons x xs ih =>
    have hx := h.within x (List.mem_cons_self ..)
    exact ⟨rfl, hx.1, rfl, Nat.le_of_lt hx.2.1, ih hx.2.2 h.tail⟩

theorem tiles_fragment (all : List Filled) {f : Fragment} {xs : List Filled} (hwide : f.span.start + 2 ≤ f.span.stop)
    (h : InOrder f.interior.start f.interior.stop xs) :
    Tiles f.span.start f.span.stop ((Layout.fragment all f xs).map Piece.span) := by
  have hin : f.interior.start ≤ f.interior.stop ∧ f.interior.stop ≤ f.span.stop := by
    simp only [Fragment.interior]
    omega
  unfold Layout.fragment
  by_cases he : f.isElided all = true
  · rw [if_pos he]
    exact tiles_singleton (Nat.le_trans (Nat.le_add_right ..) hwide)
  · rw [if_neg he, List.map_cons, List.map_append]
    exact ⟨rfl, Nat.le_succ _, tiles_append (tiles_copy hin.1 h) (tiles_singleton hin.2)⟩

theorem inOrder_interior {α : Type} {offset : Nat} {body : List Char} {xs : List (Placeholder × α)}
    (h : Placeholder.scan (offset + 1) body = .ok (xs.map Prod.fst)) :
    InOrder (fragmentAt offset body).interior.start (fragmentAt offset body).interior.stop xs := by
  have hstop : (fragmentAt offset body).interior.stop = offset + 1 + byteLength body := by
    simp only [fragmentAt, Fragment.interior, byteLength_braced]
    omega
  rw [hstop]
  exact inOrder_of_scan h

/-- **The layout leaves nothing out**, and nothing is in it twice. -/
theorem Markup.tiles {offset : Nat} {cs : List Char} {xs : List Filled} {fs : List Fragment}
    (h : Markup offset cs xs fs) (all : List Filled) :
    Tiles offset (offset + byteLength cs)
      ((Layout.pieces all (offset + byteLength cs) offset fs xs).map Piece.span) := by
  induction h with
  | plain _ hs => exact tiles_copy (Nat.le_add_right ..) (inOrder_of_scan hs)
  | @fragment offset before body rest xs ys zs fs hb hx hi hy hm ih =>
    have ha := Markup.around hx hy hm
    have hstop : offset + byteLength (before ++ (braced body ++ rest)) =
        (fragmentAt (offset + byteLength before) body).span.stop + byteLength rest := by
      simp only [byteLength_append, fragmentAt]
      omega
    rw [ha.pieces, List.map_append, List.map_append, hstop]
    exact tiles_append (tiles_append (tiles_copy ha.wide.1 (inOrder_of_scan hx))
      (tiles_fragment all ha.wide.2.1 (inOrder_interior hy))) ih

/-! ## Marks -/

/-- A brace, or a fragment that is elided with its braces. -/
def Piece.isMark : Piece → Bool
  | .brace _ => true
  | .elided _ _ => true
  | _ => false

def Fragment.marks (all : List Filled) (f : Fragment) : List Piece :=
  if f.isElided all then [.elided f.span (f.inside all).length]
  else [.brace ⟨f.span.start, f.interior.start⟩, .brace ⟨f.interior.stop, f.span.stop⟩]

theorem filter_copy (cursor stop : Nat) (xs : List Filled) : (Layout.copy cursor stop xs).filter Piece.isMark = [] := by
  induction xs generalizing cursor with
  | nil => rfl
  | cons x xs ih => simp [Layout.copy, Piece.isMark, ih]

theorem filter_fragment (all : List Filled) (f : Fragment) (xs : List Filled) :
    (Layout.fragment all f xs).filter Piece.isMark = f.marks all := by
  unfold Layout.fragment Fragment.marks
  by_cases he : f.isElided all = true
  · simp [he, Piece.isMark]
  · simp [he, Piece.isMark, List.filter_cons, filter_copy]

theorem filter_pieces (all : List Filled) (size cursor : Nat) (fs : List Fragment) (pending : List Filled) :
    (Layout.pieces all size cursor fs pending).filter Piece.isMark = fs.flatMap (Fragment.marks all) := by
  induction fs generalizing cursor pending with
  | nil => exact filter_copy cursor size pending
  | cons f fs ih =>
    simp only [Layout.pieces, List.filter_append, filter_copy, filter_fragment, ih, List.nil_append, List.flatMap_cons]

theorem elided_mem_layout_iff {t : Template} {rs : List Rendering} {span : Span} :
    (∃ n, Piece.elided span n ∈ t.layout rs) ↔
      ∃ f ∈ t.fragments, f.span = span ∧ f.isElided (t.placeholders.zip rs) = true := by
  have hmark : ∀ n, Piece.elided span n ∈ t.layout rs ↔
      ∃ f ∈ t.fragments, Piece.elided span n ∈ f.marks (t.placeholders.zip rs) := by
    intro n
    rw [← List.mem_flatMap, ← filter_pieces _ t.source.utf8ByteSize 0 _ (t.placeholders.zip rs), List.mem_filter]
    exact (and_iff_left rfl).symm
  have hin : ∀ f : Fragment, (∃ n, Piece.elided span n ∈ f.marks (t.placeholders.zip rs)) ↔
      f.span = span ∧ f.isElided (t.placeholders.zip rs) = true := by
    intro f
    by_cases he : f.isElided (t.placeholders.zip rs) = true
    · simp [Fragment.marks, he, eq_comm]
    · simp [Fragment.marks, he]
  simp only [hmark, ← hin]
  constructor
  · rintro ⟨n, f, hf, hn⟩
    exact ⟨f, hf, n, hn⟩
  · rintro ⟨f, hf, n, hn⟩
    exact ⟨n, f, hf, hn⟩

/-! ## Placeholders that are filled -/

def Piece.filled? : Piece → Option (Span × Rendering)
  | .placeholder span r => some (span, r)
  | _ => none

theorem filled_copy (cursor stop : Nat) (xs : List Filled) :
    (Layout.copy cursor stop xs).filterMap Piece.filled? = xs.map fun x => (x.1.span, x.2) := by
  induction xs generalizing cursor with
  | nil => rfl
  | cons x xs ih => simp [Layout.copy, Piece.filled?, List.filterMap_cons, ih]

theorem filled_fragment (all : List Filled) (f : Fragment) (xs : List Filled) :
    (Layout.fragment all f xs).filterMap Piece.filled? =
      if f.isElided all then [] else xs.map fun x => (x.1.span, x.2) := by
  unfold Layout.fragment
  by_cases he : f.isElided all = true
  · simp [he, Piece.filled?]
  · simp [he, Piece.filled?, List.filterMap_cons, filled_copy]

theorem Markup.filled_pieces {offset : Nat} {cs : List Char} {xs : List Filled} {fs : List Fragment}
    (h : Markup offset cs xs fs) {all : List Filled} (size : Nat)
    (hall : ∀ f : Fragment, offset ≤ f.span.start → f.holds all = f.holds xs) :
    (Layout.pieces all size offset fs xs).filterMap Piece.filled? =
      (remaining Rendering.isSkip fs xs).map fun x => (x.1.span, x.2) := by
  induction h with
  | plain => rw [Layout.pieces, filled_copy, remaining_nil]
  | @fragment offset before body rest xs ys zs fs hb hx hi hy hm ih =>
    have ha := Markup.around hx hy hm
    have hstarts : ∀ g ∈ fs, (fragmentAt (offset + byteLength before) body).span.stop ≤ g.span.start := hm.starts
    have hskip : (fragmentAt (offset + byteLength before) body).isElided all = ys.any fun y => y.2.isSkip := by
      unfold Fragment.isElided
      rw [show Fragment.inside _ all = ys from ha.inside_of_same hall]
    have hrest := ih (ha.later_of_same hall)
    simp only [ha.pieces, List.filterMap_append, filled_copy, filled_fragment, hskip, ha.remaining hstarts,
      List.map_append, List.append_assoc]
    -- The placeholders of a fragment are filled together or not at all.
    congr 2
    by_cases hany : (ys.any fun y => y.2.isSkip) = true
    · simp [hany]
    · simp [hany]

end QueryTemplate
