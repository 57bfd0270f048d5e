import QueryTemplate.Proofs.Bytes
import QueryTemplate.Proofs.Meaning
import QueryTemplate.Proofs.Pieces

/-!
# Planning with one index

A planner that walks through the source with a cursor and with one index into
both the placeholders and their renderings. It gives up when the index is out of
range, when a range is inverted or when an end of it can not be cut. On a parsed
template it never does, and it plans the layout (`layout_in_range`).
-/

namespace QueryTemplate

def Span.InRange (source : String) (s : Span) : Prop := s.start ≤ s.stop ∧ IsCut source s.start ∧ IsCut source s.stop

instance (source : String) (s : Span) : Decidable (s.InRange source) :=
  inferInstanceAs (Decidable (_ ∧ _ ∧ _))

/-! ## The planner -/

namespace Planner

def text? (source : String) (start stop : Nat) : Option Piece :=
  if Span.InRange source ⟨start, stop⟩ then some (.text ⟨start, stop⟩) else none

section
variable (t : Template) (rs : List Rendering)

/-- The pieces from `cursor` to `stop`, and the index of the placeholder that comes next. -/
def copy? (cursor stop next : Nat) : Option (List Piece × Nat) :=
  if h : next < t.placeholders.length then
    if t.placeholders[next].span.start < stop then do
      let text ← text? t.source cursor t.placeholders[next].span.start
      let r ← rs[next]?
      let (pieces, last) ← copy? t.placeholders[next].span.stop stop (next + 1)
      return (text :: .placeholder t.placeholders[next].span r :: pieces, last)
    else do
      let text ← text? t.source cursor stop
      return ([text], next)
  else do
    let text ← text? t.source cursor stop
    return ([text], next)
termination_by t.placeholders.length - next

/-- The index of the first placeholder from `next` on that does not begin before `stop`. -/
def dropUntil (stop next : Nat) : Nat :=
  next + ((t.placeholders.drop next).takeWhile fun p => p.span.start < stop).length

/-- The pieces from `cursor` through a fragment, and the index behind its placeholders. -/
def visit? (cursor next : Nat) (f : Fragment) : Option (List Piece × Nat) := do
  let (before, next) ← copy? t rs cursor f.span.start next
  if f.isElided (t.placeholders.zip rs) then
    return (before ++ [.elided f.span (f.inside (t.placeholders.zip rs)).length], dropUntil t f.span.stop next)
  else
    let (within, next) ← copy? t rs f.interior.start f.interior.stop next
    return (before ++ .brace ⟨f.span.start, f.interior.start⟩ ::
      (within ++ [.brace ⟨f.interior.stop, f.span.stop⟩]), next)

def pieces? (cursor next : Nat) : List Fragment → Option (List Piece)
  | [] => do
    let (rest, _) ← copy? t rs cursor t.source.utf8ByteSize next
    return rest
  | f :: fs => do
    let (through, next) ← visit? t rs cursor next f
    let rest ← pieces? f.span.stop next fs
    return through ++ rest

def plan? : Option (List Piece) := pieces? t rs 0 0 t.fragments

end

end Planner

/-! ## Cuts -/

theorem isCut_of_scan {α : Type} {source : String} (pre post : List Char) {cs : List Char} {xs : List (Placeholder × α)}
    (hsource : source.toList = pre ++ (cs ++ post))
    (h : Placeholder.scan (byteLength pre) cs = .ok (xs.map Prod.fst)) :
    ∀ x ∈ xs, IsCut source x.1.span.start ∧ IsCut source x.1.span.stop := by
  intro x hx
  obtain ⟨before, after, rfl, hspan⟩ := Placeholder.written_of_scan h x.1 (List.mem_map_of_mem hx)
  rw [hspan, ← byteLength_append, ← byteLength_append]
  constructor
  · exact isCut_of_append (pre ++ before) ('?' :: x.1.kind.tag ++ (after ++ post)) (by simp [hsource])
  · exact isCut_of_append (pre ++ before ++ '?' :: x.1.kind.tag) (after ++ post) (by simp [hsource])

theorem isCut_fragment {source : String} (pre body rest : List Char)
    (hsource : source.toList = pre ++ (braced body ++ rest)) :
    IsCut source (fragmentAt (byteLength pre) body).span.start ∧
      IsCut source (fragmentAt (byteLength pre) body).interior.start ∧
      IsCut source (fragmentAt (byteLength pre) body).interior.stop ∧
      IsCut source (fragmentAt (byteLength pre) body).span.stop := by
  have hopen : (fragmentAt (byteLength pre) body).interior.start = byteLength (pre ++ ['\x7b']) := by
    simp [fragmentAt, Fragment.interior, byteLength, utf8Size_open]
  have hclose : (fragmentAt (byteLength pre) body).interior.stop = byteLength (pre ++ '\x7b' :: body) := by
    simp only [fragmentAt, Fragment.interior, byteLength_braced, byteLength_append, byteLength, utf8Size_open]
    omega
  have hstop : (fragmentAt (byteLength pre) body).span.stop = byteLength (pre ++ braced body) := by
    simp [fragmentAt]
  rw [hopen, hclose, hstop]
  rw [braced_append] at hsource
  refine ⟨isCut_of_append pre _ hsource, ?_, ?_, ?_⟩
  · exact isCut_of_append _ (body ++ '\x7d' :: rest) (by simp [hsource])
  · exact isCut_of_append _ ('\x7d' :: rest) (by simp [hsource])
  · exact isCut_of_append _ rest (by simp [hsource, braced])

/-! ## What a plan promises -/

namespace Planner

theorem text?_eq_some {source : String} {start stop : Nat} {piece : Piece} (h : text? source start stop = some piece) :
    piece = .text ⟨start, stop⟩ ∧ Span.InRange source ⟨start, stop⟩ := by
  unfold text? at h
  split at h
  · exact ⟨(Option.some.inj h).symm, ‹_›⟩
  · cases h

section
variable {t : Template} {rs : List Rendering}

theorem inRange_of_copy? {cursor stop next last : Nat} {ps : List Piece}
    (h : copy? t rs cursor stop next = some (ps, last)) : ∀ s, .text s ∈ ps → s.InRange t.source := by
  -- Copying ends at a placeholder behind the range, or where none is left.
  have hlast : ∀ {cursor next ps}, (do let text ← text? t.source cursor stop; return ([text], next)) = some (ps, last) →
      ∀ s, .text s ∈ ps → s.InRange t.source := by
    intro cursor next ps h s hs
    obtain ⟨text, htext, h⟩ := Option.bind_eq_some_iff.mp h
    obtain ⟨rfl, hrange⟩ := text?_eq_some htext
    obtain ⟨rfl, -⟩ := Prod.mk.inj (Option.some.inj h)
    obtain rfl := Piece.text.inj (List.mem_singleton.mp hs)
    exact hrange
  induction cursor, next using copy?.induct t stop generalizing ps with
  | case1 cursor next hn hlt ih =>
    rw [copy?, dif_pos hn, if_pos hlt] at h
    obtain ⟨text, htext, h⟩ := Option.bind_eq_some_iff.mp h
    obtain ⟨r, hr, h⟩ := Option.bind_eq_some_iff.mp h
    obtain ⟨⟨qs, last⟩, hqs, h⟩ := Option.bind_eq_some_iff.mp h
    obtain ⟨rfl, rfl⟩ := Prod.mk.inj (Option.some.inj h)
    obtain ⟨rfl, hrange⟩ := text?_eq_some htext
    intro s hs
    simp only [List.mem_cons, Piece.text.injEq, reduceCtorEq, false_or] at hs
    rcases hs with rfl | hs
    · exact hrange
    · exact ih hqs s hs
  | case2 cursor next hn hlt =>
    rw [copy?, dif_pos hn, if_neg hlt] at h
    exact hlast h
  | case3 cursor next hn =>
    rw [copy?, dif_neg hn] at h
    exact hlast h

theorem inRange_of_visit? {cursor next last : Nat} {f : Fragment} {ps : List Piece}
    (h : visit? t rs cursor next f = some (ps, last)) : ∀ s, .text s ∈ ps → s.InRange t.source := by
  obtain ⟨⟨before, next⟩, hbefore, h⟩ := Option.bind_eq_some_iff.mp h
  intro s hs
  by_cases he : f.isElided (t.placeholders.zip rs) = true
  · simp only [he, if_true] at h
    obtain ⟨rfl, rfl⟩ := Prod.mk.inj (Option.some.inj h)
    simp only [List.mem_append, List.mem_singleton, reduceCtorEq, or_false] at hs
    exact inRange_of_copy? hbefore s hs
  · simp only [he] at h
    obtain ⟨⟨within, next⟩, hwithin, h⟩ := Option.bind_eq_some_iff.mp h
    obtain ⟨rfl, rfl⟩ := Prod.mk.inj (Option.some.inj h)
    simp only [List.mem_append, List.mem_cons, List.not_mem_nil, reduceCtorEq, false_or, or_false] at hs
    rcases hs with hs | hs
    · exact inRange_of_copy? hbefore s hs
    · exact inRange_of_copy? hwithin s hs

theorem inRange_of_pieces? {cursor next : Nat} {fs : List Fragment} {ps : List Piece}
    (h : pieces? t rs cursor next fs = some ps) : ∀ s, .text s ∈ ps → s.InRange t.source := by
  induction fs generalizing cursor next ps with
  | nil =>
    obtain ⟨⟨qs, last⟩, hcopy, h⟩ := Option.bind_eq_some_iff.mp h
    obtain rfl := Option.some.inj h
    exact inRange_of_copy? hcopy
  | cons f fs ih =>
    obtain ⟨⟨through, last⟩, hvisit, h⟩ := Option.bind_eq_some_iff.mp h
    obtain ⟨rest, hrest, h⟩ := Option.bind_eq_some_iff.mp h
    obtain rfl := Option.some.inj h
    intro s hs
    rcases List.mem_append.mp hs with hs | hs
    · exact inRange_of_visit? hvisit s hs
    · exact ih hrest s hs

end

end Planner

/-! ## Planning never goes out of range -/

namespace Planner

theorem text?_eq {source : String} {start stop : Nat} (hle : start ≤ stop) (hstart : IsCut source start)
    (hstop : IsCut source stop) : text? source start stop = some (.text ⟨start, stop⟩) :=
  if_pos (show Span.InRange source ⟨start, stop⟩ from ⟨hle, hstart, hstop⟩)

section
variable {t : Template} {rs : List Rendering}

theorem placeholders_drop (hlen : rs.length = t.arity) (next : Nat) :
    t.placeholders.drop next = ((t.placeholders.zip rs).drop next).map Prod.fst := by
  rw [List.map_drop, List.map_fst_zip (Nat.le_of_eq hlen.symm)]

theorem copy?_last {cursor stop next : Nat} {later : List Filled} (hlen : rs.length = t.arity)
    (hnext : (t.placeholders.zip rs).drop next = later) (hlater : ∀ x ∈ later, stop ≤ x.1.span.start)
    (hle : cursor ≤ stop) (hcursor : IsCut t.source cursor) (hstop : IsCut t.source stop) :
    copy? t rs cursor stop next = some ([.text ⟨cursor, stop⟩], next) := by
  have hdrop := placeholders_drop hlen next
  rw [hnext] at hdrop
  unfold copy?
  by_cases h : next < t.placeholders.length
  · have hstart : ¬ t.placeholders[next].span.start < stop := by
      have hmem : t.placeholders[next] ∈ later.map Prod.fst := by
        rw [← hdrop, List.drop_eq_getElem_cons h]
        exact List.mem_cons_self ..
      obtain ⟨x, hx, hp⟩ := List.mem_map.mp hmem
      rw [← hp]
      exact Nat.not_lt.mpr (hlater x hx)
    rw [dif_pos h, if_neg hstart, text?_eq hle hcursor hstop]
    rfl
  · rw [dif_neg h, text?_eq hle hcursor hstop]
    rfl

/-- The index counts the placeholders that are passed. -/
theorem copy?_eq {cursor stop next : Nat} {xs later : List Filled} (hlen : rs.length = t.arity)
    (hnext : (t.placeholders.zip rs).drop next = xs ++ later) (hlater : ∀ x ∈ later, stop ≤ x.1.span.start)
    (hx : InOrder cursor stop xs) (hcuts : ∀ x ∈ xs, IsCut t.source x.1.span.start ∧ IsCut t.source x.1.span.stop)
    (hle : cursor ≤ stop) (hcursor : IsCut t.source cursor) (hstop : IsCut t.source stop) :
    copy? t rs cursor stop next = some (Layout.copy cursor stop xs, next + xs.length) := by
  induction xs generalizing cursor next with
  | nil => exact copy?_last hlen hnext hlater hle hcursor hstop
  | cons x xs ih =>
    obtain ⟨p, r⟩ := x
    have hw := hx.within (p, r) (List.mem_cons_self ..)
    obtain ⟨hcut, hcuts⟩ := List.forall_mem_cons.mp hcuts
    have hget : (t.placeholders.zip rs)[next]? = some (p, r) := by
      rw [← List.head?_drop, hnext]
      rfl
    obtain ⟨hp, hr⟩ := List.getElem?_zip_eq_some.mp hget
    obtain ⟨h, hp⟩ := List.getElem?_eq_some_iff.mp hp
    have hrest : (t.placeholders.zip rs).drop (next + 1) = xs ++ later := by
      rw [← List.drop_drop, hnext]
      rfl
    have hlt : p.span.start < stop := by
      simp only at hw
      omega
    unfold copy?
    rw [dif_pos h, hp, if_pos hlt, text?_eq hw.1 hcursor hcut.1, hr]
    simp only [Option.bind_eq_bind, Option.bind_some, ih hrest hx.tail hcuts hw.2.2 hcut.2, Layout.copy]
    simp [Nat.add_assoc, Nat.add_comm 1]

theorem dropUntil_eq {stop next : Nat} {xs later : List Filled} (hlen : rs.length = t.arity)
    (hnext : (t.placeholders.zip rs).drop next = xs ++ later) (hx : ∀ x ∈ xs, x.1.span.start < stop)
    (hlater : ∀ x ∈ later, stop ≤ x.1.span.start) : dropUntil t stop next = next + xs.length := by
  have hnone : (later.map Prod.fst).takeWhile (fun p => decide (p.span.start < stop)) = [] := by
    cases later with
    | nil => rfl
    | cons y later =>
      have := hlater y (List.mem_cons_self ..)
      simp [Nat.not_lt.mpr this]
  have hall : ∀ p ∈ xs.map Prod.fst, decide (p.span.start < stop) = true := by
    simpa using hx
  unfold dropUntil
  rw [placeholders_drop hlen, hnext, List.map_append, List.takeWhile_append_of_pos hall, hnone, List.append_nil,
    List.length_map]

section
variable {offset next : Nat} {before body rest pre : List Char} {xs ys zs : List Filled} {fs : List Fragment}
  {f : Fragment} (hlen : rs.length = t.arity) (hsource : t.source.toList = pre ++ (before ++ (braced body ++ rest)))
  (ho : offset = byteLength pre) (hx : Placeholder.scan offset before = .ok (xs.map Prod.fst))
  (hy : Placeholder.scan (offset + byteLength before + 1) body = .ok (ys.map Prod.fst))
  (hm : Markup (offset + byteLength before + byteLength (braced body)) rest zs fs)
  (hnext : (t.placeholders.zip rs).drop next = xs ++ (ys ++ zs))
  (hf : f = fragmentAt (offset + byteLength before) body)
include hlen hsource ho hx hy hm hnext hf

/-- Whether it is copied or dropped, a fragment moves the index past its own placeholders. -/
theorem passes_fragment :
    copy? t rs offset f.span.start next = some (Layout.copy offset f.span.start xs, next + xs.length) ∧
      copy? t rs f.interior.start f.interior.stop (next + xs.length) =
        some (Layout.copy f.interior.start f.interior.stop ys, next + xs.length + ys.length) ∧
      dropUntil t f.span.stop (next + xs.length) = next + xs.length + ys.length := by
  subst ho
  have ha : Around _ _ f xs ys zs := hf ▸ Markup.around hx hy hm
  have hw := ha.wide
  have hin : f.interior.start ≤ f.interior.stop ∧ f.interior.stop ≤ f.span.stop := by
    simp only [Fragment.interior]
    omega
  have hcuts := isCut_fragment (pre ++ before) body rest (by rw [hsource, List.append_assoc])
  rw [byteLength_append, ← hf] at hcuts
  have hxcuts := isCut_of_scan pre (braced body ++ rest) hsource hx
  have hycuts : ∀ y ∈ ys, IsCut t.source y.1.span.start ∧ IsCut t.source y.1.span.stop := by
    have hopen : byteLength (pre ++ before ++ ['\x7b']) = byteLength pre + byteLength before + 1 := by
      simp [byteLength, utf8Size_open, Nat.add_assoc]
    refine isCut_of_scan (pre ++ before ++ ['\x7b']) ('\x7d' :: rest) ?_ (by rwa [hopen])
    simp [hsource, braced]
  have hlater : ∀ z ∈ zs, f.span.stop ≤ z.1.span.start := fun z hz => (ha.after z hz).1
  have hnext' : (t.placeholders.zip rs).drop (next + xs.length) = ys ++ zs := by
    rw [← List.drop_drop, hnext, List.drop_left]
  refine ⟨?_, ?_, ?_⟩
  · have horder : InOrder (byteLength pre) f.span.start xs := by
      rw [hf]
      exact inOrder_of_scan hx
    refine copy?_eq hlen hnext ?_ horder hxcuts hw.1 (isCut_of_append pre _ hsource) hcuts.1
    intro y hy
    rcases List.mem_append.mp hy with hy | hz
    · have := ha.inside y hy
      omega
    · have := hlater y hz
      omega
  · refine copy?_eq hlen hnext' ?_ (hf ▸ inOrder_interior hy) hycuts hin.1 hcuts.2.1 hcuts.2.2.1
    exact fun z hz => Nat.le_trans hin.2 (hlater z hz)
  · refine dropUntil_eq hlen hnext' ?_ hlater
    intro y hy
    have := ha.inside y hy
    omega

theorem visit?_eq :
    visit? t rs offset next f = some (Layout.copy offset f.span.start xs ++
      Layout.fragment (t.placeholders.zip rs) f ys, next + xs.length + ys.length) := by
  obtain ⟨hbefore, hwithin, huntil⟩ := passes_fragment hlen hsource ho hx hy hm hnext hf
  unfold visit?
  rw [hbefore]
  by_cases he : f.isElided (t.placeholders.zip rs) = true
  · simp [he, huntil, Layout.fragment]
  · simp [he, hwithin, Layout.fragment]

end

/-- **The planner makes the layout** of what is left of a source. -/
theorem pieces?_eq (hlen : rs.length = t.arity) {offset : Nat} {cs : List Char} {xs : List Filled}
    {fs : List Fragment} (h : Markup offset cs xs fs) (pre : List Char) (hsource : t.source.toList = pre ++ cs)
    (ho : offset = byteLength pre)
    (hall : ∀ f : Fragment, offset ≤ f.span.start → f.holds (t.placeholders.zip rs) = f.holds xs) {next : Nat}
    (hnext : (t.placeholders.zip rs).drop next = xs) :
    pieces? t rs offset next fs = some (Layout.pieces (t.placeholders.zip rs) t.source.utf8ByteSize offset fs xs) := by
  -- The index stands at the placeholders of the rest, which are all that is left of the list.
  induction h generalizing pre next with
  | @plain offset cs xs hcs hs =>
    subst ho
    have hsize : byteLength pre + byteLength cs = t.source.utf8ByteSize := by
      rw [utf8ByteSize_eq, hsource, byteLength_append]
    have hstop : IsCut t.source (byteLength pre + byteLength cs) := by
      rw [← byteLength_append]
      exact isCut_of_append (pre ++ cs) [] (by rw [hsource, List.append_nil])
    have hcopy := copy?_eq hlen (by rw [hnext, List.append_nil]) (by simp) (inOrder_of_scan hs)
      (isCut_of_scan pre [] (by rw [hsource, List.append_nil]) hs) (Nat.le_add_right ..)
      (isCut_of_append pre cs hsource) hstop
    unfold pieces?
    rw [← hsize, hcopy]
    rfl
  | @fragment offset before body rest xs ys zs fs hb hx hi hy hm ih =>
    have ha := Markup.around hx hy hm
    have hdrop : (t.placeholders.zip rs).drop (next + xs.length + ys.length) = zs := by
      rw [← List.drop_drop, ← List.drop_drop, hnext, List.drop_left, List.drop_left]
    have hrest := ih (pre ++ before ++ braced body) (by simp [hsource]) (by simp [ho, Nat.add_assoc])
      (ha.later_of_same hall) hdrop
    rw [pieces?, visit?_eq hlen hsource ho hx hy hm hnext rfl, ha.pieces]
    exact congrArg (fun r => Option.bind r _) hrest

theorem plan?_eq {source : String} (h : Template.parse source = .ok t) (hlen : rs.length = t.arity) :
    plan? t rs = some (t.layout rs) := by
  obtain ⟨hsource, hm⟩ := markup_of_parse h hlen
  exact pieces?_eq hlen hm [] (by rw [hsource, List.nil_append]) rfl (fun _ _ => rfl) List.drop_zero

end

end Planner

/-! ## The plan of a template -/

section
variable (E : Escaper)

/-- **The layout stays in range** and takes up the source once. A planner with one
index finds the same pieces, whatever is skipped. -/
theorem layout_in_range {source : String} {t : Template} {args : List Arg} {rs : List Rendering}
    (h : Template.parse source = .ok t) (hr : t.renderArgs E args = .ok rs) :
    Planner.plan? t rs = some (t.layout rs) ∧
      (∀ s, .text s ∈ t.layout rs → s.InRange source) ∧
      (∀ p ∈ t.layout rs, p.span.start ≤ p.span.stop) ∧
      (t.layout rs).Pairwise (fun p q => p.span.stop ≤ q.span.start) ∧
      (∀ n, (∃ p ∈ t.layout rs, p.span.start ≤ n ∧ n < p.span.stop) ↔ n < source.utf8ByteSize) ∧
      (t.layout rs).filter Piece.isMark = t.fragments.flatMap (Fragment.marks (t.placeholders.zip rs)) ∧
      (t.layout rs).filterMap Piece.filled? =
        (remaining Rendering.isSkip t.fragments (t.placeholders.zip rs)).map fun x => (x.1.span, x.2) := by
  have hlen := length_of_renderArgs E hr
  obtain ⟨hsource, hm⟩ := markup_of_parse h hlen
  have htiles := hm.tiles (t.placeholders.zip rs)
  have hsize : t.source.utf8ByteSize = 0 + byteLength source.toList := by
    rw [hsource, utf8ByteSize_eq, Nat.zero_add]
  rw [← hsize] at htiles
  have hplan := Planner.plan?_eq h hlen
  have hrange := Planner.inRange_of_pieces? hplan
  rw [hsource] at hrange
  refine ⟨hplan, hrange, ?_, List.pairwise_map.mp htiles.pairwise, ?_, filter_pieces _ _ _ _ _, ?_⟩
  · exact fun p hp => (htiles.bounds _ (List.mem_map_of_mem hp)).2.1
  · intro n
    simpa [Template.layout, hsource] using htiles.exists_mem_iff n
  · exact hm.filled_pieces _ fun _ _ => rfl

end

/-- A kept fragment and one that is elided, next to each other and behind a
character of two bytes. -/
theorem layout_in_range_adjacent :
    Planner.plan? ⟨"é\x7ba=?d\x7d\x7b ?# ?\x7d", [⟨⟨5, 7⟩, .int⟩, ⟨⟨10, 12⟩, .identifiers⟩, ⟨⟨13, 14⟩, .generic⟩],
        [⟨⟨2, 8⟩⟩, ⟨⟨8, 15⟩⟩]⟩ [.sql "1", .sql "`b`", .skip] =
      some [.text ⟨0, 2⟩, .brace ⟨2, 3⟩, .text ⟨3, 5⟩, .placeholder ⟨5, 7⟩ (.sql "1"), .text ⟨7, 7⟩, .brace ⟨7, 8⟩,
        .text ⟨8, 8⟩, .elided ⟨8, 15⟩ 2, .text ⟨15, 15⟩] := by
  have h : Template.parse "é\x7ba=?d\x7d\x7b ?# ?\x7d" = .ok ⟨"é\x7ba=?d\x7d\x7b ?# ?\x7d",
      [⟨⟨5, 7⟩, .int⟩, ⟨⟨10, 12⟩, .identifiers⟩, ⟨⟨13, 14⟩, .generic⟩], [⟨⟨2, 8⟩⟩, ⟨⟨8, 15⟩⟩]⟩ := by decide
  have hr : Template.renderArgs .mySql ⟨"é\x7ba=?d\x7d\x7b ?# ?\x7d",
      [⟨⟨5, 7⟩, .int⟩, ⟨⟨10, 12⟩, .identifiers⟩, ⟨⟨13, 14⟩, .generic⟩], [⟨⟨2, 8⟩⟩, ⟨⟨8, 15⟩⟩]⟩
      [.int 1, .text "b", .skip] = .ok [.sql "1", .sql "`b`", .skip] := by decide
  exact (layout_in_range .mySql h hr).1.trans (by decide)

end QueryTemplate
