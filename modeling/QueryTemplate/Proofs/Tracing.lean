import QueryTemplate.Proofs.Composition
import QueryTemplate.Proofs.Pieces

/-!
# What a build reports

A build that fails reports nothing. One that succeeds reports the fragments that
a skip elides, in order, and then itself (`events_build`).
-/

namespace QueryTemplate

structure Event.Record where
  level : Event.Level
  target : String
  message : String
  fields : List (String × Event.Field)
  deriving DecidableEq, Repr

def Event.record (e : Event) : Event.Record := ⟨e.level, e.target, e.message, e.fields⟩

def Template.elidedFragments (t : Template) (args : List Arg) : List Fragment :=
  t.fragments.filter fun f => f.holdsSkip Arg.isSkip (t.placeholders.zip args)

def Fragment.body (f : Fragment) (source : String) : List Char := f.interior.slice source.toList

/-! ## Fragments of a source -/

/-- A fragment stands in a text that begins at `offset`, with nothing but its own
placeholders between its braces. -/
def Fragment.WrittenIn {α : Type} (offset : Nat) (cs : List Char) (xs : List (Placeholder × α)) (f : Fragment) :
    Prop :=
  ∃ pre body post, cs = pre ++ (braced body ++ post) ∧ Unbraced body ∧
    f = fragmentAt (offset + byteLength pre) body ∧ (f.holds xs).length = body.count '?'

theorem Markup.written {α : Type} {offset : Nat} {cs : List Char} {xs : List (Placeholder × α)}
    {fs : List Fragment} (h : Markup offset cs xs fs) : ∀ f ∈ fs, f.WrittenIn offset cs xs := by
  induction h with
  | plain => simp
  | @fragment offset before body rest xs ys zs fs hb hx hi hy hm ih =>
    have ha := Markup.around hx hy hm
    intro f hf
    rcases List.mem_cons.mp hf with rfl | hf
    · refine ⟨before, body, rest, rfl, hi, rfl, ?_⟩
      rw [ha.holds, length_of_scan_fst hy]
    · obtain ⟨pre, body', post, rfl, hbody, rfl, hlen⟩ := ih f hf
      refine ⟨before ++ (braced body ++ pre), body', post, by simp, hbody, ?_, ?_⟩
      · simp [Nat.add_assoc]
      · rw [ha.holds_later (hm.starts _ hf), hlen]

theorem body_of_written {source : String} {pre body post : List Char}
    (h : source.toList = pre ++ (braced body ++ post)) : (fragmentAt (byteLength pre) body).body source = body := by
  rw [Fragment.body, h, Fragment.slice_interior]

/-! ## Elisions -/

theorem holdsSkip_map {α : Type} (skip : α → Bool) (ps : List Placeholder) (as : List α) (f : Fragment) :
    f.holdsSkip skip (ps.zip as) = f.holdsSkip id (ps.zip (as.map skip)) := by
  unfold Fragment.holdsSkip Fragment.holds
  rw [List.zip_map_right, List.filter_map, List.any_map]
  rfl

theorem event_pieces (all : List Filled) (size cursor : Nat) (fs : List Fragment) (pending : List Filled) :
    (Layout.pieces all size cursor fs pending).filterMap Piece.event? =
      (fs.filter fun f => f.isElided all).map fun f =>
        .elidedFragment f.span.start f.span.stop (f.inside all).length := by
  -- No event is about a text or a placeholder, so the marks are enough.
  have hmarks : (Layout.pieces all size cursor fs pending).filterMap Piece.event? =
      ((Layout.pieces all size cursor fs pending).filter Piece.isMark).filterMap Piece.event? := by
    rw [List.filterMap_filter]
    congr 1
    funext p
    cases p <;> rfl
  rw [hmarks, filter_pieces]
  clear hmarks
  induction fs with
  | nil => rfl
  | cons f fs ih =>
    rw [List.flatMap_cons, List.filterMap_append, ih]
    by_cases he : f.isElided all = true
    · simp [Fragment.marks, he, Piece.event?]
    · simp [Fragment.marks, he, Piece.event?]

section
variable (E : Escaper)

theorem isElided_of_renderArgs {source : String} {t : Template} {args : List Arg} {rs : List Rendering}
    (h : Template.parse source = .ok t) (hrs : t.renderArgs E args = .ok rs) (f : Fragment) :
    f.isElided (t.placeholders.zip rs) = f.holdsSkip Arg.isSkip (t.placeholders.zip args) := by
  rw [renderArgs_eq E h] at hrs
  rw [holdsSkip_map Arg.isSkip, ← map_isSkip_of_renderAll E hrs, ← holdsSkip_map Rendering.isSkip]
  rfl

theorem elidedFragments_eq {source : String} {t : Template} {args : List Arg} {rs : List Rendering}
    (h : Template.parse source = .ok t) (hrs : t.renderArgs E args = .ok rs) :
    (t.fragments.filter fun f => f.isElided (t.placeholders.zip rs)) = t.elidedFragments args := by
  unfold Template.elidedFragments
  simp only [isElided_of_renderArgs E h hrs]

theorem written_of_elided {source : String} {t : Template} {args : List Arg} {rs : List Rendering}
    (h : Template.parse source = .ok t) (hrs : t.renderArgs E args = .ok rs) {f : Fragment}
    (hf : f ∈ t.elidedFragments args) :
    (f.inside (t.placeholders.zip rs)).length = (f.body source).count '?' ∧ 0 < (f.body source).count '?' ∧
      ∃ pre body post, source.toList = pre ++ (braced body ++ post) ∧ Unbraced body ∧
        f = fragmentAt (byteLength pre) body := by
  rw [← elidedFragments_eq E h hrs, List.mem_filter] at hf
  obtain ⟨hmem, he⟩ := hf
  have hm := (markup_of_parse h (length_of_renderArgs E hrs)).2
  obtain ⟨pre, body, post, hsource, hbody, rfl, hlen⟩ := hm.written f hmem
  rw [Nat.zero_add] at *
  have hcount : ((fragmentAt (byteLength pre) body).inside (t.placeholders.zip rs)).length =
      ((fragmentAt (byteLength pre) body).body source).count '?' := by
    rw [body_of_written hsource]
    exact hlen
  refine ⟨hcount, ?_, pre, body, post, hsource, hbody, rfl⟩
  obtain ⟨x, hx, -⟩ := List.any_eq_true.mp he
  rw [← hcount]
  exact List.length_pos_of_mem hx

theorem buildTraced_eq_ok {source sql : String} {args : List Arg}
    (h : (buildTraced E source args).result = .ok sql) :
    ∃ t rs, Template.parse source = .ok t ∧ t.renderArgs E args = .ok rs ∧
      (buildTraced E source args).events = (t.layout rs).filterMap Piece.event? ++
        [.compiledTemplate t.arity t.fragments.length ((t.layout rs).filterMap Piece.event?).length
          sql.utf8ByteSize] := by
  obtain ⟨t, rs, ht, hrs, -⟩ := build_eq_ok E h
  refine ⟨t, rs, ht, hrs, ?_⟩
  unfold buildTraced Template.renderTraced at *
  simp only [ht, hrs] at h ⊢
  obtain rfl := Except.ok.inj h
  rfl

theorem events_of_error {source : String} {args : List Arg} {e : TemplateError}
    (h : (buildTraced E source args).result = .error e) : (buildTraced E source args).events = [] := by
  unfold buildTraced at *
  cases ht : Template.parse source with
  | error e => rfl
  | ok t =>
    rw [ht] at h
    unfold Template.renderTraced at *
    cases hrs : t.renderArgs E args with
    | error e => simp only [hrs]
    | ok rs =>
      simp only [hrs] at h
      cases h

/-- **What is reported of a build** that succeeds: each fragment that is elided, with
the number of its placeholders, and then the sizes. -/
theorem events_build (source : String) (args : List Arg) :
    (∀ e, (buildTraced E source args).result = .error e → (buildTraced E source args).events = []) ∧
      ∀ sql, (buildTraced E source args).result = .ok sql → ∃ t, Template.parse source = .ok t ∧
        (buildTraced E source args).events.map Event.record =
          ((t.elidedFragments args).map fun f => ⟨.trace, "sqltpl.compile", "elided fragment",
            [("start", .number f.span.start), ("end", .number f.span.stop),
              ("placeholders", .number ((f.body source).count '?'))]⟩) ++
          [⟨.debug, "sqltpl.compile", "compiled template", [("placeholders", .number t.arity),
            ("fragments", .number t.fragments.length), ("elided", .number (t.elidedFragments args).length),
            ("sql_len", .number sql.utf8ByteSize)]⟩] ∧
        ∀ f ∈ t.elidedFragments args, 0 < (f.body source).count '?' ∧
          ∃ pre body post, source.toList = pre ++ (braced body ++ post) ∧ Unbraced body ∧
            f = fragmentAt (byteLength pre) body := by
  refine ⟨fun e => events_of_error E, ?_⟩
  intro sql hsql
  obtain ⟨t, rs, h, hrs, hevents⟩ := buildTraced_eq_ok E hsql
  refine ⟨t, h, ?_, fun f hf => (written_of_elided E h hrs hf).2⟩
  rw [hevents, Template.layout, event_pieces, elidedFragments_eq E h hrs, List.map_append, List.map_map,
    List.length_map]
  congr 1
  apply List.map_congr_left
  intro f hf
  rw [Function.comp_apply, (written_of_elided E h hrs hf).1]
  rfl

end

/-- Two of three fragments are elided, behind a character of two bytes. A build that
fails is silent, also about a fragment with a skip. -/
theorem events_build_elided :
    (buildTraced .mySql "é\x7b?d ?\x7d \x7bx=?\x7d \x7b?\x7d"
        [.skip, .int 1, .text "a", .skip]).events.map Event.record =
      [⟨.trace, "sqltpl.compile", "elided fragment",
          [("start", .number 2), ("end", .number 8), ("placeholders", .number 2)]⟩,
        ⟨.trace, "sqltpl.compile", "elided fragment",
          [("start", .number 15), ("end", .number 18), ("placeholders", .number 1)]⟩,
        ⟨.debug, "sqltpl.compile", "compiled template", [("placeholders", .number 4), ("fragments", .number 3),
          ("elided", .number 2), ("sql_len", .number 8)]⟩] ∧
    (buildTraced .mySql "\x7b?d ?#\x7d" [.skip, .text ""]).events = [] := by
  constructor
  · have hsql : (buildTraced .mySql "é\x7b?d ?\x7d \x7bx=?\x7d \x7b?\x7d"
        [.skip, .int 1, .text "a", .skip]).result = .ok "é x='a'" := by decide
    have ht : Template.parse "é\x7b?d ?\x7d \x7bx=?\x7d \x7b?\x7d" = .ok ⟨"é\x7b?d ?\x7d \x7bx=?\x7d \x7b?\x7d",
        [⟨⟨3, 5⟩, .int⟩, ⟨⟨6, 7⟩, .generic⟩, ⟨⟨12, 13⟩, .generic⟩, ⟨⟨16, 17⟩, .generic⟩],
        [⟨⟨2, 8⟩⟩, ⟨⟨9, 14⟩⟩, ⟨⟨15, 18⟩⟩]⟩ := by decide
    obtain ⟨t, h, hevents, -⟩ := (events_build .mySql _ _).2 _ hsql
    obtain rfl := Except.ok.inj (ht.symm.trans h)
    exact hevents.trans (by decide)
  · have herror : (buildTraced .mySql "\x7b?d ?#\x7d" [.skip, .text ""]).result = .error .emptyColumnName := by decide
    exact (events_build .mySql _ _).1 _ herror

end QueryTemplate
