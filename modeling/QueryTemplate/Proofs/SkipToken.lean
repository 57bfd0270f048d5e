import QueryTemplate.Command.Run
import QueryTemplate.Proofs.Tracing

/-!
# The token for a skip

A JSON string that equals the token asks for a skip when it is an argument. It
elides nothing when it stands deeper, where it is an element or a member that no
collection can hold (`elided_iff_token`).
-/

namespace QueryTemplate

/-! ## Values inside a value -/

namespace Json

def children : Json → List Json
  | .array items => items
  | .object members => members.map Prod.snd
  | _ => []

def at? (j : Json) : List Nat → Option Json
  | [] => some j
  | i :: path => j.children[i]?.bind fun k => k.at? path

end Json

namespace Arg

def children : Arg → List Arg
  | .list items => items
  | .map entries => entries.map Prod.snd
  | _ => []

def at? (a : Arg) : List Nat → Option Arg
  | [] => some a
  | i :: path => a.children[i]?.bind fun b => b.at? path

end Arg

/-- An argument that a JSON value may stand for, as far as its own level shows. -/
structure StandsFor (token : String) (j : Json) (a : Arg) : Prop where
  array : ∀ items, j = .array items → ∃ as, a = .list as ∧ as.length = items.length
  object : ∀ members, j = .object members →
    ∃ entries, a = .map entries ∧ entries.map Prod.fst = members.map Prod.fst
  text : ∀ s, s ≠ token → j = .string s → a = .text s
  skip : a = .skip ↔ j = .string token

namespace Arg

section
variable (token : String)

theorem ofJson_eq_skip_iff {j : Json} : ofJson token j = .skip ↔ j = .string token := by
  cases j with
  | string s => by_cases hs : s = token <;> simp [ofJson, hs]
  | integer n => by_cases hn : n ≤ maxInt64 <;> simp [ofJson, hn]
  | _ => simp [ofJson]

theorem standsFor_ofJson (j : Json) : StandsFor token j (ofJson token j) where
  array := by
    rintro items rfl
    exact ⟨_, rfl, by rw [ofJsonItems_eq_map, List.length_map]⟩
  object := by
    rintro members rfl
    refine ⟨_, rfl, ?_⟩
    rw [ofJsonMembers_eq_map, List.map_map]
    rfl
  text := by
    rintro s hs rfl
    simp [ofJson, hs]
  skip := ofJson_eq_skip_iff token

theorem children_ofJson (j : Json) : (ofJson token j).children = j.children.map (ofJson token) := by
  cases j with
  | string s => by_cases hs : s = token <;> simp [ofJson, hs, children, Json.children]
  | integer n => by_cases hn : n ≤ maxInt64 <;> simp [ofJson, hn, children, Json.children]
  | array items => simp [ofJson, ofJsonItems_eq_map, children, Json.children]
  | object members => simp [ofJson, ofJsonMembers_eq_map, children, Json.children]
  | _ => rfl

theorem at?_ofJson (j : Json) (path : List Nat) : (ofJson token j).at? path = (j.at? path).map (ofJson token) := by
  induction path generalizing j with
  | nil => rfl
  | cons i path ih =>
    rw [at?, Json.at?, children_ofJson, List.getElem?_map]
    cases j.children[i]? with
    | none => rfl
    | some k => exact ih k

end

/-! ## Skips in collections -/

theorem exists_mem_entries {a b : Arg} (h : b ∈ a.children) : ∃ key?, (key?, b) ∈ a.entries := by
  cases a with
  | list items => exact ⟨none, List.mem_map_of_mem h⟩
  | map entries =>
    obtain ⟨⟨k, a⟩, ha, rfl⟩ := List.mem_map.mp h
    exact ⟨some k, List.mem_map.mpr ⟨(k, a), ha, rfl⟩⟩
  | _ => cases h

section
variable (E : Escaper)

theorem skip_not_mem_entries {kind : Kind} {a : Arg} {s : String} (hkind : kind = .assignments ∨ kind = .identifiers)
    (h : a.literal E kind = .ok s) : ∀ x ∈ a.entries, x.2 ≠ .skip := by
  rintro ⟨key?, _⟩ hx rfl
  rcases hkind with rfl | rfl
  · obtain ⟨-, items, hitems, -⟩ := join_eq_ok h
    obtain ⟨item, hitem⟩ := exists_ok_of_forall₂ hitems hx
    rcases assignment_eq_ok E hitem with ⟨_, _, _, -, -, -, hscalar, -⟩ | ⟨-, hscalar⟩
    · cases hscalar
    · cases hscalar
  · obtain ⟨-, items, hitems, -⟩ := join_eq_ok h
    obtain ⟨item, hitem⟩ := exists_ok_of_forall₂ hitems hx
    cases hitem

theorem render_eq_skip_iff {kind : Kind} {a : Arg} : a.render E kind = .ok .skip ↔ a = .skip := by
  constructor
  · intro h
    rcases render_eq_ok E h with ⟨ha, -⟩ | ⟨-, s, -, hs⟩
    · exact ha
    · cases hs
  · rintro rfl
    rfl

theorem render_eq_error_of_skip {kind : Kind} {a : Arg} (hkind : kind = .assignments ∨ kind = .identifiers)
    (h : .skip ∈ a.children) : ∃ e, a.render E kind = .error e := by
  cases hr : a.render E kind with
  | error e => exact ⟨e, rfl⟩
  | ok r =>
    rcases render_eq_ok E hr with ⟨rfl, -⟩ | ⟨-, s, hs, -⟩
    · cases h
    · obtain ⟨key?, hmem⟩ := exists_mem_entries h
      exact (skip_not_mem_entries E hkind hs _ hmem rfl).elim

end

end Arg

/-! ## Arguments of a JSON array -/

/-- How the values of an array come to be arguments: a query file holds them, or they are
read from a text. -/
inductive GivenAs (token : String) (js : List Json) : List Arg → Prop
  | query {q : Query} : q.args = js → GivenAs token js (q.arguments token)
  | text {text : String} {args : List Arg} : Json.parse? text = some (.array js) →
      argsOfText? token text = some args → GivenAs token js args

section
variable {token : String} {js : List Json} {args : List Arg}

theorem GivenAs.eq_map (h : GivenAs token js args) : args = js.map (Arg.ofJson token) := by
  cases h with
  | query hq => rw [Query.arguments, hq]
  | text hparse hargs =>
    rw [argsOfText?, hparse] at hargs
    exact (Option.some.inj hargs).symm

theorem GivenAs.getElem? (h : GivenAs token js args) {i : Nat} {j : Json} (hj : js[i]? = some j) :
    args[i]? = some (Arg.ofJson token j) := by
  rw [h.eq_map, List.getElem?_map, hj]
  rfl

section
variable (E : Escaper) {source : String} {t : Template}

theorem skip_at_iff (ht : Template.parse source = .ok t) (h : GivenAs token js args) {rs : List Rendering}
    (hrs : t.renderArgs E args = .ok rs) (i : Nat) : rs[i]? = some .skip ↔ js[i]? = some (.string token) := by
  rw [renderArgs_eq E ht] at hrs
  have hsame : (rs[i]?).map Rendering.isSkip = (js[i]?).map fun j => (Arg.ofJson token j).isSkip := by
    rw [← List.getElem?_map, ← List.getElem?_map, map_isSkip_of_renderAll E hrs, h.eq_map, List.map_map]
    rfl
  have hr : rs[i]? = some .skip ↔ (rs[i]?).map Rendering.isSkip = some true := by
    rcases rs[i]? with _ | _ | _ <;> simp [Rendering.isSkip]
  rw [hr, hsame, Option.map_eq_some_iff]
  simp only [Arg.isSkip_iff, Arg.ofJson_eq_skip_iff, exists_eq_right]

theorem holdsSkip_iff (h : GivenAs token js args) (f : Fragment) :
    f.holdsSkip Arg.isSkip (t.placeholders.zip args) = true ↔
      ∃ x ∈ t.placeholders.zip js, f.contains x.1 = true ∧ x.2 = .string token := by
  rw [holdsSkip_map, h.eq_map, List.map_map, ← holdsSkip_map]
  simp only [Fragment.holdsSkip, Fragment.holds, List.any_filter, List.any_eq_true, Bool.and_eq_true,
    Function.comp_apply, Arg.isSkip_iff, Arg.ofJson_eq_skip_iff]

theorem build_eq_error_of_token (ht : Template.parse source = .ok t) (h : GivenAs token js args) {i : Nat}
    {p : Placeholder} {j : Json} (hp : t.placeholders[i]? = some p) (hj : js[i]? = some j)
    (hkind : p.kind = .assignments ∨ p.kind = .identifiers) (hmem : Json.string token ∈ j.children) :
    ∃ e, build E source args = .error e := by
  have hskip : Arg.skip ∈ (Arg.ofJson token j).children := by
    rw [Arg.children_ofJson]
    exact List.mem_map.mpr ⟨_, hmem, (Arg.ofJson_eq_skip_iff token).mpr rfl⟩
  obtain ⟨e, he⟩ := Arg.render_eq_error_of_skip E hkind hskip
  cases hb : build E source args with
  | error e => exact ⟨e, rfl⟩
  | ok sql =>
    -- All arguments are rendered before a fragment is elided.
    obtain ⟨t', rs, ht', hrs, -⟩ := build_eq_ok E hb
    obtain rfl := Except.ok.inj (ht.symm.trans ht')
    have hx : (p, Arg.ofJson token j) ∈ t.placeholders.zip args :=
      List.mem_iff_getElem?.mpr ⟨i, List.getElem?_zip_eq_some.mpr ⟨hp, h.getElem? hj⟩⟩
    obtain ⟨r, hr⟩ := exists_ok_of_forall₂ ((renderArgs_eq_ok_iff E).mp hrs).2 hx
    cases he.symm.trans hr

/-- **Only the token elides**, and only where it is an argument. What stands below it is
kept, and a token below it is no item of a collection. -/
theorem elided_iff_token (ht : Template.parse source = .ok t) (h : GivenAs token js args) :
    (∀ (i : Nat) (p : Placeholder) (a : Arg) (j : Json),
      t.placeholders[i]? = some p → args[i]? = some a → js[i]? = some j →
      (a.render E p.kind = .ok .skip ↔ j = .string token)) ∧
    (∀ rs, t.renderArgs E args = .ok rs →
      (∀ i : Nat, rs[i]? = some .skip ↔ js[i]? = some (.string token)) ∧
      ∀ span, (∃ n, Piece.elided span n ∈ t.layout rs) ↔ ∃ f ∈ t.fragments, f.span = span ∧
        ∃ x ∈ t.placeholders.zip js, f.contains x.1 = true ∧ x.2 = .string token) ∧
    (∀ (i : Nat) (path : List Nat),
      Option.Rel (StandsFor token) (js[i]?.bind fun j => j.at? path) (args[i]?.bind fun a => a.at? path)) ∧
    ∀ (i : Nat) (p : Placeholder) (j : Json), t.placeholders[i]? = some p → js[i]? = some j →
      p.kind = .assignments ∨ p.kind = .identifiers → Json.string token ∈ j.children →
      ∃ e, build E source args = .error e := by
  refine ⟨?_, fun rs hrs => ⟨skip_at_iff E ht h hrs, ?_⟩, ?_, fun i p j => build_eq_error_of_token E ht h⟩
  · intro i p a j hp ha hj
    obtain rfl := Option.some.inj (ha.symm.trans (h.getElem? hj))
    rw [Arg.render_eq_skip_iff, Arg.ofJson_eq_skip_iff]
  · intro span
    rw [elided_mem_layout_iff]
    simp only [isElided_of_renderArgs E ht hrs, holdsSkip_iff h]
  · intro i path
    rw [h.eq_map, List.getElem?_map]
    cases js[i]? with
    | none => exact .none
    | some j =>
      show Option.Rel _ (j.at? path) ((Arg.ofJson token j).at? path)
      rw [Arg.at?_ofJson]
      cases j.at? path with
      | none => exact .none
      | some k => exact .some (Arg.standsFor_ofJson token k)

end

end

/-- A key is no token. A token in a list fails although the fragment would be elided. -/
theorem elided_iff_token_nested :
    (∃ t rs, Template.parse "\x7b?d\x7d \x7b?#\x7d" = .ok t ∧
      t.renderArgs .mySql (Query.arguments "@" ⟨"", "", [.string "@", .object [("@", .string "b")]]⟩) = .ok rs ∧
      ∀ span, (∃ n, Piece.elided span n ∈ t.layout rs) ↔ span = ⟨0, 4⟩) ∧
    ∃ e, build .mySql "\x7b?d ?a\x7d"
      (Query.arguments "@" ⟨"", "", [.string "@", .array [.null, .string "@"]]⟩) = .error e := by
  constructor
  · have ht : Template.parse "\x7b?d\x7d \x7b?#\x7d" = .ok ⟨"\x7b?d\x7d \x7b?#\x7d",
        [⟨⟨1, 3⟩, .int⟩, ⟨⟨6, 8⟩, .identifiers⟩], [⟨⟨0, 4⟩⟩, ⟨⟨5, 9⟩⟩]⟩ := by decide
    have hargs : GivenAs "@" [.string "@", .object [("@", .string "b")]]
        (Query.arguments "@" ⟨"", "", [.string "@", .object [("@", .string "b")]]⟩) := .query rfl
    refine ⟨_, [.skip, .sql "\x60b\x60"], ht, by decide, fun span => ?_⟩
    rw [((elided_iff_token .mySql ht hargs).2.1 _ (by decide)).2]
    simpa [Fragment.contains] using eq_comm
  · have ht : Template.parse "\x7b?d ?a\x7d" = .ok ⟨"\x7b?d ?a\x7d",
        [⟨⟨1, 3⟩, .int⟩, ⟨⟨4, 6⟩, .assignments⟩], [⟨⟨0, 7⟩⟩]⟩ := by decide
    exact (elided_iff_token .mySql ht (.query rfl)).2.2.2 1 _ _ rfl rfl (.inl rfl)
      (List.mem_cons_of_mem _ List.mem_cons_self)

end QueryTemplate
