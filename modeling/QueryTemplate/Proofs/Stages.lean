import QueryTemplate.Proofs.Meaning
import QueryTemplate.Proofs.Renderings

/-!
# The stages of a build

A build checks the braces, then the placeholders, then the number of arguments,
and then renders the arguments from left to right. `Fault` says what each stage
may report once the stages before it have passed, and a build reports exactly
that (`build_eq_error_iff`). Fragments are elided only after the last stage.
-/

namespace QueryTemplate

theorem parse_eq_error_iff {source : String} {e : TemplateError} :
    Template.parse source = .error e ↔
      (∃ n, Fragment.check source.toList = .error (.invalidFragment n) ∧ e = .invalidFragment n) ∨
      (Balanced source.toList ∧ ∃ before after, FirstMalformed source.toList before after ∧
        e = .invalidPlaceholder (String.ofList ('?' :: leadingTag after)) (byteLength before)) := by
  rw [parse_eq]
  cases hc : Fragment.check source.toList with
  | error e' =>
    obtain ⟨n, rfl⟩ := Fragment.checkFrom_eq_error hc
    have hb : ¬ Balanced source.toList := fun hb => by
      rw [check_eq_ok_iff.mpr hb] at hc
      cases hc
    simp [hb, eq_comm]
  | ok _ =>
    have hscan : Placeholder.scan 0 source.toList = .error e ↔ _ := Placeholder.scan_eq_error_iff
    have hmap : ((Placeholder.scan 0 source.toList).map fun ps =>
        Template.mk source ps (Fragment.scan source.toList)) = .error e ↔
          Placeholder.scan 0 source.toList = .error e := by
      cases Placeholder.scan 0 source.toList <;> simp [Except.map]
    simp only [Nat.zero_add] at hscan
    simp [hmap, hscan, check_eq_ok_iff.mp hc]

section
variable (E : Escaper)

def renderAll (ks : List Kind) (args : List Arg) : Except TemplateError (List Rendering) :=
  if args.length = ks.length then (ks.zip args).mapM fun (k, a) => a.render E k
  else .error (.argumentCount ks.length args.length)

theorem renderArgs_eq {source : String} {t : Template} (h : Template.parse source = .ok t) (args : List Arg) :
    t.renderArgs E args = renderAll E (kinds source.toList) args := by
  obtain ⟨-, hs, -⟩ := parse_eq_ok_iff.mp h
  rw [← (Placeholder.map_kind_of_scan hs).1, renderAll, List.zip_map_left, List.mapM_map, List.length_map]
  rfl

theorem build_eq {source : String} (hw : WellFormed source.toList) (args : List Arg) :
    build E source args = (renderAll E (kinds source.toList) args).map fun rs =>
      String.ofList (normalise (meaning source.toList rs)) := by
  obtain ⟨t, h⟩ := parse_iff.mpr hw
  rw [← renderArgs_eq E h, ← render_eq E h, build, buildTraced, h]
  rfl

theorem build_of_parse_error {source : String} {e : TemplateError} (h : Template.parse source = .error e)
    (args : List Arg) : build E source args = .error e := by
  rw [build, buildTraced, h]

theorem build_of_parse {source : String} {t : Template} (h : Template.parse source = .ok t) (args : List Arg) :
    build E source args = t.render E args := by
  rw [build, buildTraced, h]
  rfl

theorem build_eq_ok {source sql : String} {args : List Arg} (h : build E source args = .ok sql) :
    ∃ t rs, Template.parse source = .ok t ∧ t.renderArgs E args = .ok rs ∧
      sql = String.ofList (normalise (meaning source.toList rs)) := by
  cases ht : Template.parse source with
  | error e =>
    rw [build_of_parse_error E ht] at h
    cases h
  | ok t =>
    rw [build_of_parse E ht, render_eq E ht] at h
    cases hrs : t.renderArgs E args with
    | error e =>
      rw [hrs] at h
      cases h
    | ok rs =>
      rw [hrs] at h
      exact ⟨t, rs, rfl, hrs, (Except.ok.inj h).symm⟩

/-! ## Errors of arguments -/

theorem renderAll_eq_error_iff {ks : List Kind} {args : List Arg} {e : TemplateError} :
    renderAll E ks args = .error e ↔
      (args.length ≠ ks.length ∧ e = .argumentCount ks.length args.length) ∨
      (args.length = ks.length ∧ ∃ (i : Nat) (k : Kind) (a : Arg), ks[i]? = some k ∧ args[i]? = some a ∧
        a.render E k = .error e ∧
        ∀ j < i, ∀ k a, ks[j]? = some k → args[j]? = some a → ∃ r, a.render E k = .ok r) := by
  rw [renderAll]
  split
  · rename_i hlen
    simp [mapM_eq_error_iff, hlen, List.getElem?_zip_eq_some, and_assoc]
  · rename_i hlen
    simp [hlen, eq_comm]

theorem renderAll_isOk_iff {ks : List Kind} {args : List Arg} :
    (∃ rs, renderAll E ks args = .ok rs) ↔ args.length = ks.length ∧
      ∀ x ∈ ks.zip args, ∃ r, x.2.render E x.1 = .ok r := by
  rw [renderAll]
  split
  · rename_i hlen
    simp [mapM_isOk_iff, hlen]
  · rename_i hlen
    simp [hlen]

theorem renderAll_not_syntax {ks : List Kind} {args : List Arg} {e : TemplateError}
    (h : renderAll E ks args = .error e) : e.isSyntax = false := by
  rcases (renderAll_eq_error_iff E).mp h with ⟨-, rfl⟩ | ⟨-, i, k, a, -, -, ha, -⟩
  · rfl
  · have hblame := Arg.render_eq_error E ha
    cases e with
    | invalidFragment => cases hblame
    | invalidPlaceholder => cases hblame
    | _ => rfl

/-! ## The first fault -/

inductive Fault (source : List Char) (args : List Arg) : TemplateError → Prop
  | braces {n} : Fragment.check source = .error (.invalidFragment n) → Fault source args (.invalidFragment n)
  | placeholder {before after} : Balanced source → FirstMalformed source before after →
      Fault source args (.invalidPlaceholder (String.ofList ('?' :: leadingTag after)) (byteLength before))
  | count : WellFormed source → args.length ≠ source.count '?' →
      Fault source args (.argumentCount (source.count '?') args.length)
  | argument {i : Nat} {k : Kind} {a : Arg} {e} : WellFormed source →
      args.length = source.count '?' → (kinds source)[i]? = some k → args[i]? = some a →
      a.render E k = .error e →
      (∀ j < i, ∀ k a, (kinds source)[j]? = some k → args[j]? = some a → ∃ r, a.render E k = .ok r) →
      Fault source args e

theorem build_eq_error_iff {source : String} {args : List Arg} {e : TemplateError} :
    build E source args = .error e ↔ Fault E source.toList args e := by
  -- A well-formed source fails by its arguments, any other before they are looked at.
  cases hparse : Template.parse source with
  | error e' =>
    have hw := not_wellFormed hparse
    have hsame : build E source args = .error e ↔ Template.parse source = .error e := by
      rw [build_of_parse_error E hparse, hparse]
      simp
    rw [hsame, parse_eq_error_iff]
    constructor
    · rintro (⟨n, hc, rfl⟩ | ⟨hb, before, after, hf, rfl⟩)
      · exact .braces hc
      · exact .placeholder hb hf
    · intro h
      cases h with
      | braces hc => exact .inl ⟨_, hc, rfl⟩
      | placeholder hb hf => exact .inr ⟨hb, _, _, hf, rfl⟩
      | count h => exact (hw h).elim
      | argument h => exact (hw h).elim
  | ok t =>
    have hw := parse_iff.mp ⟨t, hparse⟩
    have hmap : ∀ x : Except TemplateError (List Rendering),
        (x.map fun rs => String.ofList (normalise (meaning source.toList rs))) = .error e ↔ x = .error e := by
      intro x
      cases x <;> simp [Except.map]
    rw [build_eq E hw, hmap, renderAll_eq_error_iff, length_kinds hw.tagged]
    constructor
    · rintro (⟨hlen, rfl⟩ | ⟨hlen, i, k, a, hk, ha, he, hfirst⟩)
      · exact .count hw hlen
      · exact .argument hw hlen hk ha he hfirst
    · intro h
      cases h with
      | braces hc =>
        rw [check_eq_ok_iff.mpr hw.balanced] at hc
        cases hc
      | placeholder _ hf => exact (hf.not_wellTagged hw.tagged).elim
      | count _ hlen => exact .inl ⟨hlen, rfl⟩
      | argument _ hlen hk ha he hfirst => exact .inr ⟨hlen, _, _, _, hk, ha, he, hfirst⟩

theorem build_isOk_iff {source : String} {args : List Arg} :
    (∃ sql, build E source args = .ok sql) ↔ WellFormed source.toList ∧ args.length = source.toList.count '?' ∧
      ∀ x ∈ (kinds source.toList).zip args, ∃ r, x.2.render E x.1 = .ok r := by
  cases hparse : Template.parse source with
  | error e =>
    have hw := not_wellFormed hparse
    simp [build_of_parse_error E hparse, hw]
  | ok t =>
    have hw := parse_iff.mp ⟨t, hparse⟩
    have hok : (∃ rs, renderAll E (kinds source.toList) args = .ok rs) ↔ _ := renderAll_isOk_iff E
    rw [length_kinds hw.tagged] at hok
    rw [build_eq E hw, and_iff_right hw, ← hok]
    cases renderAll E (kinds source.toList) args <;> simp [Except.map]

/-- **The error of a build** is that of the first stage that fails, and a build
fails only then. What is wrong with a template is found when it is parsed. -/
theorem build_outcome (source : String) (args : List Arg) :
    (∀ e, build E source args = .error e ↔ Fault E source.toList args e) ∧
      ((∃ sql, build E source args = .ok sql) ↔ WellFormed source.toList ∧
        args.length = source.toList.count '?' ∧
        ∀ x ∈ (kinds source.toList).zip args, ∃ r, x.2.render E x.1 = .ok r) ∧
      (∀ e, Template.parse source = .error e → e.isSyntax = true) ∧
      (∀ t, Template.parse source = .ok t → ∀ e, t.render E args = .error e → e.isSyntax = false) := by
  refine ⟨fun e => build_eq_error_iff E, build_isOk_iff E, ?_, ?_⟩
  · intro e h
    rcases parse_eq_error_iff.mp h with ⟨n, -, rfl⟩ | ⟨-, before, after, -, rfl⟩
    · rfl
    · rfl
  · intro t h e he
    rw [render_eq E h, renderArgs_eq E h] at he
    cases hr : renderAll E (kinds source.toList) args with
    | error e' =>
      rw [hr] at he
      obtain rfl := Except.error.inj he
      exact renderAll_not_syntax E hr
    | ok rs =>
      rw [hr] at he
      cases he

end

/-- A name without characters in a fragment that a skip elides is still reported. -/
theorem build_outcome_elided :
    build .mySql "\x7b?d ?#\x7d" [.skip, .text ""] = .error .emptyColumnName := by
  have hp : Template.parse "\x7b?d ?#\x7d" = .ok
      ⟨"\x7b?d ?#\x7d", [⟨⟨1, 3⟩, .int⟩, ⟨⟨4, 6⟩, .identifiers⟩], [⟨⟨0, 7⟩⟩]⟩ := by decide
  have hw := parse_iff.mp ⟨_, hp⟩
  refine ((build_outcome .mySql _ _).1 _).mpr (.argument (i := 1) hw rfl rfl rfl rfl ?_)
  intro j hj k a hk ha
  obtain rfl : j = 0 := Nat.lt_one_iff.mp hj
  cases hk
  cases ha
  exact ⟨.skip, rfl⟩

end QueryTemplate
