import QueryTemplate.Proofs.Renderings

/-!
# What an escaper does not tell apart

A text reaches the SQL of an argument through the escaper alone, apart from
whether it is empty and whether a key counts positions. So two arguments of one
shape are rendered alike when the escaper writes their texts and keys alike
(`render_eq_of_alike`), and where one of them fails the other fails likewise.
-/

namespace QueryTemplate

section
variable (E : Escaper)

structure AlikeText (s s' : String) : Prop where
  empty : s = "" ↔ s' = ""
  text : E.text s = E.text s'
  identifier : E.identifier s = E.identifier s'

structure AlikeKey (k k' : String) : Prop where
  empty : k = "" ↔ k' = ""
  digits : k.toList.all Char.isDigit = k'.toList.all Char.isDigit
  identifier : E.identifier k = E.identifier k'

/-- Arguments that differ at most in texts and keys, which the escaper writes alike. -/
inductive Alike : Arg → Arg → Prop
  | null : Alike .null .null
  | bool (b : Bool) : Alike (.bool b) (.bool b)
  | int (n : Int64) : Alike (.int n) (.int n)
  | float (x : Binary64) : Alike (.float x) (.float x)
  | skip : Alike .skip .skip
  | text {s s' : String} : AlikeText E s s' → Alike (.text s) (.text s')
  | list {items items' : List Arg} : List.Forall₂ Alike items items' → Alike (.list items) (.list items')
  -- Keys and values apart, as a relation on pairs can not be nested here.
  | map {entries entries' : List (String × Arg)} :
      List.Forall₂ (AlikeKey E) (entries.map Prod.fst) (entries'.map Prod.fst) →
      List.Forall₂ Alike (entries.map Prod.snd) (entries'.map Prod.snd) → Alike (.map entries) (.map entries')

def AlikeEntry (x y : Option String × Arg) : Prop := Option.Rel (AlikeKey E) x.1 y.1 ∧ Alike E x.2 y.2

variable {E}

theorem AlikeKey.isPosition {k k' : String} (h : AlikeKey E k k') : isPosition k = isPosition k' := by
  unfold QueryTemplate.isPosition
  rw [h.digits]
  congr 2
  rw [Bool.eq_iff_iff, List.isEmpty_iff, List.isEmpty_iff, String.toList_eq_nil_iff, String.toList_eq_nil_iff]
  exact h.empty

theorem Alike.entries {a b : Arg} (h : Alike E a b) : List.Forall₂ (AlikeEntry E) a.entries b.entries := by
  cases h with
  | null => exact .nil
  | list hitems =>
    unfold Arg.entries
    rw [List.forall₂_map_left_iff, List.forall₂_map_right_iff]
    exact hitems.imp fun x y hxy => ⟨.none, hxy⟩
  | map hkeys hvalues =>
    unfold Arg.entries
    rw [List.forall₂_map_left_iff, List.forall₂_map_right_iff] at hkeys hvalues ⊢
    exact hkeys.mp (fun x y hk hv => ⟨.some hk, hv⟩) hvalues
  | bool b => exact .cons ⟨.none, .bool b⟩ .nil
  | int n => exact .cons ⟨.none, .int n⟩ .nil
  | float x => exact .cons ⟨.none, .float x⟩ .nil
  | skip => exact .cons ⟨.none, .skip⟩ .nil
  | text hs => exact .cons ⟨.none, .text hs⟩ .nil

theorem Alike.scalar {a b : Arg} (h : Alike E a b) (kind : Kind) : a.scalar E kind = b.scalar E kind := by
  cases h with
  | text hs => simp only [Arg.scalar, hs.text]
  | _ => rfl

theorem Alike.column {a b : Arg} (h : Alike E a b) (kind : Kind) : a.column E kind = b.column E kind := by
  cases h with
  | text hs => simp only [Arg.column_text, hs.empty, hs.identifier]
  | _ => rfl

theorem AlikeEntry.assignment {x y : Option String × Arg} (h : AlikeEntry E x y) (keyed : Bool) :
    Arg.assignment E keyed x = Arg.assignment E keyed y := by
  obtain ⟨k?, a⟩ := x
  obtain ⟨l?, b⟩ := y
  obtain ⟨hk, ha⟩ := h
  cases hk with
  | none => exact ha.scalar .assignments
  | some hk => simp only [Arg.assignment, Arg.column_text, hk.empty, hk.identifier, ha.scalar .assignments]

theorem isKeyed_eq {xs ys : List (Option String × Arg)} (h : List.Forall₂ (AlikeEntry E) xs ys) :
    Arg.isKeyed xs = Arg.isKeyed ys := by
  unfold Arg.isKeyed
  induction h with
  | nil => rfl
  | @cons x y xs ys hxy _ ih =>
    obtain ⟨k?, a⟩ := x
    obtain ⟨l?, b⟩ := y
    rw [List.any_cons, List.any_cons, ih]
    cases hxy.1 with
    | none => rfl
    | some hk => simp [hk.isPosition]

theorem isEmpty_eq_of_forall₂ {α β : Type} {R : α → β → Prop} {xs : List α} {ys : List β} (h : List.Forall₂ R xs ys) :
    xs.isEmpty = ys.isEmpty := by
  cases h <;> rfl

theorem Alike.assignments {a b : Arg} (h : Alike E a b) : a.assignments E = b.assignments E := by
  have hentries := h.entries
  have hitems := mapM_eq_of_forall₂ (hentries.imp fun x y hxy => hxy.assignment (Arg.isKeyed a.entries))
  unfold Arg.assignments
  rw [isEmpty_eq_of_forall₂ hentries, hitems, isKeyed_eq hentries]

theorem Alike.identifiers {a b : Arg} (h : Alike E a b) : a.identifiers E = b.identifiers E := by
  have hentries := h.entries
  have hitems := mapM_eq_of_forall₂ (hentries.imp fun x y hxy => hxy.2.column .identifiers)
  unfold Arg.identifiers
  rw [isEmpty_eq_of_forall₂ hentries, hitems]

theorem Alike.isSkip {a b : Arg} (h : Alike E a b) : a.isSkip = b.isSkip := by
  cases h <;> rfl

/-- **Arguments that the escaper writes alike** are rendered alike, by the same SQL
or the same error. -/
theorem render_eq_of_alike {kind : Kind} {a b : Arg} (hkind : kind ∈ [Kind.generic, .assignments, .identifiers])
    (h : Alike E a b) : a.render E kind = b.render E kind := by
  have hliteral : a.literal E kind = b.literal E kind := by
    cases kind with
    | generic => exact h.scalar .generic
    | assignments => exact h.assignments
    | identifiers => exact h.identifiers
    | _ => simp at hkind
  cases hs : a.isSkip with
  | true =>
    have hs' := h.isSkip.symm.trans hs
    rw [Arg.eq_skip_of_isSkip hs, Arg.eq_skip_of_isSkip hs']
  | false =>
    have hs' := h.isSkip.symm.trans hs
    rw [Arg.render_eq_literal E hs, Arg.render_eq_literal E hs', hliteral]

end

/-- An escaper that hides every text and every name. -/
theorem render_eq_of_alike_hidden :
    Arg.render ⟨fun _ => "t", fun _ => "n"⟩ .assignments (.map [("0", .int 1), ("a", .text "it's")]) =
      Arg.render ⟨fun _ => "t", fun _ => "n"⟩ .assignments (.map [("7", .int 1), ("b c", .text "\x60")]) := by
  have hdigit : AlikeKey ⟨fun _ => "t", fun _ => "n"⟩ "0" "7" := ⟨by decide, by decide, rfl⟩
  have hkey : AlikeKey ⟨fun _ => "t", fun _ => "n"⟩ "a" "b c" := ⟨by decide, by decide, rfl⟩
  have htext : AlikeText ⟨fun _ => "t", fun _ => "n"⟩ "it's" "\x60" := ⟨by decide, rfl, rfl⟩
  exact render_eq_of_alike (by decide)
    (.map (.cons hdigit (.cons hkey .nil)) (.cons (.int 1) (.cons (.text htext) .nil)))

end QueryTemplate
