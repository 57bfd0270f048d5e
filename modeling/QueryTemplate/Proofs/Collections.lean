import QueryTemplate.Proofs.Renderings

/-!
# Errors of collections

Whether a map is keyed is decided for all of it before any entry is looked at.
`EntryFault` says what is then wrong with one entry, and rendering a collection
reports the first fault (`collection_outcome`).
-/

namespace QueryTemplate

namespace Arg

/-- What no value of a collection may be: a collection itself, or a skip. -/
inductive Nested : Arg → Shape → Prop
  | list {vs} : Nested (.list vs) .list
  | map {kvs} : Nested (.map kvs) .map
  | skip : Nested .skip .skip

inductive Names : Arg → Prop
  | int (n : Int64) : Names (.int n)
  | float (x : Binary64) : Names (.float x)
  | true : Names (.bool true)
  | text {s : String} : s ≠ "" → Names (.text s)

inductive EntryFault (a : Arg) : Kind → Option String × Arg → TemplateError → Prop
  | unnamed {v} : a.Keyed → EntryFault a .assignments (some "", v) .emptyColumnName
  | value {k? v shape} : (a.Keyed → k? ≠ some "") → v.Nested shape →
      EntryFault a .assignments (k?, v) (.deniedArgument .assignments shape)
  | name {k? v shape} : v.Nested shape → EntryFault a .identifiers (k?, v) (.deniedArgument .identifiers shape)
  | null {k?} : EntryFault a .identifiers (k?, .null) .emptyColumnName
  | false {k?} : EntryFault a .identifiers (k?, .bool false) .emptyColumnName
  | empty {k?} : EntryFault a .identifiers (k?, .text "") .emptyColumnName

inductive CollectionFault (kind : Kind) (a : Arg) : TemplateError → Prop
  | empty : a = .null ∨ a = .list [] ∨ a = .map [] → CollectionFault kind a (.emptyCollection kind)
  | entry {xs} {i : Nat} {x e} : a.Entries xs → xs[i]? = some x → EntryFault a kind x e →
      (∀ j < i, ∀ y, xs[j]? = some y → ∀ e, ¬ EntryFault a kind y e) → CollectionFault kind a e

theorem entries_eq_nil_iff {a : Arg} : a.entries = [] ↔ a = .null ∨ a = .list [] ∨ a = .map [] := by
  cases a <;> simp [entries]

theorem not_error_iff {ε α : Type} {x : Except ε α} : (∀ e, x ≠ .error e) ↔ ∃ a, x = .ok a := by
  cases x with
  | error e => simp
  | ok a => simp

section
variable (E : Escaper)

/-! ## One entry -/

theorem scalar_eq_error_iff {kind : Kind} {v : Arg} {e : TemplateError} :
    v.scalar E kind = .error e ↔ ∃ shape, v.Nested shape ∧ e = .deniedArgument kind shape := by
  constructor
  · intro h
    cases v with
    | list vs => exact ⟨.list, .list, (Except.error.inj h).symm⟩
    | map kvs => exact ⟨.map, .map, (Except.error.inj h).symm⟩
    | skip => exact ⟨.skip, .skip, (Except.error.inj h).symm⟩
    | _ => cases h
  · rintro ⟨shape, hv, rfl⟩
    cases hv <;> rfl

theorem text_ne_empty (x : Binary64) : x.text ≠ "" := by
  cases x with
  | finite negative m e => exact (signed_positional _).unquoted.ne
  | nan => decide
  | infinite negative => cases negative <;> decide

theorem column_eq_error_iff {a v : Arg} {k? : Option String} {e : TemplateError} :
    v.column E .identifiers = .error e ↔ EntryFault a .identifiers (k?, v) e := by
  constructor
  · intro h
    have hnone : ∀ name, v.columnName .identifiers = .ok name → name = "" ∧ e = .emptyColumnName := by
      intro name hn
      rw [column_of_name E hn] at h
      split at h
      · exact ⟨‹_›, (Except.error.inj h).symm⟩
      · cases h
    cases v with
    | text s =>
      obtain ⟨rfl, rfl⟩ := hnone s rfl
      exact .empty
    | int n => exact absurd (hnone _ rfl).1 (unquoted_integerLiteral n).ne
    | float x => exact absurd (hnone _ rfl).1 (text_ne_empty x)
    | bool b =>
      obtain ⟨hb, rfl⟩ := hnone _ rfl
      cases b with
      | false => exact .false
      | true => exact absurd hb (by decide)
    | null =>
      obtain ⟨-, rfl⟩ := hnone _ rfl
      exact .null
    | list items =>
      cases h
      exact .name .list
    | map es =>
      cases h
      exact .name .map
    | skip =>
      cases h
      exact .name .skip
  · intro h
    cases h with
    | name hv => cases hv <;> rfl
    | null => rfl
    | false => rfl
    | empty => rfl

theorem assignment_eq_error_iff {a : Arg} {x : Option String × Arg} {e : TemplateError} :
    assignment E (isKeyed a.entries) x = .error e ↔ EntryFault a .assignments x e := by
  obtain ⟨k?, v⟩ := x
  -- Only the name of an assignment can be wrong besides its value, and it is looked at first.
  have hvalue : (a.Keyed → k? ≠ some "") →
      (v.scalar E .assignments = .error e ↔ EntryFault a .assignments (k?, v) e) := by
    intro hk
    rw [scalar_eq_error_iff]
    constructor
    · rintro ⟨shape, hv, rfl⟩
      exact .value hk hv
    · intro h
      cases h with
      | unnamed hkeyed => exact absurd rfl (hk hkeyed)
      | value _ hv => exact ⟨_, hv, rfl⟩
  cases k? with
  | none => exact hvalue (by simp)
  | some key =>
    cases hkeyed : isKeyed a.entries with
    | false => exact hvalue fun h => absurd h (isKeyed_eq_false_iff.mp hkeyed)
    | true =>
      have ha := isKeyed_iff.mp hkeyed
      rw [assignment, if_pos rfl, column_text]
      by_cases hk : key = ""
      · subst hk
        rw [if_pos rfl]
        constructor
        · intro h
          cases h
          exact .unnamed ha
        · intro h
          cases h with
          | unnamed => rfl
          | value hne => exact absurd rfl (hne ha)
      · rw [if_neg hk, ← hvalue fun _ h => hk (Option.some.inj h)]
        change (do return inBackticks (E.identifier key) ++ " = " ++ (← v.scalar E .assignments)) = .error e ↔ _
        rw [bind_pure_comp, map_eq_error_iff]

end

theorem no_assignment_fault {a : Arg} {x : Option String × Arg} :
    (∀ e, ¬ EntryFault a .assignments x e) ↔ (∀ shape, ¬ x.2.Nested shape) ∧ (a.Keyed → x.1 ≠ some "") := by
  obtain ⟨k?, v⟩ := x
  constructor
  · intro h
    have hk : a.Keyed → k? ≠ some "" := by
      rintro ha rfl
      exact h _ (.unnamed ha)
    exact ⟨fun shape hv => h _ (.value hk hv), hk⟩
  · rintro ⟨hv, hk⟩ e h
    cases h with
    | unnamed ha => exact hk ha rfl
    | value _ hn => exact hv _ hn

theorem no_identifier_fault {a : Arg} {x : Option String × Arg} :
    (∀ e, ¬ EntryFault a .identifiers x e) ↔ x.2.Names := by
  obtain ⟨k?, v⟩ := x
  constructor
  · intro h
    cases v with
    | null => exact absurd .null (h _)
    | bool b =>
      cases b with
      | false => exact absurd .false (h _)
      | true => exact .true
    | int n => exact .int n
    | float x => exact .float x
    | text s =>
      refine .text ?_
      rintro rfl
      exact h _ .empty
    | list items => exact absurd (.name .list) (h _)
    | map es => exact absurd (.name .map) (h _)
    | skip => exact absurd (.name .skip) (h _)
  · intro hv e h
    cases hv with
    | text hs =>
      cases h with
      | name hn => cases hn
      | empty => exact hs rfl
    | _ =>
      cases h with
      | name hn => cases hn

/-! ## All entries -/

theorem join_isOk_iff {α : Type} {kind : Kind} {xs : List α} {f : α → Except TemplateError String} :
    (∃ s, (if xs.isEmpty then .error (.emptyCollection kind)
      else do return separator.intercalate (← xs.mapM f)) = .ok s) ↔ xs ≠ [] ∧ ∀ x ∈ xs, ∃ s, f x = .ok s := by
  rw [← mapM_isOk_iff]
  cases xs with
  | nil => simp
  | cons x xs =>
    rw [List.isEmpty_cons, if_neg Bool.false_ne_true, bind_pure_comp]
    simp only [map_eq_ok_iff]
    constructor
    · rintro ⟨_, items, h, -⟩
      exact ⟨List.cons_ne_nil x xs, items, h⟩
    · rintro ⟨-, items, h⟩
      exact ⟨_, items, h, rfl⟩

section
variable {a : Arg} {kind : Kind} {f : Option String × Arg → Except TemplateError String}
  (hf : ∀ {x e}, f x = .error e ↔ EntryFault a kind x e)
include hf

theorem entry_isOk_iff {x : Option String × Arg} : (∃ s, f x = .ok s) ↔ ∀ e, ¬ EntryFault a kind x e := by
  rw [← not_error_iff]
  simp only [ne_eq, hf]

theorem join_eq_error_iff_fault {e : TemplateError} :
    (if a.entries.isEmpty then .error (.emptyCollection kind)
      else do return separator.intercalate (← a.entries.mapM f)) = .error e ↔ CollectionFault kind a e := by
  rw [join_eq_error_iff, entries_eq_nil_iff]
  simp only [hf, entry_isOk_iff hf]
  constructor
  · rintro (⟨hnil, rfl⟩ | ⟨i, x, hx, he, hbefore⟩)
    · exact .empty hnil
    · exact .entry (entries_iff.mpr rfl) hx he hbefore
  · intro h
    cases h with
    | empty hnil => exact .inl ⟨hnil, rfl⟩
    | entry hxs hx he hbefore =>
      obtain rfl := entries_iff.mp hxs
      exact .inr ⟨_, _, hx, he, hbefore⟩

end

section
variable (E : Escaper)

theorem isSkip_eq_false {a : Arg} (h : a ≠ .skip) : a.isSkip = false := Bool.eq_false_iff.mpr (mt isSkip_iff.mp h)

theorem render_eq_error_iff {a : Arg} (h : a ≠ .skip) {kind : Kind} {e : TemplateError} :
    a.render E kind = .error e ↔ a.literal E kind = .error e := by
  rw [render_eq_literal E (isSkip_eq_false h), map_eq_error_iff]

theorem render_isOk_iff {a : Arg} (h : a ≠ .skip) {kind : Kind} :
    (∃ s, a.render E kind = .ok (.sql s)) ↔ ∃ s, a.literal E kind = .ok s := by
  rw [render_eq_literal E (isSkip_eq_false h)]
  simp only [map_eq_ok_iff, Rendering.sql.injEq, exists_eq_right]

/-- **The error of a collection** is that of its first entry with a fault, and it is
rendered if it has entries and none of them has one. -/
theorem collection_outcome {a : Arg} (h : a ≠ .skip) :
    (∀ e, a.render E .assignments = .error e ↔ CollectionFault .assignments a e) ∧
    ((∃ s, a.render E .assignments = .ok (.sql s)) ↔
      ¬ (a = .null ∨ a = .list [] ∨ a = .map []) ∧
        ∃ xs, a.Entries xs ∧ ∀ x ∈ xs, (∀ shape, ¬ x.2.Nested shape) ∧ (a.Keyed → x.1 ≠ some "")) ∧
    (∀ e, a.render E .identifiers = .error e ↔ CollectionFault .identifiers a e) ∧
    ((∃ s, a.render E .identifiers = .ok (.sql s)) ↔
      ¬ (a = .null ∨ a = .list [] ∨ a = .map []) ∧ ∃ xs, a.Entries xs ∧ ∀ x ∈ xs, x.2.Names) := by
  have hassignment : ∀ {x e}, assignment E (isKeyed a.entries) x = .error e ↔ EntryFault a .assignments x e :=
    assignment_eq_error_iff E
  have hcolumn : ∀ {x : Option String × Arg} {e}, x.2.column E .identifiers = .error e ↔ EntryFault a .identifiers x e :=
    column_eq_error_iff E
  simp only [render_eq_error_iff E h, render_isOk_iff E h, ← entries_eq_nil_iff, entries_iff, exists_eq_left',
    ← no_assignment_fault, ← no_identifier_fault (a := a)]
  refine ⟨fun e => join_eq_error_iff_fault hassignment, ?_, fun e => join_eq_error_iff_fault hcolumn, ?_⟩
  · simp only [← entry_isOk_iff hassignment]
    exact join_isOk_iff
  · simp only [← entry_isOk_iff hcolumn]
    exact join_isOk_iff

end

/-- A key without characters, which makes the map keyed, comes with a nested value. In a list a
null, which is a value but no name, comes before a nested one. -/
theorem collection_outcome_unnamed :
    let pairs : Arg := .map [("1", .int 1), ("", .list []), ("x", .null)]
    let values : Arg := .list [.text "a", .null, .map []]
    let names : Arg := .list [.text "a", .int 2]
    pairs ≠ .skip ∧ values ≠ .skip ∧ names ≠ .skip ∧
      (pairs.render .mySql .assignments = .error .emptyColumnName ∧
        CollectionFault .assignments pairs .emptyColumnName) ∧
      (pairs.render .mySql .identifiers = .error (.deniedArgument .identifiers .list) ∧
        CollectionFault .identifiers pairs (.deniedArgument .identifiers .list)) ∧
      (values.render .mySql .assignments = .error (.deniedArgument .assignments .map) ∧
        CollectionFault .assignments values (.deniedArgument .assignments .map)) ∧
      (values.render .mySql .identifiers = .error .emptyColumnName ∧
        CollectionFault .identifiers values .emptyColumnName) ∧
      names.render .mySql .identifiers = .ok (.sql "\x60a\x60, \x602\x60") ∧
        ∃ xs, names.Entries xs ∧ ∀ x ∈ xs, x.2.Names := by
  intro pairs values names
  have hpairs : pairs ≠ .skip := Arg.noConfusion
  have hvalues : values ≠ .skip := Arg.noConfusion
  have hnames : names ≠ .skip := Arg.noConfusion
  obtain ⟨hassigned, -, hidentified, -⟩ := collection_outcome .mySql hpairs
  obtain ⟨hassigned', -, hidentified', -⟩ := collection_outcome .mySql hvalues
  obtain ⟨-, -, -, hnamed⟩ := collection_outcome .mySql hnames
  exact ⟨hpairs, hvalues, hnames, ⟨rfl, (hassigned _).mp rfl⟩, ⟨rfl, (hidentified _).mp rfl⟩,
    ⟨rfl, (hassigned' _).mp rfl⟩, ⟨rfl, (hidentified' _).mp rfl⟩, rfl, (hnamed.mp ⟨_, rfl⟩).2⟩

end Arg

end QueryTemplate
