import QueryTemplate.Proofs.Outcomes
import QueryTemplate.Proofs.Words
import QueryTemplate.Rendering

/-!
# Renderings of arguments

What is skipped and what is not, which entries an argument has, who is to blame
for an error, what is written without the escaper, and why no SQL begins or ends
with a blank (`Solid`).
-/

namespace QueryTemplate

/-! ## Entries -/

namespace Arg

/-- The entries of an argument as a collection, each with its key if it has one: the items of a
list, the pairs of a map, none for null, and of any other argument itself. -/
inductive Entries : Arg → List (Option String × Arg) → Prop
  | list (vs : List Arg) : Entries (.list vs) (vs.map fun v => (none, v))
  | map (kvs : List (String × Arg)) : Entries (.map kvs) (kvs.map fun (k, v) => (some k, v))
  | null : Entries .null []
  | bool (b : Bool) : Entries (.bool b) [(none, .bool b)]
  | int (n : Int64) : Entries (.int n) [(none, .int n)]
  | float (x : Binary64) : Entries (.float x) [(none, .float x)]
  | text (s : String) : Entries (.text s) [(none, .text s)]
  | skip : Entries .skip [(none, .skip)]

/-- A map with a key that is no run of digits. -/
def Keyed (a : Arg) : Prop := ∃ es, a = .map es ∧ ∃ x ∈ es, x.1 = "" ∨ ∃ c ∈ x.1.toList, c.isDigit = false

/-- Every argument has entries, and no other than these. -/
theorem entries_iff {a : Arg} {xs : List (Option String × Arg)} : a.Entries xs ↔ a.entries = xs := by
  constructor
  · intro h
    cases h <;> rfl
  · rintro rfl
    cases a with
    | list vs => exact .list vs
    | map kvs => exact .map kvs
    | null => exact .null
    | bool b => exact .bool b
    | int n => exact .int n
    | float x => exact .float x
    | text s => exact .text s
    | skip => exact .skip

theorem isPosition_eq_false {key : String} :
    isPosition key = false ↔ key = "" ∨ ∃ c ∈ key.toList, c.isDigit = false := by
  by_cases hk : key = ""
  · simp [isPosition, hk]
  · simp [isPosition, hk]

theorem isKeyed_iff {a : Arg} : isKeyed a.entries = true ↔ a.Keyed := by
  unfold isKeyed Keyed
  simp only [← isPosition_eq_false]
  cases a with
  | list items => simp [entries]
  | map es => simp [entries]
  | _ => simp [entries]

theorem isKeyed_eq_false_iff {a : Arg} : isKeyed a.entries = false ↔ ¬ a.Keyed := by
  rw [← isKeyed_iff, Bool.not_eq_true]

instance (a : Arg) : Decidable a.Keyed := decidable_of_iff _ isKeyed_iff

end Arg

/-! ## Skips -/

namespace Arg

theorem eq_skip_of_isSkip {a : Arg} (h : a.isSkip = true) : a = .skip := by
  cases a with
  | skip => rfl
  | _ => cases h

theorem isSkip_iff {a : Arg} : a.isSkip = true ↔ a = .skip := ⟨eq_skip_of_isSkip, fun h => h ▸ rfl⟩

section
variable (E : Escaper)

theorem render_eq_literal {kind : Kind} {a : Arg} (h : a.isSkip = false) :
    a.render E kind = Rendering.sql <$> a.literal E kind := by
  cases a with
  | skip => cases h
  | _ => rfl

theorem render_eq_ok {kind : Kind} {a : Arg} {r : Rendering} (h : a.render E kind = .ok r) :
    (a = .skip ∧ r = .skip) ∨ (a.isSkip = false ∧ ∃ s, a.literal E kind = .ok s ∧ r = .sql s) := by
  cases hs : a.isSkip with
  | true =>
    obtain rfl := eq_skip_of_isSkip hs
    exact .inl ⟨rfl, (Except.ok.inj h).symm⟩
  | false =>
    rw [render_eq_literal E hs, map_eq_ok_iff] at h
    obtain ⟨s, hl, rfl⟩ := h
    exact .inr ⟨rfl, s, hl, rfl⟩

theorem literal_of_render {kind : Kind} {a : Arg} {s : String} (h : a.render E kind = .ok (.sql s)) :
    a.literal E kind = .ok s := by
  rcases render_eq_ok E h with ⟨-, h⟩ | ⟨-, t, ht, h⟩
  · cases h
  · obtain rfl := Rendering.sql.inj h
    exact ht

theorem isSkip_of_render {kind : Kind} {a : Arg} {r : Rendering} (h : a.render E kind = .ok r) :
    r.isSkip = a.isSkip := by
  rcases render_eq_ok E h with ⟨rfl, rfl⟩ | ⟨hs, s, -, rfl⟩
  · rfl
  · rw [hs]
    rfl

/-! ## Errors -/

theorem scalar_eq_error {kind : Kind} {a : Arg} {e : TemplateError} (h : a.scalar E kind = .error e) :
    e.isArgument = true := by
  cases a <;> cases h <;> rfl

theorem columnName_eq_error {kind : Kind} {a : Arg} {e : TemplateError} (h : a.columnName kind = .error e) :
    e.isArgument = true := by
  cases a <;> cases h <;> rfl

theorem column_eq_error {kind : Kind} {a : Arg} {e : TemplateError} (h : a.column E kind = .error e) :
    e.isArgument = true := by
  rcases bind_eq_error h with hn | ⟨name, -, h⟩
  · exact columnName_eq_error hn
  · split at h
    · cases h; rfl
    · cases h

theorem column_of_name {kind : Kind} {a : Arg} {name : String} (h : a.columnName kind = .ok name) :
    a.column E kind = if name = "" then .error .emptyColumnName else .ok (inBackticks (E.identifier name)) := by
  unfold column
  rw [h]
  by_cases hn : name = ""
  · subst hn
    rfl
  · have hne : ¬ name.isEmpty = true := by simpa using hn
    rw [if_neg hn]
    exact if_neg hne

theorem column_text (kind : Kind) (s : String) :
    column E kind (.text s) = if s = "" then .error .emptyColumnName else .ok (inBackticks (E.identifier s)) :=
  column_of_name E rfl

theorem assignment_eq_error {keyed : Bool} {x : Option String × Arg} {e : TemplateError}
    (h : assignment E keyed x = .error e) : e.isArgument = true := by
  obtain ⟨_ | key, a⟩ := x
  · exact scalar_eq_error E h
  · rw [assignment] at h
    split at h
    · rcases bind_eq_error h with hc | ⟨name, -, h⟩
      · exact column_eq_error E hc
      · rcases bind_eq_error h with hs | ⟨value, -, h⟩
        · exact scalar_eq_error E hs
        · cases h
    · exact scalar_eq_error E h

/-- Nothing to join is an error, and else the first item that fails decides. -/
theorem join_eq_error_iff {α : Type} {kind : Kind} {xs : List α} {f : α → Except TemplateError String}
    {e : TemplateError} :
    (if xs.isEmpty then .error (.emptyCollection kind)
      else do return separator.intercalate (← xs.mapM f)) = .error e ↔
      (xs = [] ∧ e = .emptyCollection kind) ∨
        ∃ (i : Nat) (x : α), xs[i]? = some x ∧ f x = .error e ∧ ∀ j < i, ∀ y, xs[j]? = some y → ∃ s, f y = .ok s := by
  cases xs with
  | nil => simp [eq_comm]
  | cons x xs =>
    rw [List.isEmpty_cons, if_neg Bool.false_ne_true, bind_pure_comp, map_eq_error_iff, mapM_eq_error_iff]
    simp

theorem join_eq_error {α : Type} {kind : Kind} {items : List α} {f : α → Except TemplateError String}
    {e : TemplateError} (hf : ∀ x e, f x = .error e → e.isArgument = true)
    (h : (if items.isEmpty then .error (.emptyCollection kind)
      else do return separator.intercalate (← items.mapM f)) = .error e) : e.isArgument = true := by
  rcases join_eq_error_iff.mp h with ⟨-, rfl⟩ | ⟨_, x, -, hx, -⟩
  · rfl
  · exact hf x e hx

theorem literal_eq_error {kind : Kind} {a : Arg} {e : TemplateError} (h : a.literal E kind = .error e) :
    e.isArgument = true := by
  cases kind with
  | generic => exact scalar_eq_error E h
  | int => cases a <;> cases h
  | float => cases a <;> cases h
  | assignments => exact join_eq_error (fun _ _ => assignment_eq_error E) h
  | identifiers => exact join_eq_error (fun x _ => column_eq_error E) h

/-- An argument that can not be rendered is to blame for it, never the template. -/
theorem render_eq_error {kind : Kind} {a : Arg} {e : TemplateError} (h : a.render E kind = .error e) :
    e.isArgument = true := by
  cases hs : a.isSkip with
  | true =>
    rw [eq_skip_of_isSkip hs] at h
    cases h
  | false =>
    rw [render_eq_literal E hs, map_eq_error_iff] at h
    exact literal_eq_error E h

end

end Arg

/-! ## Numbers -/

structure Digits (cs : List Char) : Prop where
  ne : cs ≠ []
  isDigit : ∀ c ∈ cs, c.isDigit = true

inductive Magnitude : List Char → Prop
  | whole {ds} : Digits ds → Magnitude ds
  | fraction {ds es} : Digits ds → Digits es → Magnitude (ds ++ '.' :: es)

inductive Signed : List Char → Prop
  | positive {cs} : Magnitude cs → Signed cs
  | negative {cs} : Magnitude cs → Signed ('-' :: cs)

def isNumberChar (c : Char) : Bool := c.isDigit || c == '-' || c == '.'

theorem Digits.append {ds es : List Char} (h : Digits ds) (he : ∀ c ∈ es, c.isDigit = true) : Digits (ds ++ es) where
  ne := by simp [h.ne]
  isDigit := by
    intro c hc
    exact (List.mem_append.mp hc).elim (h.isDigit c) (he c)

theorem isDigit_digits {n : Nat} {c : Char} (h : c ∈ digits n) : c.isDigit = true :=
  Nat.isDigit_of_mem_toDigits (by decide) (by decide) h

theorem isDigit_zeros {k : Nat} {c : Char} (h : c ∈ List.replicate k '0') : c.isDigit = true := by
  rw [List.eq_of_mem_replicate h]
  rfl

theorem digits_digits (n : Nat) : Digits (digits n) := ⟨Nat.toDigits_ne_nil, fun _ => isDigit_digits⟩

theorem signed_integerText (n : Int) : Signed (integerText n) := by
  unfold integerText
  split
  · exact .negative (.whole (digits_digits _))
  · exact .positive (.whole (digits_digits _))

theorem integerText_eq (n : Int) : integerText n = (toString n).toList := by
  unfold integerText
  cases n with
  | ofNat m =>
    rw [if_neg (by simp)]
    simp [toString, Int.repr, Nat.repr, digits]
  | negSucc m =>
    rw [if_pos (by simp)]
    simp [toString, Int.repr, Nat.repr, digits]

theorem toList_integerLiteral (n : Int64) : (integerLiteral n).toList = (toString n.toInt).toList := by
  rw [integerLiteral, String.toList_ofList, integerText_eq]

theorem signed_positional (d : Decimal) : Signed d.positional := by
  obtain ⟨negative, coefficient, exponent⟩ := d
  have hds := digits_digits coefficient
  -- The point stands behind the digits, among them or before them.
  have hbody : Magnitude (Decimal.positional ⟨false, coefficient, exponent⟩) := by
    simp only [Decimal.positional, Bool.false_eq_true, if_false]
    split
    · exact .whole (hds.append fun _ => isDigit_zeros)
    · split
      · rename_i hplaces hlt
        apply Magnitude.fraction
        · refine ⟨fun h => ?_, fun c hc => hds.isDigit c (List.mem_of_mem_take hc)⟩
          rcases List.take_eq_nil_iff.mp h with h | h
          · omega
          · exact hds.ne h
        · refine ⟨fun h => ?_, fun c hc => hds.isDigit c (List.mem_of_mem_drop hc)⟩
          rw [List.drop_eq_nil_iff] at h
          omega
      · refine Magnitude.fraction ⟨List.cons_ne_nil _ _, List.forall_mem_singleton.mpr rfl⟩ ?_
        refine ⟨by simp [hds.ne], fun c hc => ?_⟩
        exact (List.mem_append.mp hc).elim isDigit_zeros (hds.isDigit c)
  cases negative with
  | false => exact .positive hbody
  | true => exact .negative hbody

theorem Digits.chars {ds : List Char} (h : Digits ds) {c : Char} (hc : c ∈ ds) :
    isNumberChar c = true := by
  rw [isNumberChar, h.isDigit c hc]
  rfl

theorem Magnitude.chars {cs : List Char} (h : Magnitude cs) {c : Char} (hc : c ∈ cs) :
    isNumberChar c = true := by
  cases h with
  | whole hds => exact hds.chars hc
  | fraction hds hes =>
    rcases List.mem_append.mp hc with hc | hc
    · exact hds.chars hc
    · rcases List.mem_cons.mp hc with rfl | hc
      · rfl
      · exact hes.chars hc

theorem Signed.chars {cs : List Char} (h : Signed cs) {c : Char} (hc : c ∈ cs) :
    isNumberChar c = true := by
  cases h with
  | positive hm => exact hm.chars hc
  | negative hm =>
    rcases List.mem_cons.mp hc with rfl | hc
    · rfl
    · exact hm.chars hc

theorem Signed.ne_nil {cs : List Char} (h : Signed cs) : cs ≠ [] := by
  cases h with
  | negative => exact List.cons_ne_nil _ _
  | positive hm =>
    cases hm with
    | whole hds => exact hds.ne
    | fraction => simp

/-! ## SQL without quotes -/

def isUnquotedChar (c : Char) : Bool := isNumberChar c || "NULL".toList.contains c

structure Unquoted (s : String) : Prop where
  ne : s ≠ ""
  chars : ∀ c ∈ s.toList, isUnquotedChar c = true

theorem toNat_of_isUnquotedChar {c : Char} (h : isUnquotedChar c = true) : 45 ≤ c.toNat ∧ c.toNat ≤ 90 := by
  simp only [isUnquotedChar, isNumberChar, Char.isDigit, Bool.or_eq_true, Bool.and_eq_true, beq_iff_eq,
    decide_eq_true_eq, ge_iff_le, UInt32.le_iff_toNat_le, List.contains_iff_mem] at h
  rcases h with ((⟨hlow, hhigh⟩ | rfl) | rfl) | hnull
  · have hlow : 48 ≤ c.toNat := hlow
    have hhigh : c.toNat ≤ 57 := hhigh
    omega
  · decide
  · decide
  · have hall : ("NULL".toList.all fun c => 45 ≤ c.toNat ∧ c.toNat ≤ 90) = true := rfl
    exact of_decide_eq_true (List.all_eq_true.mp hall c hnull)

theorem Signed.unquoted {cs : List Char} (h : Signed cs) : Unquoted (String.ofList cs) where
  ne := by simpa using h.ne_nil
  chars := by
    intro c hc
    rw [String.toList_ofList] at hc
    rw [isUnquotedChar, h.chars hc]
    rfl

/-- A truth value is the number 1 or 0. -/
theorem signed_bool (b : Bool) : Signed [if b then '1' else '0'] :=
  .positive (.whole ⟨List.cons_ne_nil _ _, List.forall_mem_singleton.mpr (by cases b <;> rfl)⟩)

theorem unquoted_null : Unquoted "NULL" where
  ne := by decide
  chars := List.all_eq_true.mp rfl

theorem unquoted_integerLiteral (n : Int64) : Unquoted (integerLiteral n) := (signed_integerText _).unquoted

theorem unquoted_floatLiteral (x : Binary64) : Unquoted (floatLiteral x) := by
  unfold floatLiteral
  cases x with
  | finite negative m e => exact (signed_positional _).unquoted
  | _ => exact unquoted_null

namespace Arg

section
variable (E : Escaper)

/-- The name that an argument stands for, unless it is empty. -/
def nameText? : Arg → Option (List Char)
  | .text s => some s.toList
  | .int n => some (toString n.toInt).toList
  | .float x => some x.text.toList
  | .bool true => some ['1']
  | _ => none

theorem column_eq_ok {kind : Kind} {a : Arg} {s : String} (h : a.column E kind = .ok s) :
    ∃ name : String, a.nameText? = some name.toList ∧ s = inBackticks (E.identifier name) := by
  obtain ⟨name, hn, h⟩ := bind_eq_ok h
  split at h
  · cases h
  · rename_i hne
    refine ⟨name, ?_, (Except.ok.inj h).symm⟩
    cases a with
    | text t =>
      obtain rfl := Except.ok.inj hn
      rfl
    | int n =>
      obtain rfl := Except.ok.inj hn
      exact congrArg some (toList_integerLiteral n).symm
    | float x =>
      obtain rfl := Except.ok.inj hn
      rfl
    | bool b =>
      obtain rfl := Except.ok.inj hn
      cases b with
      | false => exact (hne rfl).elim
      | true => rfl
    | null =>
      obtain rfl := Except.ok.inj hn
      exact (hne rfl).elim
    | _ => cases hn

/-- A scalar that is written without quotes is no text. -/
theorem scalar_eq_ok {kind : Kind} {a : Arg} {s : String} (h : a.scalar E kind = .ok s) :
    (∃ t, a = .text t ∧ s = inQuotes (E.text t)) ∨ ((∀ t, a ≠ .text t) ∧ Unquoted s) := by
  cases a with
  | text t => exact .inl ⟨t, rfl, (Except.ok.inj h).symm⟩
  | float x =>
    obtain rfl := Except.ok.inj h
    exact .inr ⟨by simp, unquoted_floatLiteral x⟩
  | int n =>
    obtain rfl := Except.ok.inj h
    exact .inr ⟨by simp, unquoted_integerLiteral n⟩
  | bool b =>
    obtain rfl := Except.ok.inj h
    refine .inr ⟨by simp, ?_⟩
    cases b with
    | false => exact (signed_bool false).unquoted
    | true => exact (signed_bool true).unquoted
  | null =>
    obtain rfl := Except.ok.inj h
    exact .inr ⟨by simp, unquoted_null⟩
  | _ => cases h

theorem assignment_eq_ok {keyed : Bool} {x : Option String × Arg} {s : String} (h : assignment E keyed x = .ok s) :
    (∃ k name value, keyed = true ∧ x.1 = some k ∧ column E .assignments (.text k) = .ok name ∧
      x.2.scalar E .assignments = .ok value ∧ s = name ++ " = " ++ value) ∨
    ((keyed = false ∨ x.1 = none) ∧ x.2.scalar E .assignments = .ok s) := by
  obtain ⟨_ | k, a⟩ := x
  · exact .inr ⟨.inr rfl, h⟩
  · cases keyed with
    | false => exact .inr ⟨.inl rfl, h⟩
    | true =>
      rw [assignment, if_pos rfl] at h
      obtain ⟨name, hn, h⟩ := bind_eq_ok h
      obtain ⟨value, hv, h⟩ := bind_eq_ok h
      exact .inl ⟨k, name, value, rfl, rfl, hn, hv, (Except.ok.inj h).symm⟩

theorem join_eq_ok {α : Type} {kind : Kind} {xs : List α} {f : α → Except TemplateError String} {s : String}
    (h : (if xs.isEmpty then .error (.emptyCollection kind)
      else do return separator.intercalate (← xs.mapM f)) = .ok s) :
    xs ≠ [] ∧ ∃ items, List.Forall₂ (fun x s => f x = .ok s) xs items ∧ s = separator.intercalate items := by
  split at h
  · cases h
  · rename_i hne
    obtain ⟨items, hitems, h⟩ := bind_eq_ok h
    refine ⟨?_, items, mapM_eq_ok_iff.mp hitems, (Except.ok.inj h).symm⟩
    rintro rfl
    exact hne rfl

/-- What is joined is one item, or an item before others that are joined. -/
theorem join_induction {α : Type} {kind : Kind} {f : α → Except TemplateError String}
    {motive : List α → List Char → Prop} (single : ∀ x s, f x = .ok s → motive [x] s.toList)
    (cons : ∀ x s xs cs, f x = .ok s → motive xs cs → motive (x :: xs) (s.toList ++ ([',', ' '] ++ cs)))
    {xs : List α} {s : String} (h : (if xs.isEmpty then .error (.emptyCollection kind)
      else do return separator.intercalate (← xs.mapM f)) = .ok s) : motive xs s.toList := by
  obtain ⟨hne, items, hitems, rfl⟩ := join_eq_ok h
  clear h
  induction hitems with
  | nil => exact (hne rfl).elim
  | @cons x s xs items hx hrest ih =>
    cases hrest with
    | nil => simpa using single x s hx
    | cons hy hrest =>
      rw [String.intercalate_cons_cons, String.toList_append, String.toList_append, List.append_assoc]
      exact cons x s _ _ hx (ih (List.cons_ne_nil _ _))

theorem unquoted_number {kind : Kind} {a : Arg} {s : String} (hkind : kind = .int ∨ kind = .float)
    (h : a.literal E kind = .ok s) : Unquoted s := by
  rcases hkind with rfl | rfl
  · cases a with
    | null =>
      obtain rfl := Except.ok.inj h
      exact unquoted_null
    | _ =>
      obtain rfl := Except.ok.inj h
      exact unquoted_integerLiteral _
  · cases a with
    | null =>
      obtain rfl := Except.ok.inj h
      exact unquoted_null
    | _ =>
      obtain rfl := Except.ok.inj h
      exact unquoted_floatLiteral _

end

end Arg

/-! ## Solid ends -/

theorem solid_of_forall {cs : List Char} (hne : cs ≠ []) (h : ∀ c ∈ cs, isBlank c = false) : Solid cs where
  first := ⟨cs.head hne, List.head?_eq_some_head hne, h _ (List.head_mem hne)⟩
  last := ⟨cs.getLast hne, List.getLast?_eq_some_getLast hne, h _ (List.getLast_mem hne)⟩

theorem Solid.between {xs ys : List Char} (hx : Solid xs) (mid : List Char) (hy : Solid ys) :
    Solid (xs ++ (mid ++ ys)) where
  first := by
    obtain ⟨c, hc, hb⟩ := hx.first
    refine ⟨c, ?_, hb⟩
    rw [List.head?_append, hc]
    rfl
  last := by
    obtain ⟨c, hc, hb⟩ := hy.last
    refine ⟨c, ?_, hb⟩
    rw [← List.append_assoc, List.getLast?_append, hc]
    rfl

/-- The visible characters of ASCII, from the exclamation mark to the tilde, are no blanks. -/
theorem isBlank_eq_false_of_toNat {c : Char} (hlow : 33 ≤ c.toNat) (hhigh : c.toNat ≤ 126) : isBlank c = false := by
  rw [Bool.eq_false_iff]
  intro hb
  obtain ⟨r, hr, hstart, hstop⟩ := Ranges.has_iff.mp hb
  have hapart : ∀ r ∈ blankRanges, r.2 < 33 ∨ 126 < r.1 := by simp [blankRanges]
  have := hapart r hr
  omega

theorem Unquoted.solid {s : String} (h : Unquoted s) : Solid s.toList := by
  apply solid_of_forall
  · simpa using h.ne
  · intro c hc
    have hrange := toNat_of_isUnquotedChar (h.chars c hc)
    exact isBlank_eq_false_of_toNat (by omega) (by omega)

theorem solid_inQuotes (s : String) : Solid (inQuotes s).toList := by
  have hquote : Solid ['\''] := ⟨⟨_, rfl, rfl⟩, ⟨_, rfl, rfl⟩⟩
  rw [inQuotes, String.toList_append, String.toList_append, List.append_assoc]
  exact hquote.between s.toList hquote

theorem solid_inBackticks (s : String) : Solid (inBackticks s).toList := by
  have hbacktick : Solid ['\x60'] := ⟨⟨_, rfl, rfl⟩, ⟨_, rfl, rfl⟩⟩
  rw [inBackticks, String.toList_append, String.toList_append, List.append_assoc]
  exact hbacktick.between s.toList hbacktick

namespace Arg

section
variable (E : Escaper)

theorem solid_scalar {kind : Kind} {a : Arg} {s : String} (h : a.scalar E kind = .ok s) : Solid s.toList := by
  rcases scalar_eq_ok E h with ⟨t, -, rfl⟩ | ⟨-, hs⟩
  · exact solid_inQuotes _
  · exact hs.solid

theorem solid_column {kind : Kind} {a : Arg} {s : String} (h : a.column E kind = .ok s) : Solid s.toList := by
  obtain ⟨name, -, rfl⟩ := column_eq_ok E h
  exact solid_inBackticks _

theorem solid_assignment {keyed : Bool} {x : Option String × Arg} {s : String} (h : assignment E keyed x = .ok s) :
    Solid s.toList := by
  rcases assignment_eq_ok E h with ⟨k, name, value, -, -, hn, hv, rfl⟩ | ⟨-, hs⟩
  · rw [String.toList_append, String.toList_append, List.append_assoc]
    exact (solid_column E hn).between _ (solid_scalar E hv)
  · exact solid_scalar E hs

theorem solid_join {α : Type} {kind : Kind} {xs : List α} {f : α → Except TemplateError String} {s : String}
    (hf : ∀ x s, f x = .ok s → Solid s.toList)
    (h : (if xs.isEmpty then .error (.emptyCollection kind)
      else do return separator.intercalate (← xs.mapM f)) = .ok s) : Solid s.toList := by
  apply join_induction (motive := fun _ cs => Solid cs) hf _ h
  intro x s xs cs hx ih
  exact (hf x s hx).between _ ih

theorem solid_literal {kind : Kind} {a : Arg} {s : String} (h : a.literal E kind = .ok s) : Solid s.toList := by
  cases kind with
  | generic => exact solid_scalar E h
  | int => exact (unquoted_number E (.inl rfl) h).solid
  | float => exact (unquoted_number E (.inr rfl) h).solid
  | assignments => exact solid_join (fun x s => solid_assignment E) h
  | identifiers => exact solid_join (fun x s => solid_column E) h

theorem solid_render {kind : Kind} {a : Arg} {s : String} (h : a.render E kind = .ok (.sql s)) : Solid s.toList :=
  solid_literal E (literal_of_render E h)

end

end Arg

end QueryTemplate
