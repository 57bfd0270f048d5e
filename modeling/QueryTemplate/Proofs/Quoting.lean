import QueryTemplate.Proofs.Literals
import QueryTemplate.Proofs.Meaning
import QueryTemplate.Proofs.Renderings

/-!
# Quoting holds

Every argument is rendered with its texts and names between marks, so that the
reader of literals finds these and no others in what is built. Two literals
would run into one where nothing stands between them, which a text between the
placeholders of the source excludes.
-/

namespace QueryTemplate

/-! ## Literals of an argument -/

namespace Arg

def string : Arg → List Literal
  | .text s => [⟨.text, s.toList⟩]
  | _ => []

def name (a : Arg) : List Literal := (a.nameText?.map fun s => ⟨.name, s⟩).toList

def key (a : Arg) (k : String) : List Literal := if a.Keyed then [⟨.name, k.toList⟩] else []

/-- The literals that an argument is written with, in order: those of its items or pairs, or its own. -/
def quoted : Kind → Arg → List Literal
  | .int, _ => []
  | .float, _ => []
  | .assignments, .list vs => vs.flatMap string
  | .assignments, .map kvs => kvs.flatMap fun (k, v) => key (.map kvs) k ++ v.string
  | .identifiers, .list vs => vs.flatMap name
  | .identifiers, .map kvs => kvs.flatMap fun (_, v) => v.name
  | .identifiers, a => a.name
  | _, a => a.string

theorem quoted_assignments {a : Arg} {xs : List (Option String × Arg)} (h : a.Entries xs) :
    a.quoted .assignments = xs.flatMap fun x => x.1.toList.flatMap a.key ++ x.2.string := by
  cases h with
  | list vs => simp [quoted, List.flatMap_map]
  | map kvs => simp [quoted, List.flatMap_map]
  | _ => rfl

theorem quoted_identifiers {a : Arg} {xs : List (Option String × Arg)} (h : a.Entries xs) :
    a.quoted .identifiers = xs.flatMap fun x => x.2.name := by
  cases h with
  | list vs => simp [quoted, List.flatMap_map]
  | map kvs => simp [quoted, List.flatMap_map]
  | null => rfl
  | _ => simp [quoted]

end Arg

theorem Unquoted.spelled {s : String} (h : Unquoted s) : Spelled s.toList [] := by
  apply spelled_of_unmarked
  intro c hc
  have hrange := toNat_of_isUnquotedChar (h.chars c hc)
  rw [Bool.eq_false_iff]
  intro hm
  simp only [isMark, Bool.or_eq_true, beq_iff_eq] at hm
  rcases hm with rfl | rfl
  · exact absurd hrange (by decide)
  · exact absurd hrange (by decide)

theorem spelled_marked (q : Quote) (body : List Char) :
    Spelled (q.mark :: (body.flatMap q.escape ++ [q.mark])) [⟨q, body⟩] :=
  .literal (by simp) .nil

theorem spelled_inQuotes (s : String) :
    Spelled (inQuotes (Escaper.mySql.text s)).toList [⟨.text, s.toList⟩] := by
  have h := spelled_marked .text s.toList
  rw [inQuotes, String.toList_append, String.toList_append, Escaper.toList_mySql]
  exact h

theorem spelled_inBackticks (s : String) :
    Spelled (inBackticks (Escaper.mySql.identifier s)).toList [⟨.name, s.toList⟩] := by
  have h := spelled_marked .name s.toList
  have hi : (Escaper.mySql.identifier s).toList = s.toList.flatMap doubleBacktick := toList_escapeBackticks s
  rw [inBackticks, String.toList_append, String.toList_append, hi]
  exact h

namespace Arg

theorem string_eq_nil {a : Arg} (h : ∀ t, a ≠ .text t) : a.string = [] := by
  cases a with
  | text t => exact (h t rfl).elim
  | _ => rfl

theorem spelled_scalar {kind : Kind} {a : Arg} {s : String} (h : a.scalar .mySql kind = .ok s) :
    Spelled s.toList a.string := by
  rcases scalar_eq_ok .mySql h with ⟨t, rfl, rfl⟩ | ⟨ha, hs⟩
  · exact spelled_inQuotes t
  · rw [string_eq_nil ha]
    exact hs.spelled

theorem spelled_column {kind : Kind} {a : Arg} {s : String} (h : a.column .mySql kind = .ok s) :
    Spelled s.toList a.name := by
  obtain ⟨name, hn, rfl⟩ := column_eq_ok .mySql h
  rw [Arg.name, hn]
  exact spelled_inBackticks name

theorem spelled_assignment {a : Arg} {x : Option String × Arg} {s : String}
    (h : assignment .mySql (isKeyed a.entries) x = .ok s) :
    Spelled s.toList (x.1.toList.flatMap a.key ++ x.2.string) := by
  rcases assignment_eq_ok .mySql h with ⟨k, name, value, hkeyed, hk, hn, hv, rfl⟩ | ⟨hplain, hs⟩
  · have hequals : Unmarked " = ".toList := by decide
    have hkey : x.1.toList.flatMap a.key = [⟨.name, k.toList⟩] := by
      simp [hk, key, isKeyed_iff.mp hkeyed]
    rw [hkey, String.toList_append, String.toList_append, List.append_assoc]
    apply (spelled_column hn).append ((spelled_scalar hv).after_unmarked hequals)
    exact bare_cons.mpr (by decide)
  · have hkey : x.1.toList.flatMap a.key = [] := by
      rcases hplain with hkeyed | hk
      · simp [key, isKeyed_eq_false_iff.mp hkeyed]
      · rw [hk]
        rfl
    rw [hkey]
    exact spelled_scalar hs

theorem spelled_join {α : Type} {kind : Kind} {xs : List α} {f : α → Except TemplateError String}
    {g : α → List Literal} {s : String} (hf : ∀ x s, f x = .ok s → Spelled s.toList (g x))
    (h : (if xs.isEmpty then .error (.emptyCollection kind)
      else do return separator.intercalate (← xs.mapM f)) = .ok s) : Spelled s.toList (xs.flatMap g) := by
  apply join_induction (motive := fun xs cs => Spelled cs (xs.flatMap g)) _ _ h
  · intro x s hx
    simpa using hf x s hx
  · intro x s xs cs hx ih
    have hseparator : Unmarked [',', ' '] := by decide
    rw [List.flatMap_cons]
    apply (hf x s hx).append (ih.after_unmarked hseparator)
    exact bare_cons.mpr (by decide)

theorem spelled_literal {kind : Kind} {a : Arg} {s : String} (h : a.literal .mySql kind = .ok s) :
    Spelled s.toList (a.quoted kind) := by
  cases kind with
  | generic => exact spelled_scalar h
  | int => exact (unquoted_number .mySql (.inl rfl) h).spelled
  | float => exact (unquoted_number .mySql (.inr rfl) h).spelled
  | assignments =>
    rw [quoted_assignments (entries_iff.mpr rfl)]
    exact spelled_join (fun x s => spelled_assignment) h
  | identifiers =>
    rw [quoted_identifiers (entries_iff.mpr rfl)]
    exact spelled_join (fun x s => spelled_column) h

/-- **A rendering** is spelled with the literals of its argument. -/
theorem spelled_render {kind : Kind} {a : Arg} {r : Rendering} (h : a.render .mySql kind = .ok r) :
    Spelled r.chars (a.quoted kind) := by
  rcases render_eq_ok .mySql h with ⟨rfl, rfl⟩ | ⟨-, s, hs, rfl⟩
  · cases kind <;> exact .nil
  · exact spelled_literal hs

end Arg

end QueryTemplate
