import QueryTemplate.Template.Fragment

/-!
# Braces in balance

The check of the braces passes exactly on stretches of text with fragments
between them (`check_eq_ok_iff`), and the scan cuts out those fragments. Both
pass over text without braces, and neither looks at anything else.
-/

namespace QueryTemplate

def isBrace (c : Char) : Bool := c == '\x7b' || c == '\x7d'

def Unbraced (cs : List Char) : Prop := ∀ c ∈ cs, isBrace c = false

instance (cs : List Char) : Decidable (Unbraced cs) :=
  decidable_of_iff (cs.all fun c => !isBrace c) (by simp [Unbraced])

def braced (body : List Char) : List Char := '\x7b' :: (body ++ ['\x7d'])

def fragmentAt (offset : Nat) (body : List Char) : Fragment := ⟨⟨offset, offset + byteLength (braced body)⟩⟩

/-- Stretches of text without braces, with fragments between them. -/
inductive Balanced : List Char → Prop
  | plain {cs} : Unbraced cs → Balanced cs
  | fragment {before body rest} : Unbraced before → Unbraced body → Balanced rest →
      Balanced (before ++ (braced body ++ rest))

theorem unbraced_cons {c : Char} {cs : List Char} : Unbraced (c :: cs) ↔ isBrace c = false ∧ Unbraced cs := by
  simp [Unbraced]

theorem isBrace_eq_false {c : Char} : isBrace c = false ↔ c ≠ '\x7b' ∧ c ≠ '\x7d' := by
  simp [isBrace]

theorem isBrace_open : isBrace '\x7b' = true := by decide

theorem isBrace_close : isBrace '\x7d' = true := by decide

theorem utf8Size_open : Char.utf8Size '\x7b' = 1 := by decide

theorem utf8Size_close : Char.utf8Size '\x7d' = 1 := by decide

theorem byteLength_braced (body : List Char) : byteLength (braced body) = byteLength body + 2 := by
  simp only [braced, byteLength, byteLength_append, utf8Size_open, utf8Size_close]
  omega

theorem offset_braced (offset : Nat) (body : List Char) :
    offset + 1 + byteLength body + 1 = offset + byteLength (braced body) := by
  rw [byteLength_braced]
  omega

theorem braced_append (body rest : List Char) : braced body ++ rest = '\x7b' :: (body ++ '\x7d' :: rest) := by
  simp [braced]

/-! ## The check -/

theorem Fragment.checkFrom_append {xs : List Char} (hx : Unbraced xs) (offset : Nat) (isOpen : Bool)
    (ys : List Char) :
    checkFrom offset isOpen (xs ++ ys) = checkFrom (offset + byteLength xs) isOpen ys := by
  induction xs generalizing offset with
  | nil => rfl
  | cons c xs ih =>
    obtain ⟨hc, hx⟩ := unbraced_cons.mp hx
    obtain ⟨ho, hc⟩ := isBrace_eq_false.mp hc
    rw [List.cons_append, checkFrom, if_neg ho, if_neg hc, ih hx, byteLength, Nat.add_assoc]

theorem Fragment.checkFrom_braced {body : List Char} (hb : Unbraced body) (offset : Nat) (rest : List Char) :
    checkFrom offset false (braced body ++ rest) = checkFrom (offset + byteLength (braced body)) false rest := by
  have hne : ('\x7d' : Char) ≠ '\x7b' := by decide
  rw [braced_append, checkFrom, if_pos rfl, if_neg (by decide), checkFrom_append hb, checkFrom, if_neg hne,
    if_pos rfl, if_pos rfl, offset_braced]

theorem Balanced.checkFrom {cs : List Char} (h : Balanced cs) (offset : Nat) :
    Fragment.checkFrom offset false cs = .ok () := by
  induction h generalizing offset with
  | @plain cs hcs =>
    rw [← List.append_nil cs, Fragment.checkFrom_append hcs]
    rfl
  | fragment hb hi _ ih => rw [Fragment.checkFrom_append hb, Fragment.checkFrom_braced hi, ih]

theorem Balanced.cons {c : Char} {cs : List Char} (hc : isBrace c = false) (h : Balanced cs) :
    Balanced (c :: cs) := by
  cases h with
  | plain hcs => exact .plain (unbraced_cons.mpr ⟨hc, hcs⟩)
  | @fragment before body rest hb hi hr =>
    rw [← List.cons_append]
    exact .fragment (unbraced_cons.mpr ⟨hc, hb⟩) hi hr

theorem balanced_append {xs ys : List Char} (hx : Balanced xs) (hy : Balanced ys) : Balanced (xs ++ ys) := by
  induction hx with
  | @plain xs hx =>
    induction xs with
    | nil => exact hy
    | cons c xs ih =>
      obtain ⟨hc, hx⟩ := unbraced_cons.mp hx
      exact .cons hc (ih hx)
  | fragment hb hi _ ih =>
    simp only [List.append_assoc]
    exact .fragment hb hi ih

theorem balanced_braced {body rest : List Char} (hb : Unbraced body) (hr : Balanced rest) :
    Balanced (braced body ++ rest) := by
  rw [← List.nil_append (braced body ++ rest)]
  exact .fragment (fun c hc => (List.not_mem_nil hc).elim) hb hr

/-- Outside a fragment the text is in balance, inside one it is after the closing brace. -/
theorem balanced_of_checkFrom (cs : List Char) (offset : Nat) :
    (Fragment.checkFrom offset false cs = .ok () → Balanced cs) ∧
      (Fragment.checkFrom offset true cs = .ok () →
        ∃ body rest, cs = body ++ '\x7d' :: rest ∧ Unbraced body ∧ Balanced rest) := by
  -- Both at once, as a brace leads from one to the other.
  induction cs generalizing offset with
  | nil =>
    refine ⟨fun _ => .plain fun c hc => (List.not_mem_nil hc).elim, fun h => ?_⟩
    simp [Fragment.checkFrom] at h
  | cons c cs ih =>
    by_cases ho : c = '\x7b'
    · subst ho
      refine ⟨fun h => ?_, fun h => ?_⟩
      · rw [Fragment.checkFrom, if_pos rfl, if_neg (by decide)] at h
        obtain ⟨body, rest, rfl, hb, hr⟩ := (ih _).2 h
        rw [← braced_append, ← List.nil_append (braced body ++ rest)]
        exact .fragment (fun c hc => (List.not_mem_nil hc).elim) hb hr
      · simp [Fragment.checkFrom] at h
    · by_cases hc : c = '\x7d'
      · subst hc
        refine ⟨fun h => ?_, fun h => ?_⟩
        · simp [Fragment.checkFrom] at h
        · rw [Fragment.checkFrom, if_neg ho, if_pos rfl, if_pos rfl] at h
          exact ⟨[], cs, rfl, fun c hc => (List.not_mem_nil hc).elim, (ih _).1 h⟩
      · have hbrace : isBrace c = false := isBrace_eq_false.mpr ⟨ho, hc⟩
        refine ⟨fun h => ?_, fun h => ?_⟩
        · rw [Fragment.checkFrom, if_neg ho, if_neg hc] at h
          exact .cons hbrace ((ih _).1 h)
        · rw [Fragment.checkFrom, if_neg ho, if_neg hc] at h
          obtain ⟨body, rest, rfl, hb, hr⟩ := (ih _).2 h
          exact ⟨c :: body, rest, rfl, unbraced_cons.mpr ⟨hbrace, hb⟩, hr⟩

theorem check_eq_ok_iff {cs : List Char} : Fragment.check cs = .ok () ↔ Balanced cs :=
  ⟨(balanced_of_checkFrom cs 0).1, fun h => h.checkFrom 0⟩

theorem Fragment.checkFrom_eq_error {cs : List Char} {offset : Nat} {isOpen : Bool} {e : TemplateError}
    (h : checkFrom offset isOpen cs = .error e) : ∃ n, e = .invalidFragment n := by
  induction cs generalizing offset isOpen with
  | nil =>
    cases isOpen with
    | false => simp [checkFrom] at h
    | true => exact ⟨offset, by simpa [checkFrom, eq_comm] using h⟩
  | cons c cs ih =>
    rw [checkFrom] at h
    split at h
    · split at h
      · exact ⟨offset, (Except.error.inj h).symm⟩
      · exact ih h
    · split at h
      · split at h
        · exact ih h
        · exact ⟨offset, (Except.error.inj h).symm⟩
      · exact ih h

/-! ## The fragments -/

theorem Fragment.scanFrom_append {xs : List Char} (hx : Unbraced xs) (offset : Nat) (start? : Option Nat)
    (ys : List Char) :
    scanFrom offset start? (xs ++ ys) = scanFrom (offset + byteLength xs) start? ys := by
  induction xs generalizing offset with
  | nil => rfl
  | cons c xs ih =>
    obtain ⟨hc, hx⟩ := unbraced_cons.mp hx
    obtain ⟨ho, hc⟩ := isBrace_eq_false.mp hc
    rw [List.cons_append, scanFrom.eq_def]
    simp only [ho, hc, if_false, ih hx, byteLength, Nat.add_assoc]

theorem Fragment.scanFrom_unbraced {cs : List Char} (h : Unbraced cs) (offset : Nat) :
    scanFrom offset none cs = [] := by
  rw [← List.append_nil cs, scanFrom_append h]
  rfl

theorem Fragment.scanFrom_braced {body : List Char} (hb : Unbraced body) (offset : Nat) (rest : List Char) :
    scanFrom offset none (braced body ++ rest) =
      fragmentAt offset body :: scanFrom (offset + byteLength (braced body)) none rest := by
  have hne : ('\x7d' : Char) ≠ '\x7b' := by decide
  rw [braced_append, scanFrom, if_pos rfl, scanFrom_append hb, scanFrom, if_neg hne, if_pos rfl, offset_braced]
  rfl

theorem Fragment.slice_interior (pre body post : List Char) :
    (fragmentAt (byteLength pre) body).interior.slice (pre ++ (braced body ++ post)) = body := by
  have hopen : byteLength (pre ++ ['\x7b']) = byteLength pre + 1 := by simp [byteLength, utf8Size_open]
  have hclose : byteLength pre + byteLength (braced body) - 1 = byteLength pre + 1 + byteLength body := by
    rw [byteLength_braced]
    omega
  have hsource : pre ++ (braced body ++ post) = (pre ++ ['\x7b']) ++ (body ++ '\x7d' :: post) := by simp [braced]
  simp only [interior, fragmentAt, hclose, hsource, ← hopen]
  exact Span.slice_append ..

end QueryTemplate
