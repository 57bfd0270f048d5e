import Mathlib.Data.List.Forall2

/-!
# Outcomes that may be errors

A step that needs another one succeeds when both do, and the first error of a
list of steps decides.
-/

namespace QueryTemplate

section
variable {α β ε : Type}

theorem bind_eq_ok {x : Except ε α} {f : α → Except ε β} {b : β} (h : (x >>= f) = .ok b) :
    ∃ a, x = .ok a ∧ f a = .ok b := by
  cases x with
  | error e => cases h
  | ok a => exact ⟨a, rfl, h⟩

theorem bind_eq_error {x : Except ε α} {f : α → Except ε β} {e : ε} (h : (x >>= f) = .error e) :
    x = .error e ∨ ∃ a, x = .ok a ∧ f a = .error e := by
  cases x with
  | error e' => exact .inl (by rw [Except.error.inj h])
  | ok a => exact .inr ⟨a, rfl, h⟩

theorem map_eq_ok_iff {x : Except ε α} {f : α → β} {b : β} : f <$> x = .ok b ↔ ∃ a, x = .ok a ∧ f a = b := by
  cases x with
  | error e => exact ⟨fun h => (by cases h), fun ⟨_, h, _⟩ => (by cases h)⟩
  | ok a => exact ⟨fun h => ⟨a, rfl, Except.ok.inj h⟩, fun ⟨_, ha, hb⟩ => by rw [Except.ok.inj ha, ← hb]; rfl⟩

theorem map_eq_error_iff {x : Except ε α} {f : α → β} {e : ε} : f <$> x = .error e ↔ x = .error e := by
  cases x with
  | error e' => exact ⟨fun h => congrArg Except.error (Except.error.inj h), fun h => by rw [h]; rfl⟩
  | ok a => exact ⟨fun h => (by cases h), fun h => (by cases h)⟩

theorem mapError_eq_error_iff {ε' : Type} {x : Except ε α} {f : ε → ε'} {e' : ε'} :
    x.mapError f = .error e' ↔ ∃ e, x = .error e ∧ f e = e' := by
  cases x <;> simp [Except.mapError]

theorem mapM_eq_ok_iff {f : α → Except ε β} : ∀ {xs : List α} {ys : List β},
    xs.mapM f = .ok ys ↔ List.Forall₂ (fun x y => f x = .ok y) xs ys
  | [], ys => by
    rw [List.mapM_nil, List.forall₂_nil_left_iff]
    exact ⟨fun h => (Except.ok.inj h).symm, fun h => h ▸ rfl⟩
  | x :: xs, ys => by
    rw [List.mapM_cons, List.forall₂_cons_left_iff]
    constructor
    · intro h
      obtain ⟨z, hz, h⟩ := bind_eq_ok h
      obtain ⟨zs, hzs, h⟩ := bind_eq_ok h
      exact ⟨z, zs, hz, mapM_eq_ok_iff.mp hzs, (Except.ok.inj h).symm⟩
    · rintro ⟨z, zs, hz, hzs, rfl⟩
      rw [hz, mapM_eq_ok_iff.mpr hzs]
      rfl

theorem mapM_isOk_iff {f : α → Except ε β} {xs : List α} :
    (∃ ys, xs.mapM f = .ok ys) ↔ ∀ x ∈ xs, ∃ y, f x = .ok y := by
  induction xs with
  | nil => exact ⟨fun _ x hx => (List.not_mem_nil hx).elim, fun _ => ⟨[], rfl⟩⟩
  | cons x xs ih =>
    rw [List.forall_mem_cons, ← ih]
    constructor
    · rintro ⟨ys, h⟩
      rw [mapM_eq_ok_iff, List.forall₂_cons_left_iff] at h
      obtain ⟨y, zs, hy, hzs, -⟩ := h
      exact ⟨⟨y, hy⟩, zs, mapM_eq_ok_iff.mpr hzs⟩
    · rintro ⟨⟨y, hy⟩, zs, hzs⟩
      exact ⟨y :: zs, mapM_eq_ok_iff.mpr (.cons hy (mapM_eq_ok_iff.mp hzs))⟩

theorem exists_ok_of_forall₂ {f : α → Except ε β} {xs : List α} {ys : List β}
    (h : List.Forall₂ (fun x y => f x = .ok y) xs ys) {x : α} (hx : x ∈ xs) : ∃ y, f x = .ok y :=
  mapM_isOk_iff.mp ⟨ys, mapM_eq_ok_iff.mpr h⟩ x hx

theorem mapM_eq_of_forall₂ {γ : Type} {f : α → Except ε γ} {g : β → Except ε γ} {xs : List α} {ys : List β}
    (h : List.Forall₂ (fun x y => f x = g y) xs ys) : xs.mapM f = ys.mapM g := by
  induction h with
  | nil => rfl
  | cons hxy _ ih => rw [List.mapM_cons, List.mapM_cons, hxy, ih]

theorem eq_map_of_forall₂ (d : β) {f : α → Except ε β} {xs : List α} {ys : List β}
    (h : List.Forall₂ (fun x y => f x = .ok y) xs ys) : ys = xs.map fun x => (f x).toOption.getD d := by
  induction h with
  | nil => rfl
  | cons hx _ ih => rw [List.map_cons, ← ih, hx]; rfl

theorem exists_map_of_forall₂ (d : β) {f : α → Except ε β} {xs : List α} {ys : List β}
    (h : List.Forall₂ (fun x y => f x = .ok y) xs ys) :
    ∃ g : α → β, ys = xs.map g ∧ ∀ x ∈ xs, f x = .ok (g x) := by
  refine ⟨_, eq_map_of_forall₂ d h, ?_⟩
  intro x hx
  obtain ⟨y, hy⟩ := exists_ok_of_forall₂ h hx
  rw [hy]
  rfl

/-- The first step that fails decides. -/
theorem mapM_eq_error_iff {f : α → Except ε β} {e : ε} : ∀ {xs : List α}, xs.mapM f = .error e ↔
    ∃ (i : Nat) (x : α), xs[i]? = some x ∧ f x = .error e ∧
      ∀ j < i, ∀ y, xs[j]? = some y → ∃ z, f y = .ok z
  | [] => by
    rw [List.mapM_nil]
    exact ⟨fun h => (by cases h), fun ⟨i, x, hx, _⟩ => (by simp at hx)⟩
  | x :: xs => by
    rw [List.mapM_cons]
    cases hx : f x with
    | error e' =>
      refine ⟨fun h => ⟨0, x, rfl, ?_, fun j hj => (Nat.not_lt_zero j hj).elim⟩, ?_⟩
      · rw [hx, Except.error.inj h]
      rintro ⟨_ | i, y, hy, hfy, hbefore⟩
      · rw [List.getElem?_cons_zero, Option.some.injEq] at hy
        rw [← hy, hx] at hfy
        rw [Except.error.inj hfy]
        rfl
      · obtain ⟨z, hz⟩ := hbefore 0 (Nat.succ_pos i) x rfl
        rw [hx] at hz
        cases hz
    | ok z =>
      have htail : (do let z ← Except.ok z; let zs ← xs.mapM f; pure (z :: zs)) = .error e ↔
          xs.mapM f = .error e := by
        change (do let zs ← xs.mapM f; pure (z :: zs)) = .error e ↔ _
        rw [bind_pure_comp, map_eq_error_iff]
      rw [htail, mapM_eq_error_iff]
      constructor
      · rintro ⟨i, y, hy, hfy, hbefore⟩
        refine ⟨i + 1, y, hy, hfy, fun j hj w hw => ?_⟩
        cases j with
        | zero =>
          rw [List.getElem?_cons_zero, Option.some.injEq] at hw
          exact ⟨z, hw ▸ hx⟩
        | succ j => exact hbefore j (Nat.lt_of_succ_lt_succ hj) w hw
      · rintro ⟨_ | i, y, hy, hfy, hbefore⟩
        · rw [List.getElem?_cons_zero, Option.some.injEq] at hy
          rw [← hy, hx] at hfy
          cases hfy
        · exact ⟨i, y, hy, hfy, fun j hj w hw => hbefore (j + 1) (Nat.succ_lt_succ hj) w hw⟩

end

end QueryTemplate
