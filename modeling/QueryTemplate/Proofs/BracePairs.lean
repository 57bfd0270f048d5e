import Mathlib.Data.List.Pairwise
import Mathlib.Logic.ExistsUnique
import QueryTemplate.Proofs.Braces

/-!
# Braces in pairs

The check of the braces passes a text exactly when its braces are pairs, one
after another. Otherwise it points at the first brace that no text in pairs can
begin with, or at the end (`checkFrom_of_read`). Of a text that passes, the scan
cuts out what lies from each opening brace through the next closing one.
-/

namespace QueryTemplate

def bracePairs (n : Nat) : List Char := (List.replicate n ['\x7b', '\x7d']).flatten

def Paired (cs : List Char) : Prop := ∃ n, cs.filter isBrace = bracePairs n

def Extendable (cs : List Char) : Prop := ∃ ds, Paired (cs ++ ds)

/-- No text in pairs begins with the text up to the brace at `offset`. -/
def BreaksAt (cs : List Char) (offset : Nat) : Prop :=
  ∃ pre c post, cs = pre ++ c :: post ∧ byteLength pre = offset ∧ isBrace c = true ∧ ¬ Extendable (pre ++ [c])

/-- The first offset where a text breaks, or its end if it breaks nowhere. -/
def FirstBreak (cs : List Char) (offset : Nat) : Prop :=
  (BreaksAt cs offset ∧ ∀ n < offset, ¬ BreaksAt cs n) ∨ (offset = byteLength cs ∧ ∀ n, ¬ BreaksAt cs n)

/-! ## Pairs -/

theorem bracePairs_succ (n : Nat) : bracePairs (n + 1) = '\x7b' :: '\x7d' :: bracePairs n := rfl

theorem bracePairs_concat (n : Nat) : bracePairs n ++ ['\x7b', '\x7d'] = bracePairs (n + 1) := by
  simp [bracePairs, List.replicate_succ']

theorem eq_bracePairs_of_append {n m : Nat} {cs : List Char} (h : bracePairs n ++ cs = bracePairs m) :
    ∃ k, cs = bracePairs k := by
  induction n generalizing m with
  | zero => exact ⟨m, h⟩
  | succ n ih =>
    cases m with
    | zero => simp [bracePairs] at h
    | succ m =>
      simp only [bracePairs_succ, List.cons_append, List.cons.injEq, true_and] at h
      exact ih h

theorem bracePairs_cases (n : Nat) : bracePairs n = [] ∨ ∃ cs, bracePairs n = '\x7b' :: '\x7d' :: cs := by
  cases n with
  | zero => exact .inl rfl
  | succ n => exact .inr ⟨bracePairs n, rfl⟩

/-! ## The text that has been read -/

/-- The braces of a text are pairs, and one more is open if `isOpen`. -/
def ReadTo (isOpen : Bool) (cs : List Char) : Prop :=
  ∃ n, cs.filter isBrace = bracePairs n ++ (if isOpen then ['\x7b'] else [])

theorem filter_concat_brace {c : Char} (hc : isBrace c = true) (xs cs : List Char) :
    (xs ++ c :: cs).filter isBrace = xs.filter isBrace ++ c :: cs.filter isBrace := by
  simp [hc]

namespace ReadTo

variable {isOpen : Bool} {xs : List Char}

theorem nil : ReadTo false [] := ⟨0, rfl⟩

theorem plain (h : ReadTo isOpen xs) {c : Char} (hc : isBrace c = false) : ReadTo isOpen (xs ++ [c]) := by
  obtain ⟨n, hn⟩ := h
  exact ⟨n, by simp [hc, hn]⟩

theorem opened (h : ReadTo false xs) : ReadTo true (xs ++ ['\x7b']) := by
  obtain ⟨n, hn⟩ := h
  exact ⟨n, by simp [filter_concat_brace isBrace_open, hn]⟩

theorem closed (h : ReadTo true xs) : ReadTo false (xs ++ ['\x7d']) := by
  obtain ⟨n, hn⟩ := h
  exact ⟨n + 1, by simp [filter_concat_brace isBrace_close, hn, bracePairs_concat]⟩

theorem paired_iff (h : ReadTo isOpen xs) : Paired xs ↔ isOpen = false := by
  obtain ⟨n, hn⟩ := h
  cases isOpen with
  | false => exact iff_of_true ⟨n, by simpa using hn⟩ rfl
  | true =>
    refine iff_of_false ?_ (by simp)
    rintro ⟨m, hm⟩
    obtain ⟨k, hk⟩ := eq_bracePairs_of_append (hn.symm.trans hm)
    rcases bracePairs_cases k with h | ⟨cs, h⟩ <;> simp [h] at hk

theorem extendable (h : ReadTo isOpen xs) : Extendable xs := by
  cases isOpen with
  | false => exact ⟨[], by simpa using h.paired_iff.mpr rfl⟩
  | true => exact ⟨['\x7d'], h.closed.paired_iff.mpr rfl⟩

/-- A brace that opens what is open, or closes what is not, can not be mended. -/
theorem not_extendable (h : ReadTo isOpen xs) : ¬ Extendable (xs ++ [if isOpen then '\x7b' else '\x7d']) := by
  obtain ⟨n, hn⟩ := h
  have hc : isBrace (if isOpen then '\x7b' else '\x7d') = true := by cases isOpen <;> rfl
  rintro ⟨ds, m, hm⟩
  rw [List.append_assoc, List.singleton_append, filter_concat_brace hc, hn, List.append_assoc] at hm
  obtain ⟨k, hk⟩ := eq_bracePairs_of_append hm
  cases isOpen <;> rcases bracePairs_cases k with h | ⟨cs, h⟩ <;> simp [h] at hk

end ReadTo

/-! ## Where a text breaks -/

theorem Extendable.of_append {xs ys : List Char} (h : Extendable (xs ++ ys)) : Extendable xs := by
  obtain ⟨ds, h⟩ := h
  exact ⟨ys ++ ds, by rwa [← List.append_assoc]⟩

theorem not_paired_of_break {xs cs : List Char} {c : Char} (h : ¬ Extendable (xs ++ [c])) : ¬ Paired (xs ++ c :: cs) :=
  fun hp => h ⟨cs, by rwa [List.append_assoc]⟩

theorem lt_of_breaksAt {cs : List Char} {n : Nat} (h : BreaksAt cs n) : n < byteLength cs := by
  obtain ⟨pre, c, post, rfl, rfl, -, -⟩ := h
  have := c.utf8Size_pos
  simp only [byteLength_append, byteLength]
  omega

/-- A text does not break within what can be extended. -/
theorem Extendable.not_breaksAt {xs cs : List Char} {n : Nat} (h : Extendable xs) (hn : n < byteLength xs) :
    ¬ BreaksAt (xs ++ cs) n := by
  rintro ⟨pre, c, post, hcs, rfl, -, hbreak⟩
  rcases List.append_eq_append_iff.mp hcs with ⟨as, rfl, -⟩ | ⟨as, rfl, has⟩
  · rw [byteLength_append] at hn
    omega
  · cases as with
    | nil => simp at hn
    | cons d as =>
      obtain ⟨rfl, -⟩ := List.cons.inj has
      rw [← List.singleton_append, ← List.append_assoc] at h
      exact hbreak h.of_append

theorem ReadTo.firstBreak {isOpen : Bool} {xs cs : List Char} {c : Char} (h : ReadTo isOpen xs)
    (hc : isBrace c = true) (hbreak : ¬ Extendable (xs ++ [c])) : FirstBreak (xs ++ c :: cs) (byteLength xs) :=
  .inl ⟨⟨xs, c, cs, rfl, rfl, hc, hbreak⟩, fun _ hn => h.extendable.not_breaksAt hn⟩

/-- The check goes on from what has been read. It passes if all braces together are
pairs, and it fails where they first break. -/
theorem checkFrom_of_read {isOpen : Bool} {xs : List Char} (h : ReadTo isOpen xs) (cs : List Char) :
    (Paired (xs ++ cs) ∧ Fragment.checkFrom (byteLength xs) isOpen cs = .ok ()) ∨
      (¬ Paired (xs ++ cs) ∧ ∃ n, FirstBreak (xs ++ cs) n ∧
        Fragment.checkFrom (byteLength xs) isOpen cs = .error (.invalidFragment n)) := by
  induction cs generalizing isOpen xs with
  | nil =>
    rw [List.append_nil, h.paired_iff]
    cases isOpen with
    | false => exact .inl ⟨rfl, rfl⟩
    | true =>
      refine .inr ⟨by simp, byteLength xs, .inr ⟨rfl, fun n hn => ?_⟩, rfl⟩
      have hlt := lt_of_breaksAt hn
      rw [← List.append_nil xs] at hn
      exact h.extendable.not_breaksAt hlt hn
  | cons c cs ih =>
    have hsplit : xs ++ c :: cs = (xs ++ [c]) ++ cs := by simp
    have hlen : byteLength (xs ++ [c]) = byteLength xs + c.utf8Size := by simp [byteLength]
    by_cases ho : c = '\x7b'
    · subst ho
      cases isOpen with
      | false =>
        rw [Fragment.checkFrom, if_pos rfl, if_neg (by decide), hsplit, ← utf8Size_open, ← hlen]
        exact ih h.opened
      | true =>
        have hbreak : ¬ Extendable (xs ++ ['\x7b']) := h.not_extendable
        exact .inr ⟨not_paired_of_break hbreak, _, h.firstBreak isBrace_open hbreak, rfl⟩
    · by_cases hc : c = '\x7d'
      · subst hc
        cases isOpen with
        | false =>
          have hbreak : ¬ Extendable (xs ++ ['\x7d']) := h.not_extendable
          exact .inr ⟨not_paired_of_break hbreak, _, h.firstBreak isBrace_close hbreak, rfl⟩
        | true =>
          rw [Fragment.checkFrom, if_neg ho, if_pos rfl, if_pos rfl, hsplit, ← utf8Size_close, ← hlen]
          exact ih h.closed
      · rw [Fragment.checkFrom, if_neg ho, if_neg hc, hsplit, ← hlen]
        exact ih (h.plain (isBrace_eq_false.mpr ⟨ho, hc⟩))

/-! ## The fragments of a text in balance -/

namespace Fragment

/-- The brace at `offset` is the first or the last byte of the fragment. -/
def EndsAt (f : Fragment) (offset : Nat) : Prop := f.span.start = offset ∨ f.span.stop = offset + 1

theorem scanFrom_fragment {before body : List Char} (hb : Unbraced before) (hi : Unbraced body) (offset : Nat)
    (rest : List Char) :
    scanFrom offset none (before ++ (braced body ++ rest)) = fragmentAt (offset + byteLength before) body ::
      scanFrom (offset + byteLength before + byteLength (braced body)) none rest := by
  rw [scanFrom_append hb, scanFrom_braced hi]

end Fragment

theorem count_open {cs : List Char} (h : Unbraced cs) : cs.count '\x7b' = 0 := by
  rw [List.count_eq_zero]
  intro hmem
  simpa [isBrace_open] using h _ hmem

/-- A brace comes after a stretch without braces. -/
theorem brace_after {before rest pre post : List Char} {c : Char} (hb : Unbraced before) (hc : isBrace c = true)
    (h : before ++ rest = pre ++ c :: post) : ∃ mid, pre = before ++ mid ∧ rest = mid ++ c :: post := by
  induction before generalizing pre with
  | nil => exact ⟨pre, rfl, h⟩
  | cons d before ih =>
    obtain ⟨hd, hb⟩ := unbraced_cons.mp hb
    cases pre with
    | nil =>
      obtain ⟨rfl, -⟩ := List.cons.inj h
      rw [hc] at hd
      cases hd
    | cons e pre =>
      simp only [List.cons_append, List.cons.injEq] at h
      obtain ⟨rfl, h⟩ := h
      obtain ⟨mid, rfl, hrest⟩ := ih hb h
      exact ⟨mid, rfl, hrest⟩

namespace Balanced

variable {cs : List Char} (h : Balanced cs)
include h

theorem length_scanFrom (offset : Nat) : (Fragment.scanFrom offset none cs).length = cs.count '\x7b' := by
  induction h generalizing offset with
  | plain hcs => rw [Fragment.scanFrom_unbraced hcs, count_open hcs, List.length_nil]
  | fragment hb hi _ ih =>
    rw [Fragment.scanFrom_fragment hb hi, List.length_cons, ih, List.count_append, count_open hb, braced_append,
      List.count_cons_self, List.count_append, count_open hi, List.count_cons_of_ne (by decide)]
    omega

theorem written_scanFrom (offset : Nat) : ∀ f ∈ Fragment.scanFrom offset none cs, ∃ pre body post,
    cs = pre ++ (braced body ++ post) ∧ Unbraced body ∧ f = fragmentAt (offset + byteLength pre) body := by
  induction h generalizing offset with
  | plain hcs => simp [Fragment.scanFrom_unbraced hcs]
  | @fragment before body rest hb hi _ ih =>
    rw [Fragment.scanFrom_fragment hb hi]
    intro f hf
    rcases List.mem_cons.mp hf with rfl | hf
    · exact ⟨before, body, rest, rfl, hi, rfl⟩
    · obtain ⟨pre, body', post, rfl, hbody, rfl⟩ := ih _ f hf
      refine ⟨before ++ (braced body ++ pre), body', post, by simp, hbody, ?_⟩
      simp [Nat.add_assoc]

theorem pairwise_scanFrom (offset : Nat) :
    (Fragment.scanFrom offset none cs).Pairwise fun f g => f.span.stop ≤ g.span.start := by
  induction h generalizing offset with
  | plain hcs => simp [Fragment.scanFrom_unbraced hcs]
  | @fragment before body rest hb hi hr ih =>
    rw [Fragment.scanFrom_fragment hb hi, List.pairwise_cons]
    refine ⟨fun g hg => ?_, ih _⟩
    obtain ⟨pre, _, _, -, -, rfl⟩ := hr.written_scanFrom _ g hg
    exact Nat.le_add_right ..

theorem exists_endsAt (offset : Nat) {pre post : List Char} {c : Char} (hcs : cs = pre ++ c :: post)
    (hc : isBrace c = true) : ∃ f ∈ Fragment.scanFrom offset none cs, f.EndsAt (offset + byteLength pre) := by
  induction h generalizing offset pre with
  | plain hplain =>
    have hfalse := hplain c (by simp [hcs])
    rw [hc] at hfalse
    cases hfalse
  | @fragment before body rest hb hi _ ih =>
    rw [Fragment.scanFrom_fragment hb hi]
    obtain ⟨mid, rfl, hmid⟩ := brace_after hb hc hcs
    rw [braced_append] at hmid
    -- The brace opens the fragment, or closes it, or comes after it.
    cases mid with
    | nil => exact ⟨_, List.mem_cons_self .., .inl (by simp [fragmentAt])⟩
    | cons d mid =>
      simp only [List.cons_append, List.cons.injEq] at hmid
      obtain ⟨rfl, hmid⟩ := hmid
      obtain ⟨last, rfl, hlast⟩ := brace_after hi hc hmid
      cases last with
      | nil =>
        refine ⟨_, List.mem_cons_self .., .inr ?_⟩
        simp only [fragmentAt, byteLength_braced, byteLength_append, byteLength, utf8Size_open]
        omega
      | cons e last =>
        simp only [List.cons_append, List.cons.injEq] at hlast
        obtain ⟨rfl, hrest⟩ := hlast
        obtain ⟨f, hf, hends⟩ := ih (offset + byteLength before + byteLength (braced body)) hrest
        refine ⟨f, List.mem_cons_of_mem _ hf, ?_⟩
        have hlen : offset + byteLength (before ++ '\x7b' :: (body ++ '\x7d' :: last)) =
            offset + byteLength before + byteLength (braced body) + byteLength last := by
          simp only [byteLength_braced, byteLength_append, byteLength, utf8Size_open, utf8Size_close]
          omega
        rwa [hlen]

end Balanced

/-- Fragments that share a byte are the same. -/
theorem eq_of_endsAt {fs : List Fragment} (h : fs.Pairwise fun f g => f.span.stop ≤ g.span.start)
    (hwide : ∀ f ∈ fs, f.span.start < f.span.stop) {f g : Fragment} (hf : f ∈ fs) (hg : g ∈ fs) {offset : Nat}
    (hfe : f.EndsAt offset) (hge : g.EndsAt offset) : f = g := by
  have hboth : fs.Pairwise fun f g => f.span.stop ≤ g.span.start ∨ g.span.stop ≤ f.span.start :=
    h.imp fun h => .inl h
  have : Std.Symm fun f g : Fragment => f.span.stop ≤ g.span.start ∨ g.span.stop ≤ f.span.start :=
    ⟨fun _ _ => Or.symm⟩
  by_contra hne
  have hapart := hboth.forall hf hg hne
  have hf := hwide f hf
  have hg := hwide g hg
  unfold Fragment.EndsAt at hfe hge
  omega

/-- **The check and the scan agree.** The check passes texts with their braces in pairs and
points at the first break of every other. In a text that passes, each opening brace
begins a fragment that goes through the next closing one. -/
theorem check_and_scan (cs : List Char) :
    (Fragment.check cs = .ok () ↔ Paired cs) ∧
    (¬ Paired cs → ∃ n, FirstBreak cs n ∧ Fragment.check cs = .error (.invalidFragment n)) ∧
    (Fragment.check cs = .ok () →
      (Fragment.scan cs).length = cs.count '\x7b' ∧
      ((Fragment.scan cs).Pairwise fun f g => f.span.stop ≤ g.span.start) ∧
      (∀ f ∈ Fragment.scan cs, ∃ pre body post, cs = pre ++ (braced body ++ post) ∧ Unbraced body ∧
        f.span = ⟨byteLength pre, byteLength pre + byteLength (braced body)⟩ ∧ f.interior.slice cs = body) ∧
      ∀ pre c post, cs = pre ++ c :: post → isBrace c = true →
        ∃! f, f ∈ Fragment.scan cs ∧ f.EndsAt (byteLength pre)) := by
  have hcheck := checkFrom_of_read .nil cs
  rw [List.nil_append] at hcheck
  refine ⟨?_, ?_, fun hok => ?_⟩
  · rcases hcheck with ⟨hp, hok⟩ | ⟨hp, n, -, herror⟩
    · exact iff_of_true hok hp
    · refine iff_of_false (fun hok => ?_) hp
      cases hok.symm.trans herror
  · intro hn
    rcases hcheck with ⟨hp, -⟩ | ⟨-, herror⟩
    · exact (hn hp).elim
    · exact herror
  · have hb := check_eq_ok_iff.mp hok
    have hwritten := hb.written_scanFrom 0
    have hpairwise := hb.pairwise_scanFrom 0
    have hwide : ∀ f ∈ Fragment.scan cs, f.span.start < f.span.stop := by
      intro f hf
      obtain ⟨pre, body, -, -, -, rfl⟩ := hwritten f hf
      simp only [fragmentAt, byteLength_braced]
      omega
    refine ⟨hb.length_scanFrom 0, hpairwise, fun f hf => ?_, fun pre c post hcs hc => ?_⟩
    · obtain ⟨pre, body, post, hcs, hbody, rfl⟩ := hwritten f hf
      rw [Nat.zero_add]
      exact ⟨pre, body, post, hcs, hbody, rfl, by rw [hcs, Fragment.slice_interior]⟩
    · obtain ⟨f, hf, hends⟩ := hb.exists_endsAt 0 hcs hc
      rw [Nat.zero_add] at hends
      exact ⟨f, ⟨hf, hends⟩, fun g hg => eq_of_endsAt hpairwise hwide hg.1 hf hg.2 hends⟩

/-- A brace inside a fragment breaks the first text, behind a character of two bytes.
The second brace of the other text ends its first fragment only. -/
theorem check_and_scan_nested :
    FirstBreak "é\x7bb \x7bc\x7d".toList 5 ∧
      ∃! f, f ∈ Fragment.scan "é\x7b?\x7d\x7b\x7d".toList ∧ f.EndsAt 4 := by
  constructor
  · have herror : Fragment.check "é\x7bb \x7bc\x7d".toList = .error (.invalidFragment 5) := rfl
    have hcheck := check_and_scan "é\x7bb \x7bc\x7d".toList
    obtain ⟨n, hn, h⟩ := hcheck.2.1 fun hp => by cases herror.symm.trans (hcheck.1.mpr hp)
    obtain rfl : 5 = n := TemplateError.invalidFragment.inj (Except.error.inj (herror.symm.trans h))
    exact hn
  · exact ((check_and_scan _).2.2 rfl).2.2.2 ['é', '\x7b', '?'] '\x7d' ['\x7b', '\x7d'] rfl isBrace_close

end QueryTemplate
