import Mathlib.Data.List.Basic
import QueryTemplate.Command

/-!
# Options and their tokens

An option is given in two tokens or in one. The first sign of equality tells where
the flag of a token ends (`Flag.token_inj`), so no token belongs to two flags, and
options are read one after the other whatever their values look like
(`readSettings_append`).
-/

namespace QueryTemplate

/-- The token of a flag, with a value if it is joined to it. -/
def Flag.token (flag : Flag) : Option String → String
  | none => flag.text
  | some value => flag.text ++ "=" ++ value

inductive Spelling
  | apart | joined
  deriving DecidableEq, Repr

structure Given where
  flag : Flag
  value : String
  spelling : Spelling
  deriving DecidableEq, Repr

def Given.setting (g : Given) : Setting := (g.flag, g.value)

def Given.tokens (g : Given) : List String :=
  match g.spelling with
  | .apart => [g.flag.text, g.value]
  | .joined => [g.flag.text ++ "=" ++ g.value]

/-! ## Flags in tokens -/

theorem Flag.equals_not_mem (flag : Flag) : '=' ∉ flag.text.toList := by
  cases flag <;> decide

theorem Flag.text_inj {flag flag' : Flag} (h : flag.text = flag'.text) : flag = flag' := by
  revert h
  cases flag <;> cases flag' <;> decide

theorem Flag.toList_token (flag : Flag) (value : String) :
    (flag.token (some value)).toList = flag.text.toList ++ '=' :: value.toList := by
  simp [token]

/-- A flag ends where its token has the first sign of equality. -/
theorem Flag.takeWhile_token (flag : Flag) (value? : Option String) :
    (flag.token value?).toList.takeWhile (· ≠ '=') = flag.text.toList := by
  have hall : ∀ c ∈ flag.text.toList, decide (c ≠ '=') = true := by
    intro c hc
    simpa using ne_of_mem_of_not_mem hc flag.equals_not_mem
  cases value? with
  | none =>
    rw [token, ← List.append_nil flag.text.toList, List.takeWhile_append_of_pos hall, List.takeWhile_nil]
  | some value =>
    rw [toList_token, List.takeWhile_append_of_pos hall, List.takeWhile_cons_of_neg (by simp), List.append_nil]

theorem Flag.mem_token_iff {flag : Flag} {value? : Option String} :
    '=' ∈ (flag.token value?).toList ↔ value?.isSome = true := by
  cases value? with
  | none => simp [token, equals_not_mem]
  | some value => simp [toList_token]

theorem Flag.token_inj {flag flag' : Flag} {value? value?' : Option String}
    (h : flag.token value? = flag'.token value?') : flag = flag' ∧ value? = value?' := by
  have hflag : flag.text.toList = flag'.text.toList := by
    rw [← takeWhile_token flag value?, h, takeWhile_token]
  obtain rfl := text_inj (String.toList_injective hflag)
  refine ⟨rfl, ?_⟩
  have hsome : value?.isSome = true ↔ value?'.isSome = true := by
    rw [← mem_token_iff, h, mem_token_iff]
  cases value? with
  | none =>
    rw [Option.isSome_none, Bool.false_eq_true, false_iff, Option.not_isSome_iff_eq_none] at hsome
    exact hsome.symm
  | some value =>
    obtain ⟨value', rfl⟩ := Option.isSome_iff_exists.mp (hsome.mp rfl)
    have htext := congrArg String.toList h
    rw [toList_token, toList_token, List.append_cancel_left_eq, List.cons_inj_right] at htext
    rw [String.toList_injective htext]

theorem Flag.attached?_eq_some_iff {flag : Flag} {token value : String} :
    flag.attached? token = some value ↔ token = flag.token (some value) := by
  simp only [attached?]
  constructor
  · intro h
    split at h
    · rename_i hstart
      obtain ⟨rest, hrest⟩ := List.isPrefixOf_iff_prefix.mp hstart
      apply String.toList_injective
      rw [toList_token, ← Option.some.inj h, ← hrest]
      simp
    · cases h
  · rintro rfl
    rw [toList_token]
    simp

theorem Flag.found_iff {flag flag' : Flag} {token : String} {value? : Option String} :
    (if token = flag.text then some (flag, none) else (flag.attached? token).map fun v => (flag, some v)) =
      some (flag', value?) ↔ flag = flag' ∧ token = flag.token value? := by
  split
  · rename_i htext
    subst htext
    constructor
    · intro h
      cases h
      exact ⟨rfl, rfl⟩
    · rintro ⟨rfl, h⟩
      have hbare : flag.token none = flag.token value? := h
      obtain ⟨-, rfl⟩ := token_inj hbare
      rfl
  · rename_i htext
    simp only [Option.map_eq_some_iff, attached?_eq_some_iff, Prod.mk.injEq]
    constructor
    · rintro ⟨value, htoken, rfl, rfl⟩
      exact ⟨rfl, htoken⟩
    · rintro ⟨rfl, htoken⟩
      cases value? with
      | none => exact (htext htoken).elim
      | some value => exact ⟨value, htoken, rfl, rfl⟩

theorem findFlag_eq_some_iff {flags : List Flag} {token : String} {flag : Flag} {value? : Option String} :
    findFlag flags token = some (flag, value?) ↔ flag ∈ flags ∧ token = flag.token value? := by
  unfold findFlag
  constructor
  · intro h
    obtain ⟨flag', hflag', hfound⟩ := List.exists_of_findSome?_eq_some h
    obtain ⟨rfl, htoken⟩ := Flag.found_iff.mp hfound
    exact ⟨hflag', htoken⟩
  · rintro ⟨hflag, htoken⟩
    -- Whichever flag is found first, the token is its own, so it is this one.
    cases hfind : flags.findSome? _ with
    | none =>
      have hnone := List.findSome?_eq_none_iff.mp hfind flag hflag
      rw [Flag.found_iff.mpr ⟨rfl, htoken⟩] at hnone
      cases hnone
    | some found =>
      obtain ⟨flag', -, hfound⟩ := List.exists_of_findSome?_eq_some hfind
      obtain ⟨rfl, htoken'⟩ := Flag.found_iff.mp hfound
      obtain ⟨hsame, hvalue⟩ := Flag.token_inj (htoken.symm.trans htoken')
      rw [hsame, hvalue]

theorem isVerbosity_iff {token : String} : isVerbosity token = true ↔ token = "-v" ∨ token = "--verbose" := by
  simp [isVerbosity]

theorem isHelp_iff {token : String} : isHelp token = true ↔ token = "-h" ∨ token = "--help" := by
  simp [isHelp]

theorem Flag.token_ne {flag : Flag} {s : String} (hs : '=' ∉ s.toList) (htext : flag.text ≠ s) (value? : Option String) :
    flag.token value? ≠ s := by
  rintro rfl
  cases value? with
  | none => exact htext rfl
  | some value => exact hs (mem_token_iff.mpr rfl)

theorem Flag.isHelp_token (flag : Flag) (value? : Option String) : isHelp (flag.token value?) = false := by
  rw [← Bool.not_eq_true, isHelp_iff, not_or]
  constructor
  · exact token_ne (by decide) (by cases flag <;> decide) value?
  · exact token_ne (by decide) (by cases flag <;> decide) value?

theorem Flag.isVerbosity_token (flag : Flag) (value? : Option String) : isVerbosity (flag.token value?) = false := by
  rw [← Bool.not_eq_true, isVerbosity_iff, not_or]
  constructor
  · exact token_ne (by decide) (by cases flag <;> decide) value?
  · exact token_ne (by decide) (by cases flag <;> decide) value?

/-! ## Reading options -/

section
variable {flags : List Flag} {flag : Flag}

section
variable (h : flag ∈ flags)
include h

/-- An option is read in the same way in both spellings. -/
theorem readSettings_tokens (value : String) (spelling : Spelling) (rest : List String) :
    readSettings flags (Given.tokens ⟨flag, value, spelling⟩ ++ rest) =
      Option.map ((flag, value) :: ·) <$> readSettings flags rest := by
  cases spelling with
  | apart =>
    have hfind : findFlag flags flag.text = some (flag, none) := findFlag_eq_some_iff.mpr ⟨h, rfl⟩
    have hhelp : isHelp flag.text = false := flag.isHelp_token none
    rw [Given.tokens, List.cons_append, readSettings.eq_def]
    simp only [List.cons_append, List.nil_append, hfind, hhelp, Bool.false_eq_true, if_false]
  | joined =>
    have hfind : findFlag flags (flag.text ++ "=" ++ value) = some (flag, some value) :=
      findFlag_eq_some_iff.mpr ⟨h, rfl⟩
    have hhelp : isHelp (flag.text ++ "=" ++ value) = false := flag.isHelp_token (some value)
    rw [Given.tokens, List.cons_append, readSettings.eq_def]
    simp only [List.nil_append, hfind, hhelp, Bool.false_eq_true, if_false]

end

theorem readSettings_append {given : List Given} (h : ∀ g ∈ given, g.flag ∈ flags) (rest : List String) :
    readSettings flags (given.flatMap Given.tokens ++ rest) =
      Option.map (given.map Given.setting ++ ·) <$> readSettings flags rest := by
  induction given with
  | nil =>
    rw [List.flatMap_nil, List.nil_append]
    cases readSettings flags rest with
    | error e => rfl
    | ok settings? => cases settings? <;> rfl
  | cons g given ih =>
    obtain ⟨hg, hgiven⟩ := List.forall_mem_cons.mp h
    rw [List.flatMap_cons, List.append_assoc, readSettings_tokens hg, ih hgiven]
    cases readSettings flags rest with
    | error e => rfl
    | ok settings? => cases settings? <;> rfl

end

end QueryTemplate
