import Mathlib.Data.List.Induction
import QueryTemplate.Proofs.Options

/-!
# Command lines

A command line is the name of a subcommand with its options, and tokens anywhere
between these that ask for verbosity (`Interspersed`). `Asks` says what the
options ask for, and `parse_options` that this is what the line is read as.
-/

namespace QueryTemplate

def Subcommand.name : Subcommand → String
  | .render => "render"
  | .check => "check"
  | .eval => "eval"

inductive Subcommand.Takes : Subcommand → Flag → Prop
  | render {flag} : flag = .config ∨ flag = .name → Takes .render flag
  | check : Takes .check .config
  | eval {flag} : flag = .template ∨ flag = .args ∨ flag = .skip → Takes .eval flag

/-- An option of the subcommand. A value in a token of its own is none that asks for verbosity. -/
structure Given.Of (sub : Subcommand) (g : Given) : Prop where
  takes : sub.Takes g.flag
  value : g.spelling = .apart → g.value ≠ "-v" ∧ g.value ≠ "--verbose"

/-- The tokens in order, with `n` more anywhere between them that ask for verbosity. -/
inductive Interspersed : Nat → List String → List String → Prop
  | nil : Interspersed 0 [] []
  | token {n ts argv} (t : String) : Interspersed n ts argv → Interspersed n (t :: ts) (t :: argv)
  | verbosity {n ts argv t} : t = "-v" ∨ t = "--verbose" → Interspersed n ts argv → Interspersed (n + 1) ts (t :: argv)

def Invocation.read (argv : List String) : Except String Invocation :=
  (Invocation.parse argv).mapError UsageError.message

/-! ## Reading a command line -/

theorem isHelp_name (sub : Subcommand) : isHelp sub.name = false := by
  cases sub <;> decide

theorem isVerbosity_name (sub : Subcommand) : isVerbosity sub.name = false := by
  cases sub <;> decide

theorem ofToken?_name (sub : Subcommand) : Subcommand.ofToken? sub.name = some sub := by
  cases sub <;> rfl

theorem Subcommand.takes_iff {sub : Subcommand} {flag : Flag} : sub.Takes flag ↔ flag ∈ sub.flags := by
  constructor
  · intro h
    cases h with
    | render h => simpa [flags] using h
    | check => exact List.mem_singleton_self _
    | eval h => simpa [flags] using h
  · intro h
    cases sub with
    | render => exact .render (by simpa [flags] using h)
    | check =>
      obtain rfl := List.mem_singleton.mp h
      exact .check
    | eval => exact .eval (by simpa [flags] using h)

instance (sub : Subcommand) (flag : Flag) : Decidable (sub.Takes flag) := decidable_of_iff _ Subcommand.takes_iff.symm

def Subcommand.conclude (sub : Subcommand) (settings? : Except UsageError (Option (List Setting))) :
    Except UsageError Command := do
  match ← settings? with
  | some settings => sub.toCommand settings
  | none => return .help sub.topic

theorem ofTokens_name (sub : Subcommand) (tokens : List String) :
    Command.ofTokens (sub.name :: tokens) = sub.conclude (readSettings sub.flags tokens) := by
  rw [Command.ofTokens, isHelp_name, if_neg Bool.false_ne_true, ofToken?_name]
  rfl

theorem Invocation.parse_eq (argv : List String) :
    parse argv =
      (fun command => ⟨argv.any isVerbosity, command⟩) <$> Command.ofTokens (argv.filter fun t => !isVerbosity t) :=
  rfl

/-- A token that asks for verbosity is not seen by the one before it. -/
theorem parse_verbosity (argv : List String) {value : String} (h : isVerbosity value = true) (token : String)
    (after : List String) : Invocation.parse (argv ++ token :: value :: after) =
      (fun i => { i with verbose := true }) <$> Invocation.parse (argv ++ token :: after) := by
  have hany : (argv ++ token :: value :: after).any isVerbosity = true := by simp [h]
  have hfilter : (argv ++ token :: value :: after).filter (fun t => !isVerbosity t) =
      (argv ++ token :: after).filter fun t => !isVerbosity t := by
    simp [List.filter_cons, h]
  rw [Invocation.parse_eq, hany, hfilter, Invocation.parse_eq, Functor.map_map]

theorem Interspersed.filter_eq {n : Nat} {ts argv : List String} (h : Interspersed n ts argv)
    (hts : ∀ t ∈ ts, isVerbosity t = false) :
    (argv.filter fun t => !isVerbosity t) = ts ∧ argv.any isVerbosity = decide (0 < n) := by
  induction h with
  | nil => exact ⟨rfl, rfl⟩
  | token t _ ih =>
    obtain ⟨ht, hts⟩ := List.forall_mem_cons.mp hts
    obtain ⟨hfilter, hany⟩ := ih hts
    rw [List.filter_cons_of_pos (by simp [ht]), hfilter, List.any_cons, ht, hany]
    exact ⟨rfl, rfl⟩
  | verbosity ht _ ih =>
    rw [← isVerbosity_iff] at ht
    rw [List.filter_cons_of_neg (by simp [ht]), (ih hts).1, List.any_cons, ht]
    exact ⟨rfl, rfl⟩

theorem Interspersed.append {n : Nat} {ts argv : List String} (h : Interspersed n ts argv) (us : List String) :
    Interspersed n (ts ++ us) (argv ++ us) := by
  induction h with
  | nil =>
    induction us with
    | nil => exact .nil
    | cons u us ih => exact .token u ih
  | token t _ ih => exact .token t ih
  | verbosity ht _ ih => exact .verbosity ht ih

theorem Given.Of.not_isVerbosity {sub : Subcommand} {g : Given} (h : g.Of sub) :
    ∀ t ∈ g.tokens, isVerbosity t = false := by
  obtain ⟨flag, value, spelling⟩ := g
  cases spelling with
  | apart =>
    have hvalue : isVerbosity value = false := by
      rw [← Bool.not_eq_true, isVerbosity_iff, not_or]
      exact h.value rfl
    simp only [tokens, List.forall_mem_cons, List.not_mem_nil, false_imp_iff, implies_true, and_true]
    exact ⟨flag.isVerbosity_token none, hvalue⟩
  | joined =>
    simp only [tokens, List.forall_mem_singleton]
    exact flag.isVerbosity_token (some value)

section
variable {sub : Subcommand} {given : List Given} (h : ∀ g ∈ given, g.Of sub) {n : Nat} {argv : List String}
include h

/-- After its name and options, a command line goes on with what is left of it. -/
theorem parse_before {tail : List String} (htail : ∀ t ∈ tail, isVerbosity t = false)
    (hargv : Interspersed n (sub.name :: (given.flatMap Given.tokens ++ tail)) argv) (rest : List String) :
    Invocation.parse (argv ++ rest) = (fun command => ⟨decide (0 < n) || rest.any isVerbosity, command⟩) <$>
      sub.conclude (Option.map (given.map Given.setting ++ ·) <$>
        readSettings sub.flags (tail ++ rest.filter fun t => !isVerbosity t)) := by
  have htokens : ∀ t ∈ sub.name :: (given.flatMap Given.tokens ++ tail), isVerbosity t = false := by
    rw [List.forall_mem_cons, List.forall_mem_append, List.forall_mem_flatMap]
    exact ⟨isVerbosity_name sub, fun g hg => (h g hg).not_isVerbosity, htail⟩
  obtain ⟨hfilter, hany⟩ := hargv.filter_eq htokens
  rw [Invocation.parse_eq, List.filter_append, List.any_append, hfilter, hany, List.cons_append, ofTokens_name,
    List.append_assoc, readSettings_append fun g hg => Subcommand.takes_iff.mp (h g hg).takes]

theorem parse_append (hargv : Interspersed n (sub.name :: given.flatMap Given.tokens) argv) (rest : List String) :
    Invocation.parse (argv ++ rest) = (fun command => ⟨decide (0 < n) || rest.any isVerbosity, command⟩) <$>
      sub.conclude (Option.map (given.map Given.setting ++ ·) <$>
        readSettings sub.flags (rest.filter fun t => !isVerbosity t)) := by
  rw [← List.append_nil (given.flatMap Given.tokens)] at hargv
  exact parse_before h (by simp) hargv rest

end

/-! ## What the settings ask for -/

section
variable {sub : Subcommand} {given : List Given} (h : ∀ g ∈ given, g.Of sub) {n : Nat} {argv : List String}
include h

end

section
variable {sub : Subcommand} {given : List Given} (h : ∀ g ∈ given, g.Of sub) {n : Nat} {argv : List String}
include h

/-- What comes of one more option depends on its setting alone. -/
theorem parse_option {g : Given} (hg : g.Of sub) (hargv : Interspersed n (sub.name :: given.flatMap Given.tokens) argv)
    (after : List String) :
    Invocation.parse (argv ++ g.tokens ++ after) = (fun command => ⟨decide (0 < n) || after.any isVerbosity, command⟩) <$>
      sub.conclude (Option.map (given.map Given.setting ++ [g.setting] ++ ·) <$>
        readSettings sub.flags (after.filter fun t => !isVerbosity t)) := by
  have hall : ∀ g' ∈ given ++ [g], g'.Of sub := List.forall_mem_append.mpr ⟨h, List.forall_mem_singleton.mpr hg⟩
  have hmore : Interspersed n (sub.name :: (given ++ [g]).flatMap Given.tokens) (argv ++ g.tokens) := by
    rw [List.flatMap_append, List.flatMap_singleton]
    exact hargv.append g.tokens
  rw [parse_append hall hmore, List.map_append, List.map_singleton]

/-- **The spelling of an option does not matter**, whatever its value, unless the value alone would
ask for verbosity: then two tokens are a flag that takes the next token for its value. -/
theorem spellings_agree {flag : Flag} (hflag : sub.Takes flag) (value : String)
    (hargv : Interspersed n (sub.name :: given.flatMap Given.tokens) argv) (after : List String) :
    (value ≠ "-v" → value ≠ "--verbose" →
      Invocation.parse (argv ++ Given.tokens ⟨flag, value, .apart⟩ ++ after) =
        Invocation.parse (argv ++ Given.tokens ⟨flag, value, .joined⟩ ++ after)) ∧
    (value = "-v" ∨ value = "--verbose" →
      Invocation.parse (argv ++ Given.tokens ⟨flag, value, .apart⟩ ++ after) =
        (fun i => { i with verbose := true }) <$> Invocation.parse (argv ++ flag.text :: after)) := by
  constructor
  · intro hv hverbose
    have hapart : Given.Of sub ⟨flag, value, .apart⟩ := ⟨hflag, fun _ => ⟨hv, hverbose⟩⟩
    have hjoined : Given.Of sub ⟨flag, value, .joined⟩ := ⟨hflag, by simp⟩
    rw [parse_option h hapart hargv after, parse_option h hjoined hargv after]
    rfl
  · intro hvalue
    rw [List.append_assoc]
    exact parse_verbosity argv (isVerbosity_iff.mpr hvalue) flag.text after

end

/-- The value is a flag in one line, and asks for verbosity in the other. -/
theorem spellings_agree_flag :
    let before : List Given := [⟨.config, "a", .apart⟩]
    let argv := ["render", "--verbose", "--config", "a"]
    (∀ g ∈ before, g.Of .render) ∧ Interspersed 1 ("render" :: before.flatMap Given.tokens) argv ∧
      Invocation.parse (argv ++ ["--name", "--config=b"] ++ ["--config"]) =
        Invocation.parse (argv ++ ["--name=--config=b"] ++ ["--config"]) ∧
      Invocation.parse (argv ++ ["--name", "-v"] ++ ["b"]) = .ok ⟨true, .render "a" ["b"]⟩ := by
  intro before argv
  have hbefore : ∀ g ∈ before, g.Of .render := List.forall_mem_singleton.mpr ⟨by decide, by decide⟩
  have hargv : Interspersed 1 ("render" :: before.flatMap Given.tokens) argv :=
    .token _ (.verbosity (.inr rfl) (.token _ (.token _ .nil)))
  refine ⟨hbefore, hargv, ?_, ?_⟩
  · exact (spellings_agree hbefore (show Subcommand.render.Takes .name by decide) "--config=b" hargv
      ["--config"]).1 (by decide) (by decide)
  · exact (spellings_agree hbefore (show Subcommand.render.Takes .name by decide) "-v" hargv
      ["b"]).2 (.inl rfl)

/-- A value that asks for verbosity is no value unless it is joined to its flag. -/
theorem spellings_differ :
    ¬ ∀ (sub : Subcommand) (flag : Flag) (value : String) (before after : List Given), sub.Takes flag →
      (∀ g ∈ before ++ after, g.Of sub) →
      Invocation.parse (sub.name :: (before ++ ⟨flag, value, .apart⟩ :: after).flatMap Given.tokens) =
        Invocation.parse (sub.name :: (before ++ ⟨flag, value, .joined⟩ :: after).flatMap Given.tokens) := by
  intro hall
  have hcheck := hall .check .config "-v" [] [] (by decide) (by simp)
  revert hcheck
  decide

end QueryTemplate
