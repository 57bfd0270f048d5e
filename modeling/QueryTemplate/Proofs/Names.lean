import QueryTemplate.Proofs.Outcomes
import QueryTemplate.QueryFile

/-!
# Names of queries

A query file is valid when its names are neither blank nor repeated, and then no
name has more than one query. The checks stop at the first query that breaks one
(`FirstFault`), and a list of names at the first one that no query has
(`lookup_unambiguous`).
-/

namespace QueryTemplate

def Query.Named (q : Query) : Prop := ∃ c ∈ q.name.toList, isBlank c = false

theorem Query.named_iff {q : Query} : q.Named ↔ ¬ q.name.toList.all isBlank = true := by
  simp [Named]

namespace QueryFile

structure WellNamed (qs : List Query) : Prop where
  named : ∀ q ∈ qs, q.Named
  distinct : (qs.map Query.name).Nodup

inductive NameFault (before : List Query) (q : Query) : Fault → Prop
  | blank : ¬ q.Named → NameFault before q .emptyName
  | repeated : q.Named → q.name ∈ before.map Query.name → NameFault before q (.duplicateName q.name)

structure Sound (file : QueryFile) : Prop where
  version : file.version = "1"
  skip : file.skip ≠ ""
  names : WellNamed file.queries

/-- The first thing that is wrong with a query file: its version, its token for skips, or the
name of a query after others with good names. -/
inductive FirstFault (file : QueryFile) : Fault → Prop
  | version : file.version ≠ "1" → FirstFault file (.unsupportedVersion file.version)
  | skip : file.version = "1" → file.skip = "" → FirstFault file .emptySkip
  | name {before q after fault} : file.version = "1" → file.skip ≠ "" → file.queries = before ++ q :: after →
      WellNamed before → NameFault before q fault → FirstFault file fault

inductive Fault.Told : Fault → String → Prop
  | version {version} : Told (.unsupportedVersion version)
      ("unsupported version " ++ quoted version ++ " (expected \"1\")")
  | skip : Told .emptySkip "skip token must not be empty"
  | blank : Told .emptyName "query name must not be empty"
  | repeated {name} : Told (.duplicateName name) ("duplicate query name: " ++ name)

/-! ## One query after others -/

theorem wellNamed_nil : WellNamed [] := ⟨by simp, by simp⟩

theorem WellNamed.of_append {qs rs : List Query} (h : WellNamed (qs ++ rs)) : WellNamed qs where
  named := fun q hq => h.named q (List.mem_append_left _ hq)
  distinct := by
    have hdistinct := h.distinct
    rw [List.map_append, List.nodup_append] at hdistinct
    exact hdistinct.1

theorem wellNamed_concat {before : List Query} {q : Query} :
    WellNamed (before ++ [q]) ↔ WellNamed before ∧ q.Named ∧ q.name ∉ before.map Query.name := by
  constructor
  · intro h
    refine ⟨h.of_append, h.named q (by simp), fun hq => ?_⟩
    have hdistinct := h.distinct
    rw [List.map_append, List.nodup_append] at hdistinct
    exact hdistinct.2.2 q.name hq q.name (by simp) rfl
  · rintro ⟨h, hq, hnew⟩
    constructor
    · intro r hr
      rcases List.mem_append.mp hr with hr | hr
      · exact h.named r hr
      · rwa [List.mem_singleton.mp hr]
    · rw [List.map_append, List.nodup_append]
      refine ⟨h.distinct, by simp, fun name hname other hother he => hnew ?_⟩
      rwa [← List.mem_singleton.mp hother, ← he]

section
variable {before before' after after' : List Query} {q q' : Query} {fault fault' : Fault}

theorem NameFault.not_wellNamed (h : NameFault before q fault) : ¬ WellNamed (before ++ q :: after) := by
  rw [List.append_cons]
  intro hall
  obtain ⟨-, hq, hnew⟩ := wellNamed_concat.mp hall.of_append
  cases h with
  | blank hblank => exact hblank hq
  | repeated _ hseen => exact hnew hseen

/-- Good names end where a faulty one stands. -/
theorem NameFault.length_le (h : NameFault before q fault) (hbefore' : WellNamed before')
    (he : before ++ q :: after = before' ++ after') : before'.length ≤ before.length := by
  rcases List.append_eq_append_iff.mp he with ⟨mid, rfl, hmid⟩ | ⟨mid, rfl, -⟩
  · cases mid with
    | nil => simp
    | cons r mid =>
      obtain ⟨rfl, -⟩ := List.cons.inj hmid
      exact absurd hbefore' h.not_wellNamed
  · simp

theorem NameFault.unique (h : NameFault before q fault) (h' : NameFault before' q' fault') (hbefore : WellNamed before)
    (hbefore' : WellNamed before') (he : before ++ q :: after = before' ++ q' :: after') : fault = fault' := by
  have hlength := Nat.le_antisymm (h'.length_le hbefore he.symm) (h.length_le hbefore' he)
  obtain ⟨rfl, htail⟩ := List.append_inj he hlength
  obtain ⟨rfl, -⟩ := List.cons.inj htail
  cases h with
  | blank hblank =>
    cases h' with
    | blank => rfl
    | repeated hq => exact absurd hq hblank
  | repeated hq =>
    cases h' with
    | blank hblank => exact absurd hq hblank
    | repeated => rfl

end

/-! ## Validation -/

/-- The names of the queries before are what has been seen. -/
theorem checkNames_cases (qs : List Query) {seen : List String} {before : List Query}
    (hseen : ∀ name, name ∈ seen ↔ name ∈ before.map Query.name) (hbefore : WellNamed before) :
    (checkNames seen qs = .ok () ∧ WellNamed (before ++ qs)) ∨
    ∃ mid q after fault, qs = mid ++ q :: after ∧ WellNamed (before ++ mid) ∧ NameFault (before ++ mid) q fault ∧
      checkNames seen qs = .error fault := by
  induction qs generalizing seen before with
  | nil => exact .inl ⟨rfl, by rwa [List.append_nil]⟩
  | cons q qs ih =>
    by_cases hq : q.Named
    · by_cases hmem : q.name ∈ before.map Query.name
      · refine .inr ⟨[], q, qs, .duplicateName q.name, rfl, by rwa [List.append_nil], ?_, ?_⟩
        · rw [List.append_nil]
          exact .repeated hq hmem
        · rw [checkNames, if_neg (Query.named_iff.mp hq), if_pos ((hseen _).mpr hmem)]
      · have hnext : ∀ name, name ∈ q.name :: seen ↔ name ∈ (before ++ [q]).map Query.name := by
          intro name
          simp [hseen, or_comm]
        have hstep : checkNames seen (q :: qs) = checkNames (q.name :: seen) qs := by
          rw [checkNames, if_neg (Query.named_iff.mp hq), if_neg (mt (hseen _).mp hmem)]
        rw [hstep]
        rcases ih hnext (wellNamed_concat.mpr ⟨hbefore, hq, hmem⟩) with
          ⟨hok, hall⟩ | ⟨mid, r, after, fault, rfl, hmid, hfault, he⟩
        · exact .inl ⟨hok, by rwa [List.append_cons]⟩
        · refine .inr ⟨q :: mid, r, after, fault, rfl, ?_, ?_, he⟩
          · rwa [List.append_cons]
          · rwa [List.append_cons]
    · refine .inr ⟨[], q, qs, .emptyName, rfl, by rwa [List.append_nil], .blank hq, ?_⟩
      rw [checkNames, if_pos (not_not.mp (mt Query.named_iff.mpr hq))]

theorem validate_cases (file : QueryFile) :
    (file.validate = .ok () ∧ file.Sound) ∨ ∃ fault, file.validate = .error fault ∧ file.FirstFault fault := by
  rw [validate, supportedVersion]
  by_cases hversion : file.version = "1"
  · rw [if_neg (not_not.mpr hversion)]
    by_cases hskip : file.skip = ""
    · exact .inr ⟨_, if_pos hskip, .skip hversion hskip⟩
    · rw [if_neg hskip]
      have hnil : ∀ name, name ∈ ([] : List String) ↔ name ∈ ([] : List Query).map Query.name := by simp
      rcases checkNames_cases file.queries hnil wellNamed_nil with
        ⟨hok, hall⟩ | ⟨mid, q, after, fault, hqueries, hmid, hfault, he⟩
      · exact .inl ⟨hok, hversion, hskip, hall⟩
      · exact .inr ⟨fault, he, .name hversion hskip hqueries hmid hfault⟩
  · exact .inr ⟨_, if_pos hversion, .version hversion⟩

theorem FirstFault.not_sound {file : QueryFile} {fault : Fault} (h : file.FirstFault fault) : ¬ file.Sound := by
  intro hsound
  cases h with
  | version hversion => exact hversion hsound.version
  | skip _ hskip => exact hsound.skip hskip
  | name _ _ hqueries _ hfault => exact hfault.not_wellNamed (hqueries ▸ hsound.names)

theorem FirstFault.unique {file : QueryFile} {fault fault' : Fault} (h : file.FirstFault fault)
    (h' : file.FirstFault fault') : fault = fault' := by
  cases h with
  | version hversion =>
    cases h' with
    | version => rfl
    | skip h1 => exact absurd h1 hversion
    | name h1 => exact absurd h1 hversion
  | skip h1 hskip =>
    cases h' with
    | version hversion => exact absurd h1 hversion
    | skip => rfl
    | name _ hne => exact absurd hskip hne
  | name h1 hne hqueries hbefore hfault =>
    cases h' with
    | version hversion => exact absurd h1 hversion
    | skip _ hskip => exact absurd hskip hne
    | name _ _ hqueries' hbefore' hfault' => exact hfault.unique hfault' hbefore hbefore' (hqueries ▸ hqueries')

theorem validate_eq_ok_iff {file : QueryFile} : file.validate = .ok () ↔ file.Sound := by
  rcases file.validate_cases with ⟨hok, hsound⟩ | ⟨fault, he, hfault⟩
  · simp [hok, hsound]
  · simp [he, hfault.not_sound]

theorem nodup_names {file : QueryFile} (h : file.validate = .ok ()) : (file.queries.map Query.name).Nodup :=
  (validate_eq_ok_iff.mp h).names.distinct

theorem validate_eq_error_iff {file : QueryFile} {fault : Fault} :
    file.validate = .error fault ↔ file.FirstFault fault := by
  rcases file.validate_cases with ⟨hok, hsound⟩ | ⟨other, he, hother⟩
  · simp only [hok, reduceCtorEq, false_iff]
    exact fun h => h.not_sound hsound
  · simp only [he, Except.error.injEq]
    constructor
    · rintro rfl
      exact hother
    · exact hother.unique

theorem Fault.message_unsupportedVersion (version : String) :
    message (.unsupportedVersion version) = "unsupported version " ++ quoted version ++ " (expected \"1\")" := by
  have hquoted : quoted supportedVersion = "\"1\"" := by decide
  have hexpected : (" (expected \"1\")" : String) = " (expected " ++ "\"1\"" ++ ")" := by decide
  change "unsupported version " ++ quoted version ++ " (expected " ++ quoted supportedVersion ++ ")" = _
  rw [hquoted, hexpected]
  simp only [String.append_assoc]

theorem Fault.told_iff {fault : Fault} {text : String} : fault.Told text ↔ fault.message = text := by
  constructor
  · intro h
    cases h with
    | version => exact message_unsupportedVersion _
    | _ => rfl
  · rintro rfl
    cases fault with
    | unsupportedVersion version =>
      rw [message_unsupportedVersion]
      exact .version
    | emptySkip => exact .skip
    | emptyName => exact .blank
    | duplicateName name => exact .repeated

/-! ## Looking names up -/

/-- The query has the name, and stands at the only place where one has it. -/
structure Names (file : QueryFile) (name : String) (q : Query) : Prop where
  name_eq : q.name = name
  place : ∃ i, file.queries[i]? = some q ∧ ∀ (j : Nat) (r : Query), file.queries[j]? = some r → r.name = name → j = i

def find (file : QueryFile) (name : String) : Except String Query :=
  match file.queries.find? fun q => q.name = name with
  | some q => .ok q
  | none => .error name

theorem findAll_eq (file : QueryFile) (names : List String) : file.findAll names = names.mapM file.find := by
  induction names with
  | nil => rfl
  | cons name names ih =>
    rw [findAll, List.mapM_cons, find, ih]
    cases file.queries.find? fun q => q.name = name with
    | none => rfl
    | some q => rfl

theorem find_cases (file : QueryFile) (name : String) :
    (∃ q ∈ file.queries, q.name = name ∧ file.find name = .ok q) ∨
      (∀ q ∈ file.queries, q.name ≠ name) ∧ file.find name = .error name := by
  unfold find
  cases h : file.queries.find? fun q => q.name = name with
  | none => exact .inr ⟨by simpa using h, rfl⟩
  | some q => exact .inl ⟨q, List.mem_of_find?_eq_some h, by simpa using List.find?_some h, rfl⟩

theorem find_isOk_iff {file : QueryFile} {name : String} :
    (∃ q, file.find name = .ok q) ↔ ∃ q ∈ file.queries, q.name = name := by
  rcases file.find_cases name with ⟨q, hq, hname, hfind⟩ | ⟨hnone, hfind⟩
  · exact ⟨fun _ => ⟨q, hq, hname⟩, fun _ => ⟨q, hfind⟩⟩
  · simpa [hfind] using hnone

theorem find_eq_error_iff {file : QueryFile} {name name' : String} :
    file.find name = .error name' ↔ name = name' ∧ ∀ q ∈ file.queries, q.name ≠ name := by
  rcases file.find_cases name with ⟨q, hq, hname, hfind⟩ | ⟨hnone, hfind⟩
  · simp only [hfind, reduceCtorEq, false_iff]
    exact fun h => h.2 q hq hname
  · simp only [hfind, Except.error.injEq, and_iff_left hnone]

theorem Names.mem {file : QueryFile} {name : String} {q : Query} (h : file.Names name q) : q ∈ file.queries := by
  obtain ⟨i, hi, -⟩ := h.place
  exact List.mem_of_getElem? hi

theorem Names.unique {file : QueryFile} {name : String} {q r : Query} (h : file.Names name q) (hr : r ∈ file.queries)
    (hname : r.name = name) : r = q := by
  obtain ⟨i, hi, hplace⟩ := h.place
  obtain ⟨j, hj⟩ := List.mem_iff_getElem?.mp hr
  rw [hplace j r hj hname, hi] at hj
  exact (Option.some.inj hj).symm

theorem names_of_mem {file : QueryFile} (h : (file.queries.map Query.name).Nodup) {q : Query} (hq : q ∈ file.queries) :
    file.Names q.name q where
  name_eq := rfl
  place := by
    obtain ⟨i, hi⟩ := List.mem_iff_getElem?.mp hq
    refine ⟨i, hi, fun j r hj hname => ?_⟩
    have hlt : j < (file.queries.map Query.name).length := by
      rw [List.length_map]
      exact (List.getElem?_eq_some_iff.mp hj).1
    apply (List.getElem?_inj hlt h).mp
    rw [List.getElem?_map, List.getElem?_map, hi, hj, Option.map_some, Option.map_some, hname]

theorem find_eq_ok_iff {file : QueryFile} (h : (file.queries.map Query.name).Nodup) {name : String} {q : Query} :
    file.find name = .ok q ↔ file.Names name q := by
  rcases file.find_cases name with ⟨r, hr, rfl, hfind⟩ | ⟨hnone, hfind⟩
  · rw [hfind, Except.ok.injEq]
    constructor
    · rintro rfl
      exact names_of_mem h hr
    · intro hq
      exact hq.unique hr rfl
  · simp only [hfind, reduceCtorEq, false_iff]
    exact fun hq => hnone q hq.mem hq.name_eq

theorem select_of_ne_nil (file : QueryFile) {names : List String} (h : names ≠ []) :
    file.select names = names.mapM file.find := by
  rw [select, if_neg (by simpa using h), findAll_eq]

theorem Names.forall_mem {file : QueryFile} {names : List String} {qs : List Query}
    (h : List.Forall₂ file.Names names qs) : ∀ q ∈ qs, q ∈ file.queries := by
  induction h with
  | nil => simp
  | cons hq _ ih => exact List.forall_mem_cons.mpr ⟨hq.mem, ih⟩

theorem Names.map_name {file : QueryFile} {names : List String} {qs : List Query}
    (h : List.Forall₂ file.Names names qs) : qs.map Query.name = names := by
  induction h with
  | nil => rfl
  | cons hq _ ih => rw [List.map_cons, hq.name_eq, ih]

structure Selects (file : QueryFile) (names : List String) (selected : Except String (List Query)) : Prop where
  isOk_iff : (∃ qs, selected = .ok qs) ↔ ∀ name ∈ names, ∃ q ∈ file.queries, q.name = name
  ok_iff : ∀ qs, selected = .ok qs ↔ List.Forall₂ file.Names names qs
  map_name : ∀ qs, selected = .ok qs → qs.map Query.name = names
  error_iff : ∀ name, selected = .error name ↔ ∃ i : Nat, names[i]? = some name ∧
    (∀ q ∈ file.queries, q.name ≠ name) ∧
    ∀ j < i, ∀ known, names[j]? = some known → ∃ q ∈ file.queries, q.name = known

theorem selects_find {file : QueryFile} (h : (file.queries.map Query.name).Nodup) (names : List String) :
    file.Selects names (names.mapM file.find) where
  isOk_iff := by simp only [mapM_isOk_iff, find_isOk_iff]
  ok_iff := by
    intro qs
    simp only [mapM_eq_ok_iff, find_eq_ok_iff h]
  map_name := by
    intro qs hqs
    simp only [mapM_eq_ok_iff, find_eq_ok_iff h] at hqs
    exact Names.map_name hqs
  error_iff := by
    intro name
    simp only [mapM_eq_error_iff, find_isOk_iff, find_eq_error_iff]
    constructor
    · rintro ⟨i, _, hi, ⟨rfl, hnone⟩, hbefore⟩
      exact ⟨i, hi, hnone, hbefore⟩
    · rintro ⟨i, hi, hnone, hbefore⟩
      exact ⟨i, name, hi, ⟨rfl, hnone⟩, hbefore⟩

/-- **Names are looked up without ambiguity** in a valid query file, and of another the first
thing that is wrong is told. -/
theorem lookup_unambiguous (file : QueryFile) :
    (file.validate = .ok () ↔ file.Sound) ∧
    (∀ fault, file.validate = .error fault ↔ file.FirstFault fault) ∧
    (∀ text, file.validate.mapError Fault.message = .error text ↔ ∃ fault, file.FirstFault fault ∧ fault.Told text) ∧
    file.select [] = .ok file.queries ∧
    (file.validate = .ok () → ∀ names, names ≠ [] → file.Selects names (file.select names)) := by
  refine ⟨validate_eq_ok_iff, fun _ => validate_eq_error_iff, ?_, rfl, ?_⟩
  · intro text
    simp only [mapError_eq_error_iff, validate_eq_error_iff, Fault.told_iff]
  · intro hvalid names hne
    rw [file.select_of_ne_nil hne]
    exact selects_find (nodup_names hvalid) names

/-- A blank name behind a repeated one, names that differ in blanks only, and another version
with no token for skips. -/
theorem lookup_unambiguous_blank :
    let query (name : String) : Query := ⟨name, "", []⟩
    let repeated : QueryFile := ⟨"1", "@skip", [query "a", query "b", query "a", query " "]⟩
    let outdated : QueryFile := ⟨"0.9", "", [query ""]⟩
    let valid : QueryFile := ⟨"1", "@skip", [query "a", query "b", query "a "]⟩
    repeated.FirstFault (.duplicateName "a") ∧
      repeated.validate.mapError Fault.message = .error "duplicate query name: a" ∧
      outdated.validate.mapError Fault.message = .error "unsupported version \"0.9\" (expected \"1\")" ∧
      valid.validate = .ok () ∧
      valid.Selects ["a ", "b", "a "] (.ok [query "a ", query "b", query "a "]) ∧
      valid.Selects ["b", " b", "c"] (.error " b") := by
  intro query repeated outdated valid
  have hvalid : valid.validate = .ok () := by decide
  have hversion : outdated.version ≠ "1" := by decide
  obtain ⟨-, hfault, hrepeated, -, -⟩ := repeated.lookup_unambiguous
  obtain ⟨-, -, houtdated, -, -⟩ := outdated.lookup_unambiguous
  obtain ⟨-, -, -, -, hselect⟩ := valid.lookup_unambiguous
  have hfirst : repeated.FirstFault (.duplicateName "a") := (hfault _).mp (by decide)
  refine ⟨hfirst, ?_, ?_, hvalid, hselect hvalid _ (by simp), hselect hvalid _ (by simp)⟩
  · exact (hrepeated _).mpr ⟨_, hfirst, .repeated⟩
  · have htext : "unsupported version \"0.9\" (expected \"1\")" =
        "unsupported version " ++ quoted outdated.version ++ " (expected \"1\")" := by decide
    rw [htext]
    exact (houtdated _).mpr ⟨_, .version hversion, .version⟩

end QueryFile

end QueryTemplate
