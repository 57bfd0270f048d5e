import QueryTemplate.Command.Run
import QueryTemplate.Proofs.Names
import QueryTemplate.Proofs.Tracing

/-!
# Two walks over a query file

A check goes on after a query that can not be rendered and counts it; a rendering
stops there, with the queries before it printed. Both follow from what a row of
reports does up to its first failure.
-/

namespace QueryTemplate

/-! ## Reports in a row -/

namespace Report

theorem andThen_of_passed {first : Report} (h : first.failure? = none) (second : Report) :
    first.andThen second =
      ⟨first.stdout ++ second.stdout, second.failure?, first.events ++ second.events⟩ := by
  rw [andThen, h]

theorem andThen_of_failure {first : Report} {e : CommandError} (h : first.failure? = some e) (second : Report) :
    first.andThen second = first := by
  rw [andThen, h]

theorem sequence_cons (r : Report) (rs : List Report) : sequence (r :: rs) = r.andThen (sequence rs) := rfl

theorem sequence_of_passed {rs : List Report} (h : ∀ r ∈ rs, r.failure? = none) :
    sequence rs = ⟨String.join (rs.map stdout), none, rs.flatMap events⟩ := by
  induction rs with
  | nil => rfl
  | cons r rs ih =>
    obtain ⟨hr, hrs⟩ := List.forall_mem_cons.mp h
    rw [sequence_cons, andThen_of_passed hr, ih hrs, List.map_cons, String.join_cons, List.flatMap_cons]

end Report

/-! ## One query -/

namespace Query

def render (skip : String) (q : Query) : Except TemplateError String := (q.renderTraced skip).result

def verdict (skip : String) (q : Query) : String :=
  match q.render skip with
  | .ok _ => s!"ok     {q.name}\n"
  | .error e => s!"error  {q.name}: {e.message}\n"

def compiled? (skip : String) (q : Query) : Option (String × String) :=
  match q.render skip with
  | .ok sql => some (q.name, sql)
  | .error _ => none

def isSound (skip : String) (q : Query) : Bool := (q.compiled? skip).isSome

def complaint? (skip : String) (q : Query) : Option String :=
  match q.render skip with
  | .ok _ => none
  | .error e => some s!"failed to render query {q.name}: {e.message}"

section
variable {skip sql : String} {q : Query} {e : TemplateError}

theorem compiled?_of_ok (h : q.render skip = .ok sql) : q.compiled? skip = some (q.name, sql) := by
  rw [compiled?, h]

theorem complaint?_of_ok (h : q.render skip = .ok sql) : q.complaint? skip = none := by
  rw [complaint?, h]

theorem complaint?_of_error (h : q.render skip = .error e) :
    q.complaint? skip = some (CommandError.failedQuery q.name e).message := by
  rw [complaint?, h]
  rfl

theorem isSound_of_ok (h : q.render skip = .ok sql) : q.isSound skip = true := by
  rw [isSound, compiled?_of_ok h, Option.isSome_some]

theorem isSound_of_error (h : q.render skip = .error e) : q.isSound skip = false := by
  rw [isSound, compiled?, h, Option.isSome_none]

theorem isFaulty_eq (skip : String) (q : Query) : QueryFile.isFaulty skip q = !q.isSound skip := by
  change (!(q.render skip).isOk) = !q.isSound skip
  cases h : q.render skip with
  | ok sql => rw [isSound_of_ok h]; rfl
  | error e => rw [isSound_of_error h]; rfl

end

end Query

def Event.queryOk? : Event → Option (String × String)
  | .queryOk name sql => some (name, sql)
  | _ => none

theorem queryOk?_of_build (source : String) (args : List Arg) :
    (buildTraced .mySql source args).events.filterMap Event.queryOk? = [] := by
  cases h : (buildTraced .mySql source args).result with
  | error e =>
    rw [events_of_error .mySql h]
    rfl
  | ok sql =>
    obtain ⟨t, rs, -, -, hevents⟩ := buildTraced_eq_ok .mySql h
    have helided (p : Piece) : p.event?.bind Event.queryOk? = none := by cases p <;> rfl
    rw [hevents, List.filterMap_append, List.filterMap_filterMap]
    simp [helided, Event.queryOk?]

namespace QueryFile

theorem renderQuery_eq (skip : String) (q : Query) :
    renderQuery skip q =
      match q.render skip with
      | .ok sql => ⟨block q.name sql, none, (q.renderTraced skip).events⟩
      | .error e => ⟨"", some (.failedQuery q.name e), (q.renderTraced skip).events⟩ := by
  unfold renderQuery Query.render
  cases q.renderTraced skip with
  | mk result events =>
    cases result with
    | ok sql => rfl
    | error e => rfl

theorem checkQuery_eq (skip : String) (q : Query) :
    checkQuery skip q = ⟨q.verdict skip, none,
      (q.renderTraced skip).events ++ ((q.compiled? skip).map fun x => .queryOk x.1 x.2).toList⟩ := by
  unfold checkQuery Query.verdict Query.compiled? Query.render
  cases q.renderTraced skip with
  | mk result events =>
    cases result with
    | ok sql => rfl
    | error e => simp

end QueryFile

/-! ## The queries of a file -/

def soundPrefix (skip : String) (qs : List Query) : List Query := qs.takeWhile (Query.isSound skip)

def blocks (xs : List (String × String)) : String :=
  String.join (xs.map fun x => "-- " ++ x.1 ++ "\n" ++ x.2 ++ ";\n")

theorem blocks_cons (x : String × String) (xs : List (String × String)) :
    blocks (x :: xs) = "-- " ++ x.1 ++ "\n" ++ x.2 ++ ";\n" ++ blocks xs := by
  rw [blocks, List.map_cons, String.join_cons]
  rfl

/-- The report of a rendering of these queries, which ends at the first faulty one. -/
structure Report.Prints (r : Report) (skip : String) (qs : List Query) : Prop where
  stdout : r.stdout = blocks ((soundPrefix skip qs).filterMap (Query.compiled? skip))
  failure : r.failure?.map CommandError.message = qs.findSome? (Query.complaint? skip)

namespace QueryFile

theorem block_eq (name sql : String) : block name sql = "-- " ++ name ++ "\n" ++ sql ++ ";\n" := rfl

theorem soundPrefix_of_ok {skip sql : String} {q : Query} (h : q.render skip = .ok sql) (qs : List Query) :
    soundPrefix skip (q :: qs) = q :: soundPrefix skip qs :=
  List.takeWhile_cons_of_pos (Query.isSound_of_ok h)

theorem soundPrefix_of_error {skip : String} {q : Query} {e : TemplateError} (h : q.render skip = .error e)
    (qs : List Query) : soundPrefix skip (q :: qs) = [] :=
  List.takeWhile_cons_of_neg (by rw [Query.isSound_of_error h]; exact Bool.false_ne_true)

theorem prints_sequence (skip : String) (qs : List Query) :
    (Report.sequence (qs.map (renderQuery skip))).Prints skip qs := by
  induction qs with
  | nil => exact ⟨rfl, rfl⟩
  | cons q qs ih =>
    rw [List.map_cons, Report.sequence_cons, renderQuery_eq]
    -- A faulty query ends the walk with its own failure, a sound one leaves the rest to decide.
    cases hq : q.render skip with
    | error e =>
      rw [Report.andThen_of_failure rfl]
      constructor
      · rw [soundPrefix_of_error hq]
        rfl
      · rw [List.findSome?_cons, Query.complaint?_of_error hq]
        rfl
    | ok sql =>
      rw [Report.andThen_of_passed rfl]
      constructor
      · rw [soundPrefix_of_ok hq, List.filterMap_cons_some (Query.compiled?_of_ok hq), blocks_cons, ← block_eq]
        exact congrArg (block q.name sql ++ ·) ih.stdout
      · rw [List.findSome?_cons, Query.complaint?_of_ok hq]
        exact ih.failure

theorem sequence_check (skip : String) (qs : List Query) :
    Report.sequence (qs.map (checkQuery skip)) =
      ⟨String.join (qs.map (Query.verdict skip)), none, qs.flatMap fun q => (checkQuery skip q).events⟩ := by
  rw [Report.sequence_of_passed, List.map_map, List.flatMap_map]
  · congr 2
    apply List.map_congr_left
    intro q _
    rw [Function.comp_apply, checkQuery_eq]
  · intro r hr
    obtain ⟨q, -, rfl⟩ := List.mem_map.mp hr
    rw [checkQuery_eq]

theorem queryOk?_of_check (skip : String) (qs : List Query) :
    (qs.flatMap fun q => (checkQuery skip q).events).filterMap Event.queryOk? =
      qs.filterMap (Query.compiled? skip) := by
  induction qs with
  | nil => rfl
  | cons q qs ih =>
    have hbuild : (q.renderTraced skip).events.filterMap Event.queryOk? = [] := queryOk?_of_build _ _
    rw [List.flatMap_cons, List.filterMap_append, ih, checkQuery_eq, List.filterMap_append, hbuild,
      List.nil_append]
    cases hq : q.compiled? skip with
    | none => rw [List.filterMap_cons_none hq]; rfl
    | some x => rw [List.filterMap_cons_some hq]; rfl

/-- The queries before the first faulty one are the first that have SQL. -/
theorem compiled_soundPrefix (skip : String) (qs : List Query) :
    (soundPrefix skip qs).filterMap (Query.compiled? skip) =
      (qs.filterMap (Query.compiled? skip)).take (soundPrefix skip qs).length := by
  induction qs with
  | nil => rfl
  | cons q qs ih =>
    cases hq : q.render skip with
    | error e =>
      rw [soundPrefix_of_error hq]
      rfl
    | ok sql =>
      have hcompiled := Query.compiled?_of_ok hq
      rw [soundPrefix_of_ok hq, List.filterMap_cons_some hcompiled, List.filterMap_cons_some hcompiled,
        List.length_cons, List.take_succ_cons, ih]

theorem findSome?_complaint_eq_none {skip : String} {qs : List Query} :
    qs.findSome? (Query.complaint? skip) = none ↔ (qs.countP fun q => !q.isSound skip) = 0 := by
  rw [List.findSome?_eq_none_iff, List.countP_eq_zero]
  apply forall₂_congr
  intro q _
  cases hq : q.render skip with
  | ok sql => simp [Query.complaint?_of_ok hq, Query.isSound_of_ok hq]
  | error e => simp [Query.complaint?_of_error hq, Query.isSound_of_error hq]

/-! ## Loading -/

theorem load_eq_ok_iff {read : FileReader} {path : String} {file : QueryFile} :
    load read path = .ok file ↔ ∃ text, read path = .ok text ∧ parse? text = some file ∧ file.validate = .ok () := by
  unfold load
  constructor
  · intro h
    split at h
    · cases h
    · rename_i text hread
      split at h
      · cases h
      · rename_i hparse
        split at h
        · cases h
        · rename_i hvalid
          obtain rfl := Except.ok.inj h
          exact ⟨text, hread, hparse, hvalid⟩
  · rintro ⟨text, hread, hparse, hvalid⟩
    simp only [hread, hparse, hvalid]

theorem check_eq (file : QueryFile) :
    file.check = ⟨String.join (file.queries.map (Query.verdict file.skip)),
      let failed := file.queries.countP fun q => !q.isSound file.skip
      if failed = 0 then none else some (.failedCheck failed file.queries.length),
      file.queries.flatMap fun q => (checkQuery file.skip q).events⟩ := by
  unfold check
  rw [sequence_check, Report.andThen_of_passed rfl, funext (Query.isFaulty_eq file.skip)]
  dsimp only
  split
  · simp [Report.empty]
  · simp [Report.failed]

/-! ## Commands on a file that is loaded -/

section
variable {read : FileReader} {config : String} {file : QueryFile} (h : load read config = .ok file)
include h

theorem withLoaded_of_ok (go : QueryFile → Report) :
    withLoaded read config go =
      ⟨(go file).stdout, (go file).failure?, .loadedQueryFile config file.queries.length :: (go file).events⟩ := by
  rw [withLoaded, h]
  simp [Report.emitted, Report.andThen]

theorem stdout_check :
    ((Command.check config).run read).stdout = String.join (file.queries.map (Query.verdict file.skip)) := by
  rw [Command.run, withLoaded_of_ok h, check_eq]

theorem failure_check :
    ((Command.check config).run read).failure?.map CommandError.message =
      let failed := file.queries.countP fun q => !q.isSound file.skip
      if failed = 0 then none
      else some s!"template check failed ({failed} of {file.queries.length} queries)" := by
  rw [Command.run, withLoaded_of_ok h, check_eq, apply_ite (Option.map CommandError.message)]
  rfl

theorem logged_check :
    ((Command.check config).run read).events.filterMap Event.queryOk? =
      file.queries.filterMap (Query.compiled? file.skip) := by
  rw [Command.run, withLoaded_of_ok h, check_eq]
  exact queryOk?_of_check file.skip file.queries

theorem prints_render {names : List String} {qs : List Query} (hselect : file.select names = .ok qs) :
    ((Command.render config names).run read).Prints file.skip qs := by
  have hprints := prints_sequence file.skip qs
  rw [Command.run, withLoaded_of_ok h, render, hselect]
  exact ⟨hprints.stdout, hprints.failure⟩

theorem render_all_iff :
    ((Command.render config []).run read).failure? = none ↔ ((Command.check config).run read).failure? = none := by
  have hall : ((Command.render config []).run read).Prints file.skip file.queries := prints_render h rfl
  rw [← Option.map_eq_none_iff, hall.failure, findSome?_complaint_eq_none, ← Option.map_eq_none_iff, failure_check h]
  simp

theorem selects_of_load {names : List String} (hne : names ≠ []) : file.Selects names (file.select names) := by
  obtain ⟨-, -, -, hvalid⟩ := load_eq_ok_iff.mp h
  rw [select_of_ne_nil file hne]
  exact selects_find (nodup_names hvalid) names

theorem render_unknown {names : List String} (hunknown : ∃ name ∈ names, ∀ q ∈ file.queries, q.name ≠ name) :
    ((Command.render config names).run read).stdout = "" ∧
      ((Command.render config names).run read).failure? ≠ none := by
  obtain ⟨name, hname, hnone⟩ := hunknown
  cases hselect : file.select names with
  | ok qs =>
    obtain ⟨q, hq, rfl⟩ := (selects_of_load h (List.ne_nil_of_mem hname)).isOk_iff.mp ⟨qs, hselect⟩ name hname
    exact (hnone q hq rfl).elim
  | error other =>
    rw [Command.run, withLoaded_of_ok h, render, hselect]
    exact ⟨rfl, Option.some_ne_none _⟩

theorem render_known {names : List String} (hne : names ≠ [])
    (hknown : ∀ name ∈ names, ∃ q ∈ file.queries, q.name = name) :
    ∃ qs, qs.map Query.name = names ∧ (∀ q ∈ qs, q ∈ file.queries) ∧
      ((Command.render config names).run read).Prints file.skip qs := by
  have hselects := selects_of_load h hne
  obtain ⟨qs, hselect⟩ := hselects.isOk_iff.mpr hknown
  exact ⟨qs, hselects.map_name qs hselect, Names.forall_mem ((hselects.ok_iff qs).mp hselect), prints_render h hselect⟩

end

/-- What is told of a file by its check and by its renderings, which name the queries that
are to be rendered or none. -/
structure Agree (file : QueryFile) (check : Report) (render : List String → Report) : Prop where
  distinct : (file.queries.map Query.name).Nodup
  verdicts : check.stdout = String.join (file.queries.map (Query.verdict file.skip))
  counted : check.failure?.map CommandError.message =
    let failed := file.queries.countP fun q => !q.isSound file.skip
    if failed = 0 then none else some s!"template check failed ({failed} of {file.queries.length} queries)"
  logged : check.events.filterMap Event.queryOk? = file.queries.filterMap (Query.compiled? file.skip)
  succeeds : (render []).failure? = none ↔ check.failure? = none
  printed : (render []).stdout =
    blocks ((check.events.filterMap Event.queryOk?).take (soundPrefix file.skip file.queries).length)
  all : (render []).Prints file.skip file.queries
  unknown : ∀ names, (∃ name ∈ names, ∀ q ∈ file.queries, q.name ≠ name) →
    (render names).stdout = "" ∧ (render names).failure? ≠ none
  named : ∀ names, names ≠ [] → (∀ name ∈ names, ∃ q ∈ file.queries, q.name = name) →
    ∃ qs, qs.map Query.name = names ∧ (∀ q ∈ qs, q ∈ file.queries) ∧ (render names).Prints file.skip qs

/-- **A check and a rendering agree** on every file that can be loaded. -/
theorem check_agrees {read : FileReader} {config : String} {file : QueryFile}
    (h : load read config = .ok file) :
    file.Agree ((Command.check config).run read) fun names => (Command.render config names).run read where
  distinct := by
    obtain ⟨-, -, -, hvalid⟩ := load_eq_ok_iff.mp h
    exact nodup_names hvalid
  verdicts := stdout_check h
  counted := failure_check h
  logged := logged_check h
  succeeds := render_all_iff h
  printed := by
    rw [logged_check h, ← compiled_soundPrefix]
    exact (prints_render h rfl).stdout
  all := prints_render h rfl
  unknown := by
    intro names hunknown
    exact render_unknown h hunknown
  named := by
    intro names hne hknown
    exact render_known h hne hknown

/-- The second query is faulty. -/
theorem check_agrees_faulty :
    let read : FileReader := fun _ => .ok ("version = '1'\n" ++
      "[[queries]]\nname = 'a'\ntemplate = 'DELETE FROM ?#'\nargs = ['x']\n[[queries]]\nname = 'b'\ntemplate = '?'\n")
    let check := (Command.check "q").run read
    let render (names : List String) := (Command.render "q" names).run read
    ∃ file, load read "q" = .ok file ∧ file.Agree check render ∧
      check.stdout = "ok     a\nerror  b: Argument count mismatch: template has 1 placeholders, got 0 arguments\n" ∧
      check.events.filterMap Event.queryOk? = [("a", "DELETE FROM \x60x\x60")] ∧
      (render []).stdout = "-- a\nDELETE FROM \x60x\x60;\n" ∧
      (render ["a", "a", "b", "a"]).stdout = "-- a\nDELETE FROM \x60x\x60;\n-- a\nDELETE FROM \x60x\x60;\n" := by
  intro read check render
  have hvalid : (load read "q").isOk = true := by decide +kernel
  cases hload : load read "q" with
  | error e =>
    rw [hload] at hvalid
    cases hvalid
  | ok file => exact ⟨file, rfl, check_agrees hload, by decide +kernel⟩

end QueryFile

end QueryTemplate
