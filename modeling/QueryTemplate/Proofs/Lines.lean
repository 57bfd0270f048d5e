import Mathlib.Data.List.TakeWhile
import QueryTemplate.Proofs.Reports

/-!
# Lines of a rendering

Each query that is rendered is told in a comment and a statement. The statement is
one line, whatever the template and the arguments are; the comment is as many lines
as the name has, and only the first of them is marked as a comment.
-/

namespace QueryTemplate

theorem not_mem_of_mem_splitOn {c : Char} {cs line : List Char} (h : line ∈ cs.splitOn c) : c ∉ line := by
  induction cs generalizing line with
  | nil =>
    rw [List.splitOn_nil, List.mem_singleton] at h
    simp [h]
  | cons d cs ih =>
    rw [List.splitOn_cons_eq_if_modifyHead] at h
    split at h
    · rcases List.mem_cons.mp h with rfl | h
      · exact List.not_mem_nil
      · exact ih h
    · rename_i hd
      obtain ⟨first, rest, hsplit⟩ := List.exists_cons_of_ne_nil (List.splitOn_ne_nil c cs)
      rw [hsplit, List.modifyHead_cons] at h
      rcases List.mem_cons.mp h with rfl | h
      · have hfirst : c ∉ first := ih (hsplit ▸ List.mem_cons_self ..)
        simp only [beq_iff_eq] at hd
        simp [hfirst, Ne.symm hd]
      · exact ih (hsplit ▸ List.mem_cons_of_mem _ h)

theorem newline_not_mem_build {source sql : String} {args : List Arg} (h : build .mySql source args = .ok sql) :
    '\n' ∉ sql.toList := by
  obtain ⟨t, rs, -, -, rfl⟩ := build_eq_ok .mySql h
  rw [String.toList_ofList]
  exact newline_not_mem_normalise _

/-! ## The lines of the blocks -/

def comment (name : String) : String := "-- " ++ name

def statement (sql : String) : String := sql ++ ";"

/-- A comment in one line and a statement in one line for each name with its SQL. -/
def TwoLinesEach (text : String) (xs : List (String × String)) : Prop :=
  text.toList.splitOn '\n' = xs.flatMap (fun x => [(comment x.1).toList, (statement x.2).toList]) ++ [[]]

theorem TwoLinesEach.length_splitOn {text : String} {xs : List (String × String)} (h : TwoLinesEach text xs) :
    (text.toList.splitOn '\n').length = 2 * xs.length + 1 := by
  rw [h, List.length_append, List.length_flatMap]
  simp [Nat.mul_comm]

theorem toList_blocks_cons (x : String × String) (xs : List (String × String)) :
    (blocks (x :: xs)).toList =
      (comment x.1).toList ++ '\n' :: ((statement x.2).toList ++ '\n' :: (blocks xs).toList) := by
  simp [blocks_cons, comment, statement]

theorem splitOn_blocks {xs : List (String × String)} (h : ∀ x ∈ xs, '\n' ∉ x.2.toList) :
    (blocks xs).toList.splitOn '\n' =
      xs.flatMap (fun x => (comment x.1).toList.splitOn '\n' ++ [(statement x.2).toList]) ++ [[]] := by
  induction xs with
  | nil => rfl
  | cons x xs ih =>
    obtain ⟨hx, hxs⟩ := List.forall_mem_cons.mp h
    have hstatement : '\n' ∉ (statement x.2).toList := by simp [statement, hx]
    rw [toList_blocks_cons, List.splitOn_append_cons_self, List.splitOn_append_cons_self,
      List.splitOn_eq_singleton hstatement, ih hxs, List.flatMap_cons, List.append_assoc, List.append_assoc]

theorem newline_not_mem_comment {name : String} : '\n' ∉ (comment name).toList ↔ '\n' ∉ name.toList := by
  simp [comment]

theorem twoLinesEach_blocks {xs : List (String × String)} (h : ∀ x ∈ xs, '\n' ∉ x.2.toList) :
    TwoLinesEach (blocks xs) xs ↔ ∀ x ∈ xs, '\n' ∉ x.1.toList := by
  constructor
  · intro hlines x hx
    have hline : (comment x.1).toList ∈ (blocks xs).toList.splitOn '\n' := by
      rw [hlines]
      exact List.mem_append_left _ (List.mem_flatMap_of_mem hx (List.mem_cons_self ..))
    exact newline_not_mem_comment.mp (not_mem_of_mem_splitOn hline)
  · intro hnames
    rw [TwoLinesEach, splitOn_blocks h]
    congr 1
    apply List.flatMap_congr
    intro x hx
    rw [List.splitOn_eq_singleton (newline_not_mem_comment.mpr (hnames x hx))]
    rfl

namespace QueryFile

section
variable {r : Report} {skip : String} {qs : List Query} (h : r.Prints skip qs) (hok : r.failure? = none)
include h hok

theorem sound_of_prints : ∀ q ∈ qs, ∃ sql, q.render skip = .ok sql := by
  intro q hq
  have hnone := h.failure
  rw [hok] at hnone
  have hcomplaint := List.findSome?_eq_none_iff.mp hnone.symm q hq
  cases hr : q.render skip with
  | ok sql => exact ⟨sql, rfl⟩
  | error e =>
    rw [Query.complaint?_of_error hr] at hcomplaint
    cases hcomplaint

/-- A rendering without a failure prints a block for every query. -/
theorem blocks_of_prints :
    ∃ xs : List (String × String), qs.map (Query.compiled? skip) = xs.map some ∧ r.stdout = blocks xs := by
  have hsound := sound_of_prints h hok
  have hprefix : soundPrefix skip qs = qs := by
    apply List.takeWhile_eq_self_iff.mpr
    intro q hq
    obtain ⟨sql, hsql⟩ := hsound q hq
    exact Query.isSound_of_ok hsql
  refine ⟨qs.filterMap (Query.compiled? skip), ?_, by rw [h.stdout, hprefix]⟩
  rw [List.map_filterMap_some_eq_filter_map_isSome, List.filter_eq_self.mpr]
  intro x hx
  obtain ⟨q, hq, rfl⟩ := List.mem_map.mp hx
  obtain ⟨sql, hsql⟩ := hsound q hq
  rw [Query.compiled?_of_ok hsql]
  rfl

end

theorem line_of_compiled? {skip : String} {q : Query} {x : String × String}
    (h : q.compiled? skip = some x) : x.1 = q.name ∧ '\n' ∉ x.2.toList := by
  unfold Query.compiled? at h
  split at h
  · rename_i sql hsql
    obtain rfl := Option.some.inj h
    exact ⟨rfl, newline_not_mem_build hsql⟩
  · cases h

theorem select_of_render {read : FileReader} {config : String} {file : QueryFile} {names : List String}
    (h : load read config = .ok file) (hok : ((Command.render config names).run read).failure? = none) :
    ∃ qs, file.select names = .ok qs := by
  rw [Command.run, withLoaded_of_ok h, render] at hok
  cases hselect : file.select names with
  | ok qs => exact ⟨qs, rfl⟩
  | error name =>
    rw [hselect] at hok
    cases hok

/-- **The lines of a rendering** that does not fail: the statement of a query is one line,
and its comment is one unless its name is more than that. -/
theorem lines_render {read : FileReader} {config : String} {file : QueryFile} {names : List String}
    (h : load read config = .ok file) (hok : ((Command.render config names).run read).failure? = none) :
    ∃ (qs : List Query) (xs : List (String × String)), file.select names = .ok qs ∧
      qs.map (Query.compiled? file.skip) = xs.map some ∧
      ((Command.render config names).run read).stdout.toList.splitOn '\n' =
        xs.flatMap (fun x => (comment x.1).toList.splitOn '\n' ++ [(statement x.2).toList]) ++ [[]] ∧
      (TwoLinesEach ((Command.render config names).run read).stdout xs ↔ ∀ q ∈ qs, '\n' ∉ q.name.toList) := by
  obtain ⟨qs, hselect⟩ := select_of_render h hok
  obtain ⟨xs, hxs, hstdout⟩ := blocks_of_prints (prints_render h hselect) hok
  -- Each pair is what one of the queries is compiled to, and each query has one.
  have hquery : ∀ x ∈ xs, ∃ q ∈ qs, q.compiled? file.skip = some x := by
    intro x hx
    exact List.mem_map.mp (hxs ▸ List.mem_map_of_mem hx)
  have hpair : ∀ q ∈ qs, ∃ x ∈ xs, q.compiled? file.skip = some x := by
    intro q hq
    obtain ⟨x, hx, hsome⟩ := List.mem_map.mp (hxs ▸ List.mem_map_of_mem hq)
    exact ⟨x, hx, hsome.symm⟩
  have hsql : ∀ x ∈ xs, '\n' ∉ x.2.toList := by
    intro x hx
    obtain ⟨q, -, hq⟩ := hquery x hx
    exact (line_of_compiled? hq).2
  refine ⟨qs, xs, hselect, hxs, ?_, ?_⟩
  · rw [hstdout]
    exact splitOn_blocks hsql
  · rw [hstdout, twoLinesEach_blocks hsql]
    constructor
    · intro hnames q hq
      obtain ⟨x, hx, hsome⟩ := hpair q hq
      rw [← (line_of_compiled? hsome).1]
      exact hnames x hx
    · intro hnames x hx
      obtain ⟨q, hq, hsome⟩ := hquery x hx
      rw [(line_of_compiled? hsome).1]
      exact hnames q hq

/-- A template of two lines with a line feed in its argument. -/
theorem lines_render_all :
    let read : FileReader := fun _ => .ok ("version = '1'\n[[queries]]\nname = 'a'\n" ++
      "template = \"SELECT\\n?\"\nargs = [\"x\\ny\"]\n[[queries]]\nname = 'b'\ntemplate = ''\n")
    ∃ xs, TwoLinesEach ((Command.render "q" []).run read).stdout xs ∧ xs.length = 2 := by
  intro read
  obtain ⟨hnames, hok⟩ : ((load read "q").toOption.map fun file => file.queries.map Query.name) = some ["a", "b"] ∧
      ((Command.render "q" []).run read).failure? = none := by decide +kernel
  cases hload : load read "q" with
  | error e =>
    rw [hload] at hnames
    cases hnames
  | ok file =>
    rw [hload] at hnames
    have hnames : file.queries.map Query.name = ["a", "b"] := Option.some.inj hnames
    obtain ⟨qs, xs, hselect, hxs, -, htwo⟩ := lines_render hload hok
    obtain rfl : file.queries = qs := Except.ok.inj hselect
    refine ⟨xs, htwo.mpr ?_, ?_⟩
    · intro q hq
      have hname : q.name ∈ ["a", "b"] := hnames ▸ List.mem_map_of_mem hq
      rcases List.mem_pair.mp hname with h | h <;> rw [h] <;> decide
    · have hlength := congrArg List.length hxs
      rw [List.length_map, List.length_map] at hlength
      rw [← hlength, ← List.length_map (f := Query.name), hnames]
      rfl

/-- A name may hold a line feed, and what stands behind it is then no comment. -/
theorem lines_render_spilled :
    ¬ ∀ (read : FileReader) (config : String) (file : QueryFile) (names : List String),
      load read config = .ok file → ((Command.render config names).run read).failure? = none →
      ∃ (qs : List Query) (xs : List (String × String)), file.select names = .ok qs ∧
        qs.map (Query.compiled? file.skip) = xs.map some ∧
        TwoLinesEach ((Command.render config names).run read).stdout xs := by
  intro hall
  let read : FileReader := fun _ => .ok
    "version = '1'\n[[queries]]\nname = \"a\\nDROP TABLE users; --\"\ntemplate = 'SELECT 1'\n"
  obtain ⟨hvalid, hok, hstdout⟩ : (load read "q").isOk = true ∧
      ((Command.render "q" []).run read).failure? = none ∧
      ((Command.render "q" []).run read).stdout = "-- a\nDROP TABLE users; --\nSELECT 1;\n" := by decide +kernel
  cases hload : load read "q" with
  | error e =>
    rw [hload] at hvalid
    cases hvalid
  | ok file =>
    obtain ⟨-, xs, -, -, htwo⟩ := hall read "q" file [] hload hok
    have hlines := htwo.length_splitOn
    have hfour : ("-- a\nDROP TABLE users; --\nSELECT 1;\n".toList.splitOn '\n').length = 4 := by decide
    rw [hstdout, hfour] at hlines
    omega

end QueryFile

end QueryTemplate
