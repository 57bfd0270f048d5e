import QueryTemplate.Proofs.Literals
import QueryTemplate.Proofs.Renderings

/-!
# Collections read back

A list of values, of assignments or of names is text of a small grammar: items
with a comma between, where a text or a name stands between marks. In this
grammar no text can be read in two ways (`Listed.unique`), and what is written
for a collection reads as its own entries.
-/

namespace QueryTemplate

/-! ## The grammar -/

/-- What stands between two marks, with the text that it is read as. -/
inductive Body : Quote → List Char → List Char → Prop
  | nil {q} : Body q [] []
  | plain {q c cs ds} : c ≠ q.mark → (q = .text → c ≠ '\\') → Body q cs ds → Body q (c :: cs) (c :: ds)
  | doubled {cs ds} : Body .name cs ds → Body .name ('\x60' :: '\x60' :: cs) ('\x60' :: ds)
  | escaped {c cs ds} : Body .text cs ds → Body .text ('\\' :: c :: cs) (unescape c :: ds)

inductive Marked (q : Quote) : List Char → List Char → Prop
  | intro {cs ds} : Body q cs ds → Marked q (q.mark :: (cs ++ [q.mark])) ds

inductive Value
  | text (body : List Char)
  | number (digits : List Char)
  | null
  deriving DecidableEq, Repr

inductive Value.Written : List Char → Value → Prop
  | text {cs body} : Marked .text cs body → Written cs (.text body)
  | number {cs} : Signed cs → Written cs (.number cs)
  | null : Written ['N', 'U', 'L', 'L'] .null

structure Item where
  name? : Option (List Char)
  value : Value
  deriving DecidableEq, Repr

inductive Item.Written : List Char → Item → Prop
  | value {cs v} : Value.Written cs v → Written cs ⟨none, v⟩
  | assignment {ns name cs v} : Marked .name ns name → Value.Written cs v →
      Written (ns ++ ([' ', '=', ' '] ++ cs)) ⟨some name, v⟩

inductive Listed {β : Type} (item : List Char → β → Prop) : List Char → List β → Prop
  | single {cs b} : item cs b → Listed item cs [b]
  | cons {cs b ds bs} : item cs b → Listed item ds bs → Listed item (cs ++ ([',', ' '] ++ ds)) (b :: bs)

/-! ## What a collection is read as -/

namespace Arg

def value? : Arg → Option Value
  | .text s => some (.text s.toList)
  | .int n => some (.number (toString n.toInt).toList)
  | .bool b => some (.number [if b then '1' else '0'])
  | .float x => some (if x.isFinite then .number x.text.toList else .null)
  | .null => some .null
  | _ => none

/-- An entry of the collection has its key for a name if the collection is keyed. -/
def item? (a : Arg) (x : Option String × Arg) : Option Item :=
  x.2.value?.map fun v => ⟨if a.Keyed then x.1.map String.toList else none, v⟩

end Arg

/-! ## One way to read -/

/-- A comma or a space follows, or nothing. -/
def Ends (rest : List Char) : Prop := ∀ c ∈ rest.head?, c = ',' ∨ c = ' '

/-- Where a text ends that is read is decided by the text. -/
def Definite {β : Type} (item : List Char → β → Prop) : Prop :=
  ∀ ⦃cs cs' b b' rest rest'⦄, item cs b → item cs' b' → Ends rest → Ends rest' →
    cs ++ rest = cs' ++ rest' → b = b' ∧ rest = rest'

theorem ends_nil : Ends [] := by simp [Ends]

theorem ends_comma (cs : List Char) : Ends (',' :: cs) := by simp [Ends]

theorem ends_space (cs : List Char) : Ends (' ' :: cs) := by simp [Ends]

theorem Ends.head?_ne {rest : List Char} (h : Ends rest) (q : Quote) : rest.head? ≠ some q.mark := by
  intro hc
  rcases h _ hc with h | h <;> cases q <;> cases h

theorem Body.unique {q : Quote} {cs cs' ds ds' rest rest' : List Char} (h : Body q cs ds) (h' : Body q cs' ds')
    (hr : rest.head? ≠ some q.mark) (hr' : rest'.head? ≠ some q.mark)
    (he : cs ++ q.mark :: rest = cs' ++ q.mark :: rest') : ds = ds' ∧ rest = rest' := by
  -- Along the first reading: where the second takes another kind of step, the first characters
  -- differ, or a mark follows that ends the text.
  induction h generalizing cs' ds' with
  | nil =>
    cases h' with
    | nil => exact ⟨rfl, (List.cons.inj he).2⟩
    | plain hc => exact (hc (List.cons.inj he).1.symm).elim
    | doubled => exact (hr (congrArg List.head? (List.cons.inj he).2)).elim
    | escaped => exact absurd (List.cons.inj he).1 (by decide)
  | plain hc hb _ ih =>
    cases h' with
    | nil => exact (hc (List.cons.inj he).1).elim
    | plain _ _ hbody =>
      obtain ⟨rfl, htail⟩ := List.cons.inj he
      obtain ⟨rfl, h⟩ := ih hbody hr hr' htail
      exact ⟨rfl, h⟩
    | doubled => exact (hc (List.cons.inj he).1).elim
    | escaped => exact (hb rfl (List.cons.inj he).1).elim
  | doubled _ ih =>
    cases h' with
    | nil => exact (hr' (congrArg List.head? (List.cons.inj he).2).symm).elim
    | plain hc => exact (hc (List.cons.inj he).1.symm).elim
    | doubled hbody =>
      obtain ⟨rfl, h⟩ := ih hbody hr hr' (List.cons.inj (List.cons.inj he).2).2
      exact ⟨rfl, h⟩
  | escaped _ ih =>
    cases h' with
    | nil => exact absurd (List.cons.inj he).1 (by decide)
    | plain _ hb => exact (hb rfl (List.cons.inj he).1.symm).elim
    | escaped hbody =>
      obtain ⟨rfl, htail⟩ := List.cons.inj (List.cons.inj he).2
      obtain ⟨rfl, h⟩ := ih hbody hr hr' htail
      exact ⟨rfl, h⟩

theorem definite_marked (q : Quote) : Definite (Marked q) := by
  rintro cs cs' b b' rest rest' ⟨h⟩ ⟨h'⟩ hr hr' he
  simp only [List.cons_append, List.append_assoc, List.cons.injEq, true_and] at he
  exact h.unique h' (hr.head?_ne q) (hr'.head?_ne q) he

theorem Ends.not_isUnquotedChar {rest : List Char} (h : Ends rest) {c : Char} (hc : rest.head? = some c) :
    isUnquotedChar c = false := by
  rcases h c hc with rfl | rfl <;> decide

/-- A word without quotes ends where a comma or a space follows. -/
theorem word_unique {w w' rest rest' : List Char} (hw : ∀ c ∈ w, isUnquotedChar c = true)
    (hw' : ∀ c ∈ w', isUnquotedChar c = true) (hr : Ends rest) (hr' : Ends rest') (he : w ++ rest = w' ++ rest') :
    w = w' ∧ rest = rest' := by
  induction w generalizing w' with
  | nil =>
    cases w' with
    | nil => exact ⟨rfl, he⟩
    | cons d w' =>
      have hd := hr.not_isUnquotedChar (congrArg List.head? he)
      rw [hw' d (List.mem_cons_self ..)] at hd
      cases hd
  | cons c w ih =>
    cases w' with
    | nil =>
      have hc := hr'.not_isUnquotedChar (congrArg List.head? he.symm)
      rw [hw c (List.mem_cons_self ..)] at hc
      cases hc
    | cons d w' =>
      obtain ⟨rfl, htail⟩ := List.cons.inj he
      obtain ⟨rfl, hrest⟩ := ih (fun c hc => hw c (List.mem_cons_of_mem _ hc))
        (fun c hc => hw' c (List.mem_cons_of_mem _ hc)) htail
      exact ⟨rfl, hrest⟩

/-! ## Values and items -/

theorem Signed.isUnquotedChar {cs : List Char} (h : Signed cs) : ∀ c ∈ cs, isUnquotedChar c = true := by
  intro c hc
  rw [QueryTemplate.isUnquotedChar, h.chars hc]
  rfl

def Value.ofWord (cs : List Char) : Value := if cs = ['N', 'U', 'L', 'L'] then .null else .number cs

/-- A value stands between marks, or it is a word. -/
theorem Value.Written.marked_or_word {cs : List Char} {v : Value} (h : v.Written cs) :
    (∃ body, v = .text body ∧ Marked .text cs body) ∨
      (cs ≠ [] ∧ (∀ c ∈ cs, isUnquotedChar c = true) ∧ v = .ofWord cs) := by
  cases h with
  | text h => exact .inl ⟨_, rfl, h⟩
  | null => exact .inr ⟨List.cons_ne_nil _ _, unquoted_null.chars, rfl⟩
  | number h =>
    refine .inr ⟨h.ne_nil, h.isUnquotedChar, ?_⟩
    rw [ofWord, if_neg]
    rintro rfl
    exact absurd (h.chars (List.mem_cons_self ..)) (by decide)

theorem Value.Written.first {cs : List Char} {v : Value} (h : v.Written cs) : ∃ d ds, cs = d :: ds ∧ d ≠ '\x60' := by
  rcases h.marked_or_word with ⟨body, -, ⟨hb⟩⟩ | ⟨hne, hchars, -⟩
  · exact ⟨_, _, rfl, by decide⟩
  · obtain ⟨d, ds, rfl⟩ := List.exists_cons_of_ne_nil hne
    refine ⟨d, ds, rfl, ?_⟩
    rintro rfl
    exact absurd (hchars _ (List.mem_cons_self ..)) (by decide)

theorem marked_ne_word {q : Quote} {cs w body rest rest' : List Char} (h : Marked q cs body) (hne : w ≠ [])
    (hw : ∀ c ∈ w, isUnquotedChar c = true) : cs ++ rest ≠ w ++ rest' := by
  obtain ⟨d, w, rfl⟩ := List.exists_cons_of_ne_nil hne
  cases h with
  | intro =>
    intro he
    have hd := hw d (List.mem_cons_self ..)
    rw [← (List.cons.inj he).1] at hd
    cases q <;> exact absurd hd (by decide)

theorem definite_value : Definite Value.Written := by
  intro cs cs' v v' rest rest' h h' hr hr' he
  rcases h.marked_or_word with ⟨body, rfl, hm⟩ | ⟨hne, hw, rfl⟩
  · rcases h'.marked_or_word with ⟨body', rfl, hm'⟩ | ⟨hne', hw', rfl⟩
    · obtain ⟨rfl, hrest⟩ := definite_marked .text hm hm' hr hr' he
      exact ⟨rfl, hrest⟩
    · exact (marked_ne_word hm hne' hw' he).elim
  · rcases h'.marked_or_word with ⟨body', rfl, hm'⟩ | ⟨-, hw', rfl⟩
    · exact (marked_ne_word hm' hne hw he.symm).elim
    · obtain ⟨rfl, hrest⟩ := word_unique hw hw' hr hr' he
      exact ⟨rfl, hrest⟩

/-- An item with a name begins with a backtick, and no other does. -/
theorem definite_item : Definite Item.Written := by
  intro cs cs' b b' rest rest' h h' hr hr' he
  cases h with
  | value hv =>
    cases h' with
    | value hv' =>
      obtain ⟨rfl, hrest⟩ := definite_value hv hv' hr hr' he
      exact ⟨rfl, hrest⟩
    | assignment hn' _ =>
      obtain ⟨d, ds, rfl, hd⟩ := hv.first
      cases hn' with
      | intro => exact (hd (List.cons.inj he).1).elim
  | assignment hn hv =>
    cases h' with
    | value hv' =>
      obtain ⟨d, ds, rfl, hd⟩ := hv'.first
      cases hn with
      | intro => exact (hd (List.cons.inj he).1.symm).elim
    | assignment hn' hv' =>
      simp only [List.append_assoc] at he
      obtain ⟨rfl, htail⟩ := definite_marked .name hn hn' (ends_space _) (ends_space _) he
      have hvalues := List.append_cancel_left (show [' ', '=', ' '] ++ _ = [' ', '=', ' '] ++ _ from htail)
      obtain ⟨rfl, hrest⟩ := definite_value hv hv' hr hr' hvalues
      exact ⟨rfl, hrest⟩

theorem Listed.unique {β : Type} {item : List Char → β → Prop} (hitem : Definite item) {cs cs' : List Char}
    {bs bs' : List β} (h : Listed item cs bs) (h' : Listed item cs' bs') (he : cs = cs') : bs = bs' := by
  induction h generalizing cs' bs' with
  | @single cs b h =>
    rw [← List.append_nil cs] at he
    cases h' with
    | single h' =>
      rw [← List.append_nil cs'] at he
      obtain ⟨rfl, -⟩ := hitem h h' ends_nil ends_nil he
      rfl
    | cons h' _ => cases (hitem h h' ends_nil (ends_comma _) he).2
  | cons h _ ih =>
    cases h' with
    | single h' =>
      rw [← List.append_nil cs'] at he
      cases (hitem h h' (ends_comma _) ends_nil he).2
    | cons h' hbs' =>
      obtain ⟨rfl, htail⟩ := hitem h h' (ends_comma _) (ends_comma _) he
      rw [ih hbs' (List.append_cancel_left (show [',', ' '] ++ _ = [',', ' '] ++ _ from htail))]

/-! ## What is written -/

theorem body_escape (q : Quote) (cs : List Char) : Body q (cs.flatMap q.escape) cs := by
  induction cs with
  | nil => exact .nil
  | cons c cs ih =>
    rw [List.flatMap_cons]
    rcases q.escape_cases c with ⟨he, hc, hb, -⟩ | ⟨rfl, rfl, he⟩ | ⟨rfl, -, d, he, rfl, -⟩
    · rw [he]
      exact .plain hc hb ih
    · rw [he]
      exact .doubled ih
    · rw [he]
      exact .escaped ih

theorem marked_inQuotes (s : String) : Marked .text (inQuotes (Escaper.mySql.text s)).toList s.toList := by
  rw [inQuotes, String.toList_append, String.toList_append, Escaper.toList_mySql]
  exact .intro (body_escape .text s.toList)

theorem marked_inBackticks (s : String) : Marked .name (inBackticks (Escaper.mySql.identifier s)).toList s.toList := by
  have hi : (Escaper.mySql.identifier s).toList = s.toList.flatMap doubleBacktick := toList_escapeBackticks s
  rw [inBackticks, String.toList_append, String.toList_append, hi]
  exact .intro (body_escape .name s.toList)

theorem written_floatLiteral (x : Binary64) :
    Value.Written (floatLiteral x).toList (if x.isFinite then .number x.text.toList else .null) := by
  unfold floatLiteral
  by_cases hx : x.isFinite = true
  · rw [if_pos hx, if_pos hx]
    cases x with
    | finite negative m e =>
      rw [Binary64.text, String.toList_ofList]
      exact .number (signed_positional _)
    | _ => cases hx
  · rw [if_neg hx, if_neg hx]
    exact .null

namespace Arg

theorem written_scalar {kind : Kind} {a : Arg} {s : String} (h : a.scalar .mySql kind = .ok s) :
    ∃ v, a.value? = some v ∧ v.Written s.toList := by
  cases a with
  | text t =>
    obtain rfl := Except.ok.inj h
    exact ⟨_, rfl, .text (marked_inQuotes t)⟩
  | int n =>
    obtain rfl := Except.ok.inj h
    refine ⟨_, rfl, ?_⟩
    rw [← toList_integerLiteral, integerLiteral, String.toList_ofList]
    exact .number (signed_integerText _)
  | bool b =>
    obtain rfl := Except.ok.inj h
    refine ⟨_, rfl, ?_⟩
    cases b with
    | false => exact .number (signed_bool false)
    | true => exact .number (signed_bool true)
  | float x =>
    obtain rfl := Except.ok.inj h
    exact ⟨_, rfl, written_floatLiteral x⟩
  | null =>
    obtain rfl := Except.ok.inj h
    exact ⟨_, rfl, .null⟩
  | _ => cases h

theorem written_column {kind : Kind} {a : Arg} {s : String} (h : a.column .mySql kind = .ok s) :
    ∃ name, a.nameText? = some name ∧ Marked .name s.toList name := by
  obtain ⟨name, hn, rfl⟩ := column_eq_ok .mySql h
  exact ⟨_, hn, marked_inBackticks name⟩

theorem written_assignment {a : Arg} {x : Option String × Arg} {s : String}
    (h : assignment .mySql (isKeyed a.entries) x = .ok s) : ∃ i, a.item? x = some i ∧ i.Written s.toList := by
  rcases assignment_eq_ok .mySql h with ⟨k, name, value, hkeyed, hk, hn, hv, rfl⟩ | ⟨hplain, hs⟩
  · obtain ⟨ks, hks, hname⟩ := written_column hn
    obtain rfl : k.toList = ks := Option.some.inj hks
    obtain ⟨v, hv, hvalue⟩ := written_scalar hv
    refine ⟨⟨some k.toList, v⟩, by simp [item?, hk, hv, isKeyed_iff.mp hkeyed], ?_⟩
    rw [String.toList_append, String.toList_append, List.append_assoc]
    exact .assignment hname hvalue
  · obtain ⟨v, hv, hvalue⟩ := written_scalar hs
    refine ⟨⟨none, v⟩, ?_, .value hvalue⟩
    rcases hplain with hkeyed | hk
    · simp [item?, hv, isKeyed_eq_false_iff.mp hkeyed]
    · simp [item?, hv, hk]

/-- What is joined is read in one way, each part as what it is written for. -/
theorem read_join {α β : Type} {kind : Kind} {item : List Char → β → Prop} (hitem : Definite item) {xs : List α}
    {f : α → Except TemplateError String} {read? : α → Option β} {s : String}
    (hf : ∀ x s, f x = .ok s → ∃ b, read? x = some b ∧ item s.toList b)
    (h : (if xs.isEmpty then .error (.emptyCollection kind)
      else do return separator.intercalate (← xs.mapM f)) = .ok s) :
    ∃ bs, bs.map some = xs.map read? ∧ ∀ bs', Listed item s.toList bs' ↔ bs' = bs := by
  have hlisted : ∃ bs, bs.map some = xs.map read? ∧ Listed item s.toList bs := by
    apply join_induction (motive := fun xs cs => ∃ bs, bs.map some = xs.map read? ∧ Listed item cs bs) _ _ h
    · intro x s hx
      obtain ⟨b, hb, hs⟩ := hf x s hx
      exact ⟨[b], by simp [hb], .single hs⟩
    · intro x s xs cs hx ih
      obtain ⟨b, hb, hs⟩ := hf x s hx
      obtain ⟨bs, hbs, hcs⟩ := ih
      exact ⟨b :: bs, by simp [hb, hbs], .cons hs hcs⟩
  obtain ⟨bs, hbs, hread⟩ := hlisted
  refine ⟨bs, hbs, ?_⟩
  intro bs'
  constructor
  · intro h
    exact h.unique hitem hread rfl
  · rintro rfl
    exact hread

/-- **Collections can be read back**, as the entries that they are written for and as no others. -/
theorem read_back (a : Arg) (s : String) :
    (a.render .mySql .assignments = .ok (.sql s) →
      ∃ xs items, a.Entries xs ∧ items.map some = xs.map a.item? ∧
        ∀ items', Listed Item.Written s.toList items' ↔ items' = items) ∧
    (a.render .mySql .identifiers = .ok (.sql s) →
      ∃ xs names, a.Entries xs ∧ names.map some = xs.map (fun x => x.2.nameText?) ∧
        ∀ names', Listed (Marked .name) s.toList names' ↔ names' = names) := by
  have hentries : a.Entries a.entries := entries_iff.mpr rfl
  constructor
  · intro h
    have hs := literal_of_render .mySql h
    obtain ⟨items, hitems, hread⟩ := read_join definite_item (fun _ _ => written_assignment) hs
    exact ⟨_, items, hentries, hitems, hread⟩
  · intro h
    have hs := literal_of_render .mySql h
    obtain ⟨names, hnames, hread⟩ := read_join (definite_marked .name) (fun _ _ => written_column) hs
    exact ⟨_, names, hentries, hnames, hread⟩

/-- Marks and separators in the texts of a map, which is keyed, of a list and of names. -/
theorem read_back_delimiters :
    let pairs : Arg := .map [("a\x60 = b", .text "c', \\"), ("1", .null)]
    let values : Arg := .list [.text "', '", .int (-5), .bool true]
    let names : Arg := .list [.text ", ", .text "\x60, \x60"]
    (pairs.render .mySql .assignments = .ok (.sql "\x60a\x60\x60 = b\x60 = 'c\\', \\\\', \x601\x60 = NULL") ∧
      ∀ items, Listed Item.Written "\x60a\x60\x60 = b\x60 = 'c\\', \\\\', \x601\x60 = NULL".toList items ↔
        items = [⟨some "a\x60 = b".toList, .text "c', \\".toList⟩, ⟨some "1".toList, .null⟩]) ∧
    (values.render .mySql .assignments = .ok (.sql "'\\', \\'', -5, 1") ∧
      ∀ items, Listed Item.Written "'\\', \\'', -5, 1".toList items ↔
        items = [⟨none, .text "', '".toList⟩, ⟨none, .number "-5".toList⟩, ⟨none, .number "1".toList⟩]) ∧
    (names.render .mySql .identifiers = .ok (.sql "\x60, \x60, \x60\x60\x60, \x60\x60\x60") ∧
      ∀ names, Listed (Marked .name) "\x60, \x60, \x60\x60\x60, \x60\x60\x60".toList names ↔
        names = [", ".toList, "\x60, \x60".toList]) := by
  intro pairs values names
  refine ⟨⟨rfl, ?_⟩, ⟨rfl, ?_⟩, rfl, ?_⟩
  · obtain ⟨_, items, hxs, hitems, hread⟩ := (read_back pairs _).1 rfl
    obtain rfl := entries_iff.mp hxs
    obtain rfl : items = [⟨some "a\x60 = b".toList, .text "c', \\".toList⟩, ⟨some "1".toList, .null⟩] :=
      (List.map_inj_right fun _ _ => Option.some.inj).mp hitems
    exact hread
  · obtain ⟨_, items, hxs, hitems, hread⟩ := (read_back values _).1 rfl
    obtain rfl := entries_iff.mp hxs
    obtain rfl : items = [⟨none, .text "', '".toList⟩, ⟨none, .number "-5".toList⟩, ⟨none, .number "1".toList⟩] :=
      (List.map_inj_right fun _ _ => Option.some.inj).mp hitems
    exact hread
  · obtain ⟨_, found, hxs, hfound, hread⟩ := (read_back names _).2 rfl
    obtain rfl := entries_iff.mp hxs
    obtain rfl : found = [", ".toList, "\x60, \x60".toList] :=
      (List.map_inj_right fun _ _ => Option.some.inj).mp hfound
    exact hread

end Arg

end QueryTemplate
