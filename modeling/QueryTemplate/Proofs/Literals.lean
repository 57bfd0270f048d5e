import QueryTemplate.Escaper
import QueryTemplate.Proofs.Words

/-!
# Literals in a line of SQL

A reader goes through SQL one character at a time and finds the string literals
and the quoted names in it. A text is `Spelled` when every literal of it stands
between its marks with the escapes of its quote. Of such a text the reader finds
the literals (`Spelled.read`), and where its blanks are squeezed, theirs are too
(`Spelled.squeeze`).
-/

namespace QueryTemplate

inductive Quote
  | text
  | name
  deriving DecidableEq, Repr

namespace Quote

def mark : Quote → Char
  | .text => '\''
  | .name => '\x60'

end Quote

def isMark (c : Char) : Bool := c == Quote.mark .text || c == Quote.mark .name

namespace Quote

def escape : Quote → Char → List Char
  | .text => Escaper.backslash
  | .name => doubleBacktick

/-- The blanks that stand for themselves between the marks. -/
def isLoose : Quote → Char → Bool
  | .text, c => isBlank c && c != '\n' && c != '\r'
  | .name, c => isBlank c

end Quote

structure Literal where
  quote : Quote
  body : List Char
  deriving DecidableEq, Repr

/-- Every run of blanks, those behind an escape apart, as one space. -/
def Literal.squeezed (l : Literal) : Literal := ⟨l.quote, collapse l.quote.isLoose l.body⟩

/-! ## The reader -/

def unescape : Char → Char
  | '0' => '\x00'
  | 'n' => '\n'
  | 'r' => '\r'
  | 'Z' => '\x1a'
  | c => c

/-- Where the reader stands, with what it has read of a literal. After a mark the
literal is over unless the same mark follows. -/
inductive Mode
  | outside
  | inside (q : Quote) (body : List Char)
  | afterBackslash (body : List Char)
  | afterMark (q : Quote) (body : List Char)
  deriving DecidableEq, Repr

namespace Mode

def enter (c : Char) : Mode :=
  if c = Quote.mark .text then .inside .text []
  else if c = Quote.mark .name then .inside .name []
  else .outside

/-- One character further, with the literal that is over before it. -/
def step : Mode → Char → Mode × Option Literal
  | .outside, c => (enter c, none)
  | .inside q body, c =>
    if c = q.mark then (.afterMark q body, none)
    else if q = .text ∧ c = '\\' then (.afterBackslash body, none)
    else (.inside q (body ++ [c]), none)
  | .afterBackslash body, c => (.inside .text (body ++ [unescape c]), none)
  | .afterMark q body, c =>
    if c = q.mark then (.inside q (body ++ [c]), none) else (enter c, some ⟨q, body⟩)

def finish : Mode → Option (List Literal)
  | .outside => some []
  | .afterMark q body => some [⟨q, body⟩]
  | .inside _ _ => none
  | .afterBackslash _ => none

def read (m : Mode) : List Char → Option (List Literal)
  | [] => m.finish
  | c :: cs => ((m.step c).1.read cs).map ((m.step c).2.toList ++ ·)

end Mode

/-- The literals of a text, unless it ends inside one. -/
def literals (cs : List Char) : Option (List Literal) := Mode.outside.read cs

/-! ## Texts with literals -/

def Unmarked (cs : List Char) : Prop := ∀ c ∈ cs, isMark c = false

instance (cs : List Char) : Decidable (Unmarked cs) :=
  decidable_of_iff (cs.all fun c => !isMark c) (by simp [Unmarked])

def Bare (cs : List Char) : Prop := ∀ c ∈ cs.head?, isMark c = false

/-- A text outside literals, with these literals in it, each between its marks. -/
inductive Spelled : List Char → List Literal → Prop
  | nil : Spelled [] []
  | plain {c cs ls} : isMark c = false → Spelled cs ls → Spelled (c :: cs) ls
  | literal {q body cs ls} : cs.head? ≠ some (Quote.mark q) → Spelled cs ls →
      Spelled (q.mark :: (body.flatMap q.escape ++ q.mark :: cs)) (⟨q, body⟩ :: ls)

theorem isMark_mark (q : Quote) : isMark q.mark = true := by
  cases q <;> decide

theorem isMark_space : isMark ' ' = false := by decide

theorem ne_mark {c : Char} (h : isMark c = false) (q : Quote) : c ≠ q.mark := by
  rintro rfl
  rw [isMark_mark] at h
  cases h

theorem bare_cons {c : Char} {cs : List Char} : Bare (c :: cs) ↔ isMark c = false := by
  simp [Bare]

theorem Bare.head?_ne {cs : List Char} (h : Bare cs) (q : Quote) : cs.head? ≠ some q.mark :=
  fun hc => ne_mark (h _ hc) q rfl

theorem Spelled.append {xs ys : List Char} {ls ms : List Literal} (hx : Spelled xs ls) (hy : Spelled ys ms)
    (hbare : Bare ys) : Spelled (xs ++ ys) (ls ++ ms) := by
  induction hx with
  | nil => exact hy
  | plain hc _ ih => exact .plain hc ih
  | @literal q body cs ls hend _ ih =>
    have hend' : (cs ++ ys).head? ≠ some q.mark := by
      cases cs with
      | nil => exact hbare.head?_ne q
      | cons c cs => exact hend
    rw [List.cons_append, List.append_assoc, List.cons_append]
    exact .literal hend' ih

theorem Spelled.after_unmarked {xs ys : List Char} {ls : List Literal} (hx : Unmarked xs) (hy : Spelled ys ls) :
    Spelled (xs ++ ys) ls := by
  induction xs with
  | nil => exact hy
  | cons c xs ih => exact .plain (hx c (List.mem_cons_self ..)) (ih fun d hd => hx d (List.mem_cons_of_mem _ hd))

theorem spelled_of_unmarked {cs : List Char} (h : Unmarked cs) : Spelled cs [] := by
  rw [← List.append_nil cs]
  exact Spelled.nil.after_unmarked h

/-! ## Reading them -/

theorem backslash_cases (c : Char) :
    (Escaper.backslash c = [c] ∧ c ≠ '\\' ∧ c ≠ '\'' ∧ c ≠ '\n' ∧ c ≠ '\r') ∨
      (Quote.text.isLoose c = false ∧
        ∃ d, Escaper.backslash c = ['\\', d] ∧ unescape d = c ∧ isBlank d = false) := by
  unfold Escaper.backslash
  split
  · exact .inr ⟨by decide, '0', rfl, rfl, by decide⟩
  · exact .inr ⟨by decide, 'n', rfl, rfl, by decide⟩
  · exact .inr ⟨by decide, 'r', rfl, rfl, by decide⟩
  · exact .inr ⟨by decide, '\\', rfl, rfl, by decide⟩
  · exact .inr ⟨by decide, '\'', rfl, rfl, by decide⟩
  · exact .inr ⟨by decide, '"', rfl, rfl, by decide⟩
  · exact .inr ⟨by decide, 'Z', rfl, rfl, by decide⟩
  · rename_i _ hn hr hb hq _ _
    exact .inl ⟨rfl, hb, hq, hn, hr⟩

namespace Quote

/-- A character stands for itself, or is doubled, or stands behind a backslash. -/
theorem escape_cases (q : Quote) (c : Char) :
    (q.escape c = [c] ∧ c ≠ q.mark ∧ (q = .text → c ≠ '\\') ∧ q.isLoose c = isBlank c) ∨
      (q = .name ∧ c = q.mark ∧ q.escape c = [c, c]) ∨
      (q = .text ∧ q.isLoose c = false ∧ ∃ d, q.escape c = ['\\', d] ∧ unescape d = c ∧ isBlank d = false) := by
  cases q with
  | name =>
    by_cases hc : c = '\x60'
    · exact .inr (.inl ⟨rfl, hc, by simp [escape, doubleBacktick, hc]⟩)
    · exact .inl ⟨by simp [escape, doubleBacktick, hc], hc, fun h => (by cases h), rfl⟩
  | text =>
    rcases backslash_cases c with ⟨he, hb, hq, hn, hr⟩ | ⟨hl, hd⟩
    · refine .inl ⟨he, hq, fun _ => hb, ?_⟩
      rw [isLoose, bne_iff_ne.mpr hn, bne_iff_ne.mpr hr, Bool.and_true, Bool.and_true]
    · exact .inr (.inr ⟨rfl, hl, hd⟩)

theorem isBlank_mark (q : Quote) : isBlank q.mark = false := by
  cases q <;> decide

theorem escape_of_isLoose {q : Quote} {c : Char} (h : q.isLoose c = true) :
    q.escape c = [c] ∧ isBlank c = true := by
  rcases q.escape_cases c with ⟨he, -, -, hl⟩ | ⟨rfl, rfl, he⟩ | ⟨-, hl, -⟩
  · exact ⟨he, hl.symm.trans h⟩
  · cases h
  · rw [hl] at h
    cases h

theorem solid_of_not_isLoose {q : Quote} {c : Char} (h : q.isLoose c = false) :
    q.escape c ≠ [] ∧ ∀ d ∈ q.escape c, isBlank d = false := by
  have hb : isBlank '\\' = false := by decide
  rcases q.escape_cases c with ⟨he, -, -, hl⟩ | ⟨-, rfl, he⟩ | ⟨-, -, d, he, -, hd⟩
  · simp [he, ← hl, h]
  · simp [he, isBlank_mark]
  · simp [he, hb, hd]

theorem escape_space (q : Quote) : q.escape ' ' = [' '] := by
  cases q <;> decide

end Quote

namespace Mode

theorem read_cons (m : Mode) (c : Char) (cs : List Char) :
    m.read (c :: cs) = ((m.step c).1.read cs).map ((m.step c).2.toList ++ ·) := rfl

theorem read_silent {m n : Mode} {c : Char} (h : m.step c = (n, none)) (cs : List Char) :
    m.read (c :: cs) = n.read cs := by
  rw [read_cons, h]
  simp

theorem read_escape (q : Quote) (body : List Char) (c : Char) (cs : List Char) :
    (inside q body).read (q.escape c ++ cs) = (inside q (body ++ [c])).read cs := by
  rcases q.escape_cases c with ⟨he, hm, hb, -⟩ | ⟨rfl, rfl, he⟩ | ⟨rfl, -, d, he, rfl, -⟩
  · rw [he, List.singleton_append]
    refine read_silent ?_ cs
    have hb' : ¬ (q = .text ∧ c = '\\') := fun h => hb h.1 h.2
    rw [step, if_neg hm, if_neg hb']
  · rw [he, List.cons_append, List.cons_append]
    exact (read_silent rfl _).trans (read_silent rfl _)
  · rw [he, List.cons_append, List.cons_append]
    exact (read_silent rfl _).trans (read_silent rfl _)

theorem read_body (q : Quote) (start body cs : List Char) :
    (inside q start).read (body.flatMap q.escape ++ cs) = (inside q (start ++ body)).read cs := by
  induction body generalizing start with
  | nil => rw [List.flatMap_nil, List.nil_append, List.append_nil]
  | cons c body ih =>
    rw [List.flatMap_cons, List.append_assoc, read_escape, ih, List.append_assoc, List.singleton_append]

theorem read_afterMark {q : Quote} {cs : List Char} (h : cs.head? ≠ some q.mark) (body : List Char) :
    (afterMark q body).read cs = (outside.read cs).map (⟨q, body⟩ :: ·) := by
  cases cs with
  | nil => rfl
  | cons c cs =>
    have hc : c ≠ q.mark := fun hc => h (congrArg some hc)
    have hstep : (afterMark q body).step c = (enter c, some ⟨q, body⟩) := by rw [step, if_neg hc]
    rw [read_cons, hstep, read_silent rfl]
    rfl

theorem enter_mark (q : Quote) : enter q.mark = inside q [] := by
  cases q <;> rfl

theorem enter_plain {c : Char} (h : isMark c = false) : enter c = outside := by
  rw [enter, if_neg (ne_mark h .text), if_neg (ne_mark h .name)]

end Mode

/-- **The reader** finds the literals that are spelled, and ends outside them. -/
theorem Spelled.read {cs : List Char} {ls : List Literal} (h : Spelled cs ls) : literals cs = some ls := by
  unfold literals
  induction h with
  | nil => rfl
  | plain hc _ ih =>
    have hstep : Mode.outside.step _ = (.outside, none) := congrArg (·, none) (Mode.enter_plain hc)
    rw [Mode.read_silent hstep, ih]
  | @literal q body cs ls hend _ ih =>
    have hopen : Mode.outside.step q.mark = (.inside q [], none) := congrArg (·, none) (Mode.enter_mark q)
    have hclose : (Mode.inside q body).step q.mark = (.afterMark q body, none) := by rw [Mode.step, if_pos rfl]
    rw [Mode.read_silent hopen, Mode.read_body, List.nil_append, Mode.read_silent hclose,
      Mode.read_afterMark hend, ih]
    rfl

/-! ## Squeezing their blanks -/

theorem squeeze_body (q : Quote) (body cs : List Char) (owed : Bool) :
    squeeze true owed (body.flatMap q.escape ++ q.mark :: cs) =
      (if owed && !body.head?.any q.isLoose then [' '] else []) ++
        ((collapse q.isLoose body).flatMap q.escape ++ q.mark :: squeeze true false cs) :=
  squeeze_flatMap (fun _ => Quote.escape_of_isLoose) (fun _ => Quote.solid_of_not_isLoose) q.escape_space
    q.isBlank_mark body cs owed

theorem head?_squeeze_owed (cs : List Char) : (squeeze true true cs).head? ∈ [none, some ' '] := by
  induction cs with
  | nil => simp [squeeze]
  | cons c cs ih =>
    by_cases hc : isBlank c = true
    · rw [squeeze, if_pos hc]
      exact ih
    · simp [squeeze, hc]

theorem head?_squeeze {q : Quote} {cs : List Char} (h : cs.head? ≠ some q.mark) :
    (squeeze true false cs).head? ≠ some q.mark := by
  cases cs with
  | nil => exact h
  | cons c cs =>
    by_cases hc : isBlank c = true
    · have hspace : ' ' ≠ q.mark := by cases q <;> decide
      rw [squeeze, if_pos hc]
      intro hm
      have hmem := head?_squeeze_owed cs
      rw [hm] at hmem
      simp [hspace.symm] at hmem
    · simpa [squeeze, hc] using h

/-- **Squeezing blanks** keeps every literal between its marks. -/
theorem Spelled.squeeze {cs : List Char} {ls : List Literal} (h : Spelled cs ls) (begun owed : Bool) :
    Spelled (QueryTemplate.squeeze begun owed cs) (ls.map Literal.squeezed) := by
  have howed : ∀ {owes : Bool} {cs ls}, Spelled cs ls → Spelled ((if owes then [' '] else []) ++ cs) ls := by
    intro owes cs ls h
    cases owes with
    | false => exact h
    | true => exact .plain isMark_space h
  induction h generalizing begun owed with
  | nil => exact .nil
  | @plain c cs ls hc _ ih =>
    cases hb : isBlank c with
    | true =>
      rw [QueryTemplate.squeeze, if_pos hb]
      exact ih begun true
    | false =>
      rw [squeeze_cons hb]
      exact howed (.plain hc (ih true false))
  | @literal q body cs ls hend _ ih =>
    rw [squeeze_cons q.isBlank_mark, squeeze_body]
    exact howed (.literal (head?_squeeze hend) (ih true false))

theorem Spelled.normalise {cs : List Char} {ls : List Literal} (h : Spelled cs ls) :
    Spelled (QueryTemplate.normalise cs) (ls.map Literal.squeezed) := by
  rw [← squeeze_start false]
  exact h.squeeze false false

end QueryTemplate
