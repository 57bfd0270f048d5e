import QueryTemplate.Segment

/-!
# Words of a line

Segments are written one character at a time, with one bit for the blanks that
are still owed. The line that results is the words of the whole output with one
space between (`joinSegments_eq`), however the segments cut it. A text with no
blank at its ends has its own place in it (`normalise_solid`).
-/

namespace QueryTemplate

/-- The longest stretches of characters that are not blank, in order. -/
def words (cs : List Char) : List (List Char) := (cs.splitOnP isBlank).filter (!·.isEmpty)

def normalise (cs : List Char) : List Char := [' '].intercalate (words cs)

/-- Every run of the characters in `p` becomes one space. -/
def collapse (p : Char → Bool) : List Char → List Char
  | [] => []
  | c :: cs =>
    if p c then (if cs.head?.any p then collapse p cs else ' ' :: collapse p cs)
    else c :: collapse p cs

def Segment.content : Segment → List Char
  | .text cs => cs
  | .value cs => cs
  | .gap => [' ']

theorem words_nil : words [] = [] := by simp [words]

theorem words_append_blank {b : Char} (hb : isBlank b = true) (xs ys : List Char) :
    words (xs ++ b :: ys) = words xs ++ words ys := by
  unfold words
  rw [List.splitOnP_append_cons xs ys hb, List.filter_append]

theorem words_cons_blank {b : Char} (hb : isBlank b = true) (ys : List Char) :
    words (b :: ys) = words ys := by
  have h := words_append_blank hb [] ys
  rwa [List.nil_append, words_nil, List.nil_append] at h

theorem words_cons_solid {c : Char} (hc : isBlank c = false) (cs : List Char) :
    words (c :: cs) =
      (c :: cs.takeWhile fun d => !isBlank d) :: words (cs.dropWhile fun d => !isBlank d) := by
  have hsolid : ∀ d ∈ c :: cs.takeWhile (fun d => !isBlank d), isBlank d = false := by
    intro d hd
    rcases List.mem_cons.mp hd with rfl | hd
    · exact hc
    · simpa using List.all_eq_true.mp (List.all_takeWhile (p := fun d => !isBlank d)) d hd
  have hsplit : c :: cs = (c :: cs.takeWhile fun d => !isBlank d) ++ cs.dropWhile fun d => !isBlank d := by
    rw [List.cons_append, List.takeWhile_append_dropWhile]
  cases hrest : cs.dropWhile fun d => !isBlank d with
  | nil =>
    rw [hrest, List.append_nil] at hsplit
    rw [hsplit, words, List.splitOnP_eq_singleton hsolid, words_nil]
    simp
  | cons b rest =>
    have hb : isBlank b = true := by
      have := List.head_dropWhile_not (fun d => !isBlank d) (l := cs) (by simp [hrest])
      simpa [hrest] using this
    rw [hrest] at hsplit
    rw [hsplit, words_append_blank hb, words_cons_blank hb, words, List.splitOnP_eq_singleton hsolid]
    simp

theorem ne_nil_of_mem_words {w cs : List Char} (h : w ∈ words cs) : w ≠ [] := by
  rintro rfl
  simp [words] at h

/-! ## Lines next to each other -/

theorem intercalate_space (w : List Char) (ws : List (List Char)) :
    [' '].intercalate (w :: ws) = w ++ ws.flatMap (' ' :: ·) := by
  induction ws generalizing w with
  | nil => simp
  | cons v ws ih => simp [List.intercalate_cons_cons, ih]

/-- A blank between two texts is a space between their lines, where each of them has a word. -/
theorem normalise_append_blank {b : Char} (hb : isBlank b = true) (xs ys : List Char) :
    normalise (xs ++ b :: ys) = [' '].intercalate ([normalise xs, normalise ys].filter (!·.isEmpty)) := by
  unfold normalise
  rw [words_append_blank hb]
  cases hx : words xs with
  | nil =>
    cases hy : words ys with
    | nil => rfl
    | cons w ws =>
      have hw : w ≠ [] := ne_nil_of_mem_words (hy ▸ List.mem_cons_self ..)
      simp [intercalate_space, hw]
  | cons v vs =>
    have hv : v ≠ [] := ne_nil_of_mem_words (hx ▸ List.mem_cons_self ..)
    cases hy : words ys with
    | nil => simp [intercalate_space, hv]
    | cons w ws =>
      have hw : w ≠ [] := ne_nil_of_mem_words (hy ▸ List.mem_cons_self ..)
      simp [intercalate_space, hv, hw]

theorem ofList_intercalate_space (lines : List (List Char)) :
    String.ofList ([' '].intercalate lines) = " ".intercalate (lines.map String.ofList) := by
  rw [← String.toList_inj, String.toList_ofList, String.toList_intercalate, List.map_map]
  simp [Function.comp_def]

theorem ofList_normalise_append_blank {b : Char} (hb : isBlank b = true) (xs ys : List Char) :
    String.ofList (normalise (xs ++ b :: ys)) =
      " ".intercalate ([String.ofList (normalise xs), String.ofList (normalise ys)].filter (· ≠ "")) := by
  have hne (cs : List Char) : decide (String.ofList cs ≠ "") = !cs.isEmpty := by
    cases cs <;> simp
  have hlines : [String.ofList (normalise xs), String.ofList (normalise ys)] =
      [normalise xs, normalise ys].map String.ofList := rfl
  rw [normalise_append_blank hb, ofList_intercalate_space, hlines, List.filter_map]
  simp only [Function.comp_def, hne]

/-! ## What a line appends -/

/-- What a line appends for a text, where `begun` says that the line has a
character and `owed` that blanks have come since. -/
def squeeze (begun owed : Bool) : List Char → List Char
  | [] => []
  | c :: cs =>
    if isBlank c then squeeze begun true cs
    else if begun && owed then ' ' :: c :: squeeze true false cs
    else c :: squeeze true false cs

theorem squeeze_cons {c : Char} (hc : isBlank c = false) (begun owed : Bool) (cs : List Char) :
    squeeze begun owed (c :: cs) = (if begun && owed then [' '] else []) ++ c :: squeeze true false cs := by
  cases begun <;> cases owed <;> simp [squeeze, hc]

theorem foldl_put (cs : List Char) (line : Line) :
    (cs.foldl Line.put line).reversed.reverse =
      line.reversed.reverse ++ squeeze (!line.reversed.isEmpty) line.afterBlank cs := by
  induction cs generalizing line with
  | nil => simp [squeeze]
  | cons c cs ih =>
    rw [List.foldl_cons, ih]
    by_cases hc : isBlank c = true
    · simp [Line.put, squeeze, hc]
    · by_cases ho : (line.afterBlank && !line.reversed.isEmpty) = true
      · simp [Line.put, squeeze, hc, ho, Bool.and_comm]
      · simp [Line.put, squeeze, hc, ho, Bool.and_comm]

theorem squeeze_begun (cs : List Char) :
    squeeze true true cs = (words cs).flatMap (' ' :: ·) ∧
      squeeze true false cs = (cs.takeWhile fun d => !isBlank d) ++
        (words (cs.dropWhile fun d => !isBlank d)).flatMap (' ' :: ·) := by
  induction cs with
  | nil => simp [squeeze, words_nil]
  | cons c cs ih =>
    by_cases hc : isBlank c = true
    · simp [squeeze, hc, words_cons_blank hc, ih.1]
    · have hc : isBlank c = false := by simpa using hc
      simp [squeeze, hc, words_cons_solid hc, ih.2]

/-- A line that has not begun owes no space. -/
theorem squeeze_start (owed : Bool) (cs : List Char) : squeeze false owed cs = normalise cs := by
  induction cs generalizing owed with
  | nil => simp [squeeze, normalise, words_nil]
  | cons c cs ih =>
    by_cases hc : isBlank c = true
    · simp [squeeze, hc, ih, normalise, words_cons_blank hc]
    · have hc : isBlank c = false := by simpa using hc
      simp [squeeze, hc, (squeeze_begun cs).2, normalise, words_cons_solid hc, intercalate_space]

theorem eq_space_of_mem_squeeze {c : Char} (hc : isBlank c = true) {begun owed : Bool} {cs : List Char}
    (h : c ∈ squeeze begun owed cs) : c = ' ' := by
  induction cs generalizing begun owed with
  | nil => cases h
  | cons d cs ih =>
    rw [squeeze] at h
    split at h
    · exact ih h
    · rename_i hd
      have hcd : c ≠ d := fun he => hd (he ▸ hc)
      split at h
      · rcases List.mem_cons.mp h with rfl | h
        · rfl
        · exact ih ((List.mem_cons.mp h).resolve_left hcd)
      · exact ih ((List.mem_cons.mp h).resolve_left hcd)

theorem newline_not_mem_normalise (cs : List Char) : '\n' ∉ normalise cs := by
  intro h
  rw [← squeeze_start false] at h
  exact absurd (eq_space_of_mem_squeeze (by decide) h) (by decide)

/-! ## Runs of blanks -/

theorem squeeze_solid {cs : List Char} (hne : cs ≠ []) (hs : ∀ c ∈ cs, isBlank c = false) (owed : Bool)
    (ds : List Char) :
    squeeze true owed (cs ++ ds) = (if owed then [' '] else []) ++ (cs ++ squeeze true false ds) := by
  induction cs generalizing owed with
  | nil => exact (hne rfl).elim
  | cons c cs ih =>
    have hrest : squeeze true false (cs ++ ds) = cs ++ squeeze true false ds := by
      cases cs with
      | nil => rfl
      | cons d cs => exact ih (List.cons_ne_nil d cs) (fun e he => hs e (List.mem_cons_of_mem _ he)) false
    rw [List.cons_append, squeeze_cons (hs c (List.mem_cons_self ..)), hrest]
    rfl

/-- Where the characters in `p` alone stand for blanks, each of them for itself, the runs of these
become one space. An owed space is written before the character that ends a run. -/
theorem squeeze_flatMap {p : Char → Bool} {f : Char → List Char}
    (hblank : ∀ c, p c = true → f c = [c] ∧ isBlank c = true)
    (hsolid : ∀ c, p c = false → f c ≠ [] ∧ ∀ d ∈ f c, isBlank d = false) (hspace : f ' ' = [' '])
    {m : Char} (hm : isBlank m = false) (body cs : List Char) (owed : Bool) :
    squeeze true owed (body.flatMap f ++ m :: cs) =
      (if owed && !body.head?.any p then [' '] else []) ++
        ((collapse p body).flatMap f ++ m :: squeeze true false cs) := by
  induction body generalizing owed with
  | nil => simp [squeeze_cons hm, collapse]
  | cons c body ih =>
    rw [List.flatMap_cons, List.append_assoc]
    cases hc : p c with
    | true =>
      -- A blank is owed until the run of blanks ends.
      obtain ⟨hf, hb⟩ := hblank c hc
      rw [hf, List.singleton_append, squeeze, if_pos hb, ih]
      cases hh : body.head?.any p <;> simp [collapse, hc, hh, hspace]
    | false =>
      obtain ⟨hne, hs⟩ := hsolid c hc
      rw [squeeze_solid hne hs, ih]
      simp [collapse, hc]

/-! ## Texts with solid ends -/

/-- A text that is not empty and has no blank at either end. -/
structure Solid (cs : List Char) : Prop where
  first : ∃ c ∈ cs.head?, isBlank c = false
  last : ∃ c ∈ cs.getLast?, isBlank c = false

theorem collapse_concat {p : Char → Bool} {m : Char} (hm : p m = false) (cs : List Char) :
    collapse p (cs ++ [m]) = collapse p cs ++ [m] := by
  induction cs with
  | nil => simp [collapse, hm]
  | cons c cs ih =>
    rw [List.cons_append, collapse, collapse, ih]
    cases cs with
    | nil => cases p c <;> simp [hm]
    | cons d cs => cases p c <;> cases hd : p d <;> simp [hd]

theorem squeeze_append_solid {cs : List Char} (h : Solid cs) (begun owed : Bool) (ds : List Char) :
    squeeze begun owed (cs ++ ds) =
      (if begun && owed then [' '] else []) ++ (collapse isBlank cs ++ squeeze true false ds) := by
  obtain ⟨c, hc, hsolid⟩ := h.first
  obtain ⟨m, hm, hend⟩ := h.last
  obtain ⟨rest, rfl⟩ := List.head?_eq_some_iff.mp hc
  have hrest : squeeze true false (rest ++ ds) = collapse isBlank rest ++ squeeze true false ds := by
    rcases List.eq_nil_or_concat rest with rfl | ⟨body, d, rfl⟩
    · rfl
    · obtain rfl : d = m := by simpa [List.getLast?_cons] using hm
      have hbody := squeeze_flatMap (f := fun c => [c]) (fun c hb => ⟨rfl, hb⟩) (fun c hb => by simp [hb]) rfl hend
        body ds false
      simpa [List.flatMap_singleton', collapse_concat hend] using hbody
  rw [List.cons_append, squeeze_cons hsolid, hrest]
  simp [collapse, hsolid]

theorem squeeze_append (xs : List Char) (begun owed : Bool) :
    ∃ b o, ∀ ys, squeeze begun owed (xs ++ ys) = squeeze begun owed xs ++ squeeze b o ys := by
  induction xs generalizing begun owed with
  | nil => exact ⟨begun, owed, fun _ => rfl⟩
  | cons c xs ih =>
    by_cases hc : isBlank c = true
    · obtain ⟨b, o, h⟩ := ih begun true
      refine ⟨b, o, fun ys => ?_⟩
      simp only [List.cons_append, squeeze, if_pos hc, h]
    · obtain ⟨b, o, h⟩ := ih true false
      refine ⟨b, o, fun ys => ?_⟩
      have hc : isBlank c = false := by simpa using hc
      simp only [List.cons_append, squeeze_cons hc, h, List.append_assoc]

/-- A solid text has its own place in a line. -/
theorem normalise_solid (xs ys : List Char) :
    ∃ before after, ∀ cs, Solid cs → normalise (xs ++ (cs ++ ys)) = before ++ (collapse isBlank cs ++ after) := by
  obtain ⟨begun, owed, h⟩ := squeeze_append xs false false
  refine ⟨squeeze false false xs ++ (if begun && owed then [' '] else []), squeeze true false ys, ?_⟩
  intro cs hcs
  rw [← squeeze_start false, h, squeeze_append_solid hcs, List.append_assoc]

/-! ## Segments -/

theorem foldl_putSegment (segments : List Segment) (line : Line) :
    segments.foldl Line.putSegment line = (segments.flatMap Segment.content).foldl Line.put line := by
  induction segments generalizing line with
  | nil => rfl
  | cons s segments ih =>
    rw [List.foldl_cons, ih, List.flatMap_cons, List.foldl_append]
    congr 1
    cases s with
    | text cs => rfl
    | value cs => rfl
    | gap =>
      have hs : isBlank ' ' = true := by decide
      simp [Line.putSegment, Segment.content, Line.put, hs]

/-- **A joined line** is the words of what the segments say together. -/
theorem joinSegments_eq (segments : List Segment) :
    joinSegments segments = normalise (segments.flatMap Segment.content) := by
  rw [joinSegments, foldl_putSegment, foldl_put]
  exact squeeze_start _ _

end QueryTemplate
