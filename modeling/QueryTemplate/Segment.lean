import QueryTemplate.Text.Blank

/-! # Segments: the output in order, joined into one line

Every run of blanks in the segments, also one that spans several of them, becomes one space, and none
is left at either end.
-/

namespace QueryTemplate

inductive Segment
  | text (cs : List Char)
  | value (cs : List Char)
  /-- The place of an elided fragment, which counts as a blank. -/
  | gap
  deriving DecidableEq, Repr

/-- The line written so far, last character first, and whether blanks have come since. -/
structure Line where
  reversed : List Char
  afterBlank : Bool
  deriving DecidableEq, Repr

namespace Line

def empty : Line := ⟨[], false⟩

/-- A blank is written, as one space, only when a character follows it and the line has begun. -/
def put (line : Line) (c : Char) : Line :=
  if isBlank c then { line with afterBlank := true }
  else if line.afterBlank && !line.reversed.isEmpty then ⟨c :: ' ' :: line.reversed, false⟩
  else ⟨c :: line.reversed, false⟩

def putSegment (line : Line) : Segment → Line
  | .text cs => cs.foldl put line
  | .value cs => cs.foldl put line
  | .gap => { line with afterBlank := true }

end Line

def joinSegments (segments : List Segment) : List Char :=
  (segments.foldl Line.putSegment Line.empty).reversed.reverse

end QueryTemplate
