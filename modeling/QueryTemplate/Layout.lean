import QueryTemplate.Rendering
import QueryTemplate.Segment
import QueryTemplate.Template

/-! # Layout: what becomes of each piece of a template

The source falls into pieces: text between placeholders, the placeholders, the braces of fragments
that are kept, and fragments that are elided. A fragment is elided as a whole when an argument inside
it is skipped; a skipped placeholder outside every fragment is dropped on its own.
-/

namespace QueryTemplate

abbrev Filled := Placeholder × Rendering

inductive Piece
  | text (span : Span)
  | placeholder (span : Span) (rendering : Rendering)
  | brace (span : Span)
  | elided (span : Span) (placeholders : Nat)
  deriving DecidableEq, Repr

namespace Piece

def span : Piece → Span
  | .text span => span
  | .placeholder span _ => span
  | .brace span => span
  | .elided span _ => span

def segment? (source : List Char) : Piece → Option Segment
  | .text span => some (.text (span.slice source))
  | .placeholder _ (.sql s) => some (.value s.toList)
  | .placeholder _ .skip => none
  | .brace _ => none
  | .elided _ _ => some .gap

end Piece

namespace Fragment

def inside (f : Fragment) (all : List Filled) : List Filled := all.filter fun x => f.contains x.1

def isElided (f : Fragment) (all : List Filled) : Bool := (f.inside all).any fun x => x.2.isSkip

end Fragment

namespace Layout

def startsBefore (stop : Nat) (x : Filled) : Bool := x.1.span.start < stop

def splitAt (stop : Nat) (pending : List Filled) : List Filled × List Filled :=
  (pending.takeWhile (startsBefore stop), pending.dropWhile (startsBefore stop))

/-- The pieces from `cursor` to `stop` when `filled` are the placeholders between. -/
def copy (cursor stop : Nat) : List Filled → List Piece
  | [] => [.text ⟨cursor, stop⟩]
  | (p, r) :: filled =>
    .text ⟨cursor, p.span.start⟩ :: .placeholder p.span r :: copy p.span.stop stop filled

/-- The pieces of a fragment, where `filled` are the placeholders that begin before its end. -/
def fragment (all : List Filled) (f : Fragment) (filled : List Filled) : List Piece :=
  if f.isElided all then [.elided f.span (f.inside all).length]
  else
    .brace ⟨f.span.start, f.interior.start⟩ ::
      (copy f.interior.start f.interior.stop filled ++ [.brace ⟨f.interior.stop, f.span.stop⟩])

/-- The pieces from `cursor` to the end of the source, where `pending` are the placeholders that no
piece has taken yet. -/
def pieces (all : List Filled) (size cursor : Nat) : List Fragment → List Filled → List Piece
  | [], pending => copy cursor size pending
  | f :: fs, pending =>
    let (before, pending) := splitAt f.span.start pending
    let (within, pending) := splitAt f.span.stop pending
    copy cursor f.span.start before ++ fragment all f within ++ pieces all size f.span.stop fs pending

end Layout

namespace Template

def layout (t : Template) (renderings : List Rendering) : List Piece :=
  let all := t.placeholders.zip renderings
  Layout.pieces all t.source.utf8ByteSize 0 t.fragments all

end Template

def assemble (source : String) (pieces : List Piece) : String :=
  String.ofList (joinSegments (pieces.filterMap (Piece.segment? source.toList)))

end QueryTemplate
