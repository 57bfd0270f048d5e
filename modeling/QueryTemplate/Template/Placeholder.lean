import QueryTemplate.Template.Error
import QueryTemplate.Text.Bytes
import QueryTemplate.Text.Word

/-! # Placeholders in a template

A placeholder is a question mark with the longest run of word characters and number signs after it.
-/

namespace QueryTemplate

structure Placeholder where
  span : Span
  kind : Kind
  deriving DecidableEq, Repr

def isTagChar (c : Char) : Bool := c == '#' || isWordChar c

def leadingTag (cs : List Char) : List Char := cs.takeWhile isTagChar

namespace Placeholder

def position (p : Placeholder) : Nat := p.span.start

/-- The placeholder at `offset` whose question mark is followed by `rest`. -/
def at? (offset : Nat) (rest : List Char) : Except TemplateError Placeholder :=
  let tag := leadingTag rest
  match Kind.ofTag? tag with
  | some kind => .ok ⟨⟨offset, offset + 1 + byteLength tag⟩, kind⟩
  | none => .error (.invalidPlaceholder (String.ofList ('?' :: tag)) offset)

/-- The placeholders of a text that begins at `offset`, or the first that is not well formed. A tag
holds no question mark, so going on right after the mark passes over it. -/
def scan (offset : Nat) : List Char → Except TemplateError (List Placeholder)
  | [] => .ok []
  | c :: cs =>
    if c = '?' then do
      let p ← at? offset cs
      let ps ← scan (offset + 1) cs
      return p :: ps
    else scan (offset + c.utf8Size) cs

end Placeholder

end QueryTemplate
