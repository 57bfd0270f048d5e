import QueryTemplate.Template.Fragment

/-! # Templates -/

namespace QueryTemplate

structure Template where
  source : String
  placeholders : List Placeholder
  fragments : List Fragment
  deriving DecidableEq, Repr

namespace Template

/-- A fault in the braces is found before one in the placeholders. -/
def parse (source : String) : Except TemplateError Template := do
  Fragment.check source.toList
  let placeholders ← Placeholder.scan 0 source.toList
  return ⟨source, placeholders, Fragment.scan source.toList⟩

def arity (t : Template) : Nat := t.placeholders.length

def slice (t : Template) (span : Span) : String := String.ofList (span.slice t.source.toList)

end Template

end QueryTemplate
