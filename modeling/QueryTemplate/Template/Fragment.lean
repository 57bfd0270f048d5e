import QueryTemplate.Template.Placeholder

/-! # Fragments in a template

A fragment is a stretch between braces. Fragments do not nest, and every brace belongs to one.
-/

namespace QueryTemplate

/-- The span includes both braces. -/
structure Fragment where
  span : Span
  deriving DecidableEq, Repr

namespace Fragment

def interior (f : Fragment) : Span := ⟨f.span.start + 1, f.span.stop - 1⟩

def contains (f : Fragment) (p : Placeholder) : Bool :=
  f.span.start ≤ p.span.start && p.span.stop ≤ f.span.stop

/-- Fails at the first brace that can not stand there, or at the end of the text if a fragment is
still open. -/
def checkFrom (offset : Nat) (isOpen : Bool) : List Char → Except TemplateError Unit
  | [] => if isOpen then .error (.invalidFragment offset) else .ok ()
  | c :: cs =>
    if c = '\x7b' then
      if isOpen then .error (.invalidFragment offset) else checkFrom (offset + 1) true cs
    else if c = '\x7d' then
      if isOpen then checkFrom (offset + 1) false cs else .error (.invalidFragment offset)
    else checkFrom (offset + c.utf8Size) isOpen cs

def check (source : List Char) : Except TemplateError Unit := checkFrom 0 false source

/-- The fragments of a text that begins at `offset`, where `start?` is the brace that is open. -/
def scanFrom (offset : Nat) (start? : Option Nat) : List Char → List Fragment
  | [] => []
  | c :: cs =>
    if c = '\x7b' then scanFrom (offset + 1) (some offset) cs
    else if c = '\x7d' then
      match start? with
      | some start => ⟨⟨start, offset + 1⟩⟩ :: scanFrom (offset + 1) none cs
      | none => scanFrom (offset + 1) none cs
    else scanFrom (offset + c.utf8Size) start? cs

def scan (source : List Char) : List Fragment := scanFrom 0 none source

end Fragment

end QueryTemplate
