import QueryTemplate.Arg
import QueryTemplate.Template.Kind

/-! # What can be wrong with a template or its arguments -/

namespace QueryTemplate

/-- Offsets count bytes of UTF-8 from the start of the template. -/
inductive TemplateError
  | invalidFragment (offset : Nat)
  | invalidPlaceholder (token : String) (offset : Nat)
  | argumentCount (expected actual : Nat)
  | emptyColumnName
  | emptyCollection (kind : Kind)
  | deniedArgument (kind : Kind) (found : Arg.Shape)
  deriving DecidableEq, Repr

namespace TemplateError

def message : TemplateError → String
  | .invalidFragment offset => s!"Invalid fragment syntax at byte {offset}"
  | .invalidPlaceholder token offset => s!"Invalid placeholder '{token}' at byte {offset}"
  | .argumentCount expected actual =>
    s!"Argument count mismatch: template has {expected} placeholders, got {actual} arguments"
  | .emptyColumnName => "Column name can't be empty"
  | .emptyCollection kind => s!"Argument for '{kind.text}' can't be an empty collection"
  | .deniedArgument kind found => s!"Denied argument type {found.name} for '{kind.text}'"

def isSyntax : TemplateError → Bool
  | .invalidFragment _ | .invalidPlaceholder _ _ => true
  | _ => false

def isCount : TemplateError → Bool
  | .argumentCount _ _ => true
  | _ => false

def isArgument : TemplateError → Bool
  | .emptyColumnName | .emptyCollection _ | .deniedArgument _ _ => true
  | _ => false

end TemplateError

end QueryTemplate
