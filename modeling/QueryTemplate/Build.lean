import QueryTemplate.Layout
import QueryTemplate.Trace

/-! # Building SQL from a template and its arguments -/

namespace QueryTemplate

namespace Piece

def event? : Piece → Option Event
  | .elided span placeholders => some (.elidedFragment span.start span.stop placeholders)
  | _ => none

end Piece

namespace Template

section
variable (E : Escaper)

/-- Every argument is rendered before any fragment is elided, and the first that fails decides. -/
def renderArgs (t : Template) (args : List Arg) : Except TemplateError (List Rendering) :=
  if args.length = t.arity then
    (t.placeholders.zip args).mapM fun (p, a) => a.render E p.kind
  else .error (.argumentCount t.arity args.length)

def renderTraced (t : Template) (args : List Arg) : Traced (Except TemplateError String) :=
  match t.renderArgs E args with
  | .error e => ⟨.error e, []⟩
  | .ok renderings =>
    let pieces := t.layout renderings
    let sql := assemble t.source pieces
    let elisions := pieces.filterMap Piece.event?
    ⟨.ok sql, elisions ++
      [.compiledTemplate t.arity t.fragments.length elisions.length sql.utf8ByteSize]⟩

def render (t : Template) (args : List Arg) : Except TemplateError String :=
  (t.renderTraced E args).result

end

end Template

section
variable (E : Escaper)

/-- Parses and renders. A malformed template is reported whatever the arguments are. -/
def buildTraced (source : String) (args : List Arg) : Traced (Except TemplateError String) :=
  match Template.parse source with
  | .error e => ⟨.error e, []⟩
  | .ok t => t.renderTraced E args

def build (source : String) (args : List Arg) : Except TemplateError String :=
  (buildTraced E source args).result

end

end QueryTemplate
