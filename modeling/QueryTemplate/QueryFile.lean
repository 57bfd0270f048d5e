import QueryTemplate.Arg.OfJson
import QueryTemplate.Build
import QueryTemplate.Text.Blank
import QueryTemplate.Text.Quoted

/-! # Query files: named templates with their arguments -/

namespace QueryTemplate

structure Query where
  name : String
  template : String
  args : List Json

/-- `skip` is the token that stands for a skipped argument. -/
structure QueryFile where
  version : String
  skip : String
  queries : List Query

namespace Query

def arguments (skip : String) (q : Query) : List Arg := q.args.map (Arg.ofJson skip)

def renderTraced (skip : String) (q : Query) : Traced (Except TemplateError String) :=
  buildTraced Escaper.mySql q.template (q.arguments skip)

end Query

namespace QueryFile

def defaultSkip : String := "@skip"

def supportedVersion : String := "1"

inductive Fault
  | unsupportedVersion (version : String)
  | emptySkip
  | emptyName
  | duplicateName (name : String)
  deriving DecidableEq, Repr

def Fault.message : Fault → String
  | .unsupportedVersion version =>
    s!"unsupported version {quoted version} (expected {quoted supportedVersion})"
  | .emptySkip => "skip token must not be empty"
  | .emptyName => "query name must not be empty"
  | .duplicateName name => s!"duplicate query name: {name}"

/-- Names are neither blank nor repeated; `seen` are the names of the queries before. -/
def checkNames (seen : List String) : List Query → Except Fault Unit
  | [] => .ok ()
  | q :: qs =>
    if q.name.toList.all isBlank then .error .emptyName
    else if q.name ∈ seen then .error (.duplicateName q.name)
    else checkNames (q.name :: seen) qs

def validate (file : QueryFile) : Except Fault Unit :=
  if file.version ≠ supportedVersion then .error (.unsupportedVersion file.version)
  else if file.skip = "" then .error .emptySkip
  else checkNames [] file.queries

def findAll (file : QueryFile) : List String → Except String (List Query)
  | [] => .ok []
  | name :: names =>
    match file.queries.find? fun q => q.name = name with
    | some q => (q :: ·) <$> file.findAll names
    | none => .error name

def select (file : QueryFile) (names : List String) : Except String (List Query) :=
  if names.isEmpty then .ok file.queries else file.findAll names

end QueryFile

end QueryTemplate
