import QueryTemplate.Command.Help
import QueryTemplate.Command.Report
import QueryTemplate.Json.Reader
import QueryTemplate.QueryFile.OfToml

/-! # Running commands -/

namespace QueryTemplate

namespace QueryFile

def load (read : FileReader) (path : String) : Except CommandError QueryFile :=
  match read path with
  | .error e => .error (.unreadable path e)
  | .ok text =>
    match parse? text with
    | none => .error (.malformed path)
    | some file =>
      match file.validate with
      | .error fault => .error (.invalid path fault)
      | .ok () => .ok file

def withLoaded (read : FileReader) (path : String) (go : QueryFile → Report) : Report :=
  match load read path with
  | .error e => .failed e
  | .ok file =>
    (Report.emitted [.loadedQueryFile path file.queries.length]).andThen (go file)

/-! ## Rendering -/

def block (name sql : String) : String := s!"-- {name}\n{sql};\n"

def renderQuery (skip : String) (q : Query) : Report :=
  match q.renderTraced skip with
  | ⟨.ok sql, events⟩ => ⟨block q.name sql, none, events⟩
  | ⟨.error e, events⟩ => ⟨"", some (.failedQuery q.name e), events⟩

/-- Nothing is rendered unless every name is known. -/
def render (file : QueryFile) (names : List String) : Report :=
  match file.select names with
  | .error name => .failed (.unknownQuery name)
  | .ok queries => .sequence (queries.map (renderQuery file.skip))

/-! ## Checking -/

def checkQuery (skip : String) (q : Query) : Report :=
  match q.renderTraced skip with
  | ⟨.ok sql, events⟩ => ⟨s!"ok     {q.name}\n", none, events ++ [.queryOk q.name sql]⟩
  | ⟨.error e, events⟩ => ⟨s!"error  {q.name}: {e.message}\n", none, events⟩

def isFaulty (skip : String) (q : Query) : Bool := !(q.renderTraced skip).result.isOk

def check (file : QueryFile) : Report :=
  let failed := file.queries.countP (isFaulty file.skip)
  (Report.sequence (file.queries.map (checkQuery file.skip))).andThen
    (if failed = 0 then .empty else .failed (.failedCheck failed file.queries.length))

end QueryFile

/-! ## Evaluating -/

def argsOfText? (skip : String) (text : String) : Option (List Arg) :=
  match Json.parse? text with
  | some (.array items) => some (items.map (Arg.ofJson skip))
  | _ => none

def eval (template : String) (args? skip? : Option String) : Report :=
  let skip := skip?.getD QueryFile.defaultSkip
  match args?.elim (some []) (argsOfText? skip) with
  | none => .failed .badArgs
  | some args =>
    match buildTraced Escaper.mySql template args with
    | ⟨.ok sql, events⟩ => ⟨sql ++ "\n", none, events⟩
    | ⟨.error e, events⟩ => ⟨"", some (.template e), events⟩

/-! ## Commands -/

def Command.run (read : FileReader) : Command → Report
  | .help topic => .printed (topic.help ++ "\n")
  | .render config names => QueryFile.withLoaded read config fun file => file.render names
  | .check config => QueryFile.withLoaded read config QueryFile.check
  | .eval template args? skip? => QueryTemplate.eval template args? skip?

def run (read : FileReader) (argv : List String) : Report :=
  match Invocation.parse argv with
  | .error e => .failed (.usage e)
  | .ok invocation => invocation.command.run read

end QueryTemplate
