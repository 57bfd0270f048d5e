import QueryTemplate.Command
import QueryTemplate.Folder
import QueryTemplate.QueryFile
import QueryTemplate.Trace

/-! # Reports: what a command prints and how it ends -/

namespace QueryTemplate

inductive CommandError
  | usage (e : UsageError)
  | unreadable (path : String) (e : FileError)
  /-- The file is no TOML document, or not one of a query file. -/
  | malformed (path : String)
  | invalid (path : String) (fault : QueryFile.Fault)
  | unknownQuery (name : String)
  | failedQuery (name : String) (e : TemplateError)
  | failedCheck (failed total : Nat)
  | badArgs
  | template (e : TemplateError)
  deriving DecidableEq, Repr

def CommandError.message : CommandError → String
  | .usage e => e.message
  | .unreadable path e => s!"failed to read query file {path}: {e.message}"
  | .malformed path => s!"invalid query file {path}: TOML"
  | .invalid path fault => s!"invalid query file {path}: {fault.message}"
  | .unknownQuery name => s!"no query named {name}"
  | .failedQuery name e => s!"failed to render query {name}: {e.message}"
  | .failedCheck failed total => s!"template check failed ({failed} of {total} queries)"
  | .badArgs => "--args must be a JSON array"
  | .template e => e.message

structure Report where
  stdout : String
  failure? : Option CommandError
  events : List Event
  deriving Repr

namespace Report

def empty : Report := ⟨"", none, []⟩

def printed (s : String) : Report := ⟨s, none, []⟩

def emitted (events : List Event) : Report := ⟨"", none, events⟩

def failed (e : CommandError) : Report := ⟨"", some e, []⟩

/-- Goes on with the second report unless the first has failed. -/
def andThen (first second : Report) : Report :=
  match first.failure? with
  | some _ => first
  | none => ⟨first.stdout ++ second.stdout, second.failure?, first.events ++ second.events⟩

def sequence (reports : List Report) : Report := reports.foldr andThen empty

end Report

end QueryTemplate
