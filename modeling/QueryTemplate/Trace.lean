/-! # Traces: what a computation reports besides its result -/

namespace QueryTemplate

inductive Event
  /-- A fragment was left out, from the byte `start` to the byte `stop`. -/
  | elidedFragment (start stop placeholders : Nat)
  /-- A template was rendered. The size of the SQL is in bytes. -/
  | compiledTemplate (placeholders fragments elided sqlSize : Nat)
  | loadedQueryFile (path : String) (queries : Nat)
  /-- A query passed the check. -/
  | queryOk (name sql : String)
  deriving DecidableEq, Repr

namespace Event

inductive Level
  | trace | debug | info
  deriving DecidableEq, Repr

inductive Field
  | number (n : Nat)
  | text (s : String)
  deriving DecidableEq, Repr

def level : Event → Level
  | .elidedFragment .. => .trace
  | .compiledTemplate .. => .debug
  | .loadedQueryFile .. => .info
  | .queryOk .. => .debug

def target : Event → String
  | .elidedFragment .. | .compiledTemplate .. => "sqltpl.compile"
  | .loadedQueryFile .. | .queryOk .. => "sqltpl.cli"

def message : Event → String
  | .elidedFragment .. => "elided fragment"
  | .compiledTemplate .. => "compiled template"
  | .loadedQueryFile .. => "loaded query file"
  | .queryOk .. => "query ok"

def fields : Event → List (String × Field)
  | .elidedFragment start stop placeholders =>
    [("start", .number start), ("end", .number stop), ("placeholders", .number placeholders)]
  | .compiledTemplate placeholders fragments elided sqlSize =>
    [("placeholders", .number placeholders), ("fragments", .number fragments),
      ("elided", .number elided), ("sql_len", .number sqlSize)]
  | .loadedQueryFile path queries => [("path", .text path), ("queries", .number queries)]
  | .queryOk name sql => [("name", .text name), ("sql", .text sql)]

end Event

structure Traced (α : Type) where
  result : α
  events : List Event
  deriving Repr

end QueryTemplate
