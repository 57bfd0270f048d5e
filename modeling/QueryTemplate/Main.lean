import QueryTemplate.Command.Run

/-! # The program -/

namespace QueryTemplate

def readFile (path : String) : IO (Except FileError String) := do
  try
    return .ok (← IO.FS.readFile path)
  catch e =>
    match e with
    | .noFileOrDirectory .. => return .error .notFound
    | .inappropriateType .. => return .error .isDirectory
    | e => return .error (.other (toString e))

def Command.config? : Command → Option String
  | .render config _ => some config
  | .check config => some config
  | _ => none

def neededFile? (argv : List String) : Option String :=
  match Invocation.parse argv with
  | .ok invocation => invocation.command.config?
  | .error _ => none

end QueryTemplate

open QueryTemplate in
def main (argv : List String) : IO UInt32 := do
  let read : FileReader ← match neededFile? argv with
    | some path => do
      let content ← readFile path
      pure fun _ => content
    | none => pure fun _ => .error .notFound
  let report := run read argv
  IO.print report.stdout
  match report.failure? with
  | some e => do
    IO.eprintln e.message
    return 1
  | none => return 0
