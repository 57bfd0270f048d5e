/-! # The command line -/

namespace QueryTemplate

inductive Topic
  | root | render | check | eval
  deriving DecidableEq, Repr

inductive Command
  | help (topic : Topic)
  | render (config : String) (names : List String)
  | check (config : String)
  | eval (template : String) (args? skip? : Option String)
  deriving DecidableEq, Repr

structure Invocation where
  verbose : Bool
  command : Command
  deriving DecidableEq, Repr

inductive Flag
  | config | name | template | args | skip
  deriving DecidableEq, Repr

def Flag.text : Flag → String
  | .config => "--config"
  | .name => "--name"
  | .template => "--template"
  | .args => "--args"
  | .skip => "--skip"

inductive Subcommand
  | render | check | eval
  deriving DecidableEq, Repr

inductive UsageError
  | unknownCommand (token : String)
  | unknownArgument (token : String)
  | missingValue (flag : Flag)
  | missingTemplate
  deriving DecidableEq, Repr

def UsageError.message : UsageError → String
  | .unknownCommand token => s!"unknown command: {token}"
  | .unknownArgument token => s!"unknown argument: {token}"
  | .missingValue flag => s!"{flag.text} requires a value"
  | .missingTemplate => "missing --template"

namespace Subcommand

def ofToken? : String → Option Subcommand
  | "render" => some .render
  | "check" => some .check
  | "eval" => some .eval
  | _ => none

def topic : Subcommand → Topic
  | .render => .render
  | .check => .check
  | .eval => .eval

def flags : Subcommand → List Flag
  | .render => [.config, .name]
  | .check => [.config]
  | .eval => [.template, .args, .skip]

end Subcommand

def isVerbosity (token : String) : Bool := token == "-v" || token == "--verbose"

def isHelp (token : String) : Bool := token == "-h" || token == "--help"

/-! ## Options -/

abbrev Setting := Flag × String

def Flag.attached? (flag : Flag) (token : String) : Option String :=
  let start := flag.text.toList ++ ['=']
  if start.isPrefixOf token.toList then some (String.ofList (token.toList.drop start.length))
  else none

def findFlag (flags : List Flag) (token : String) : Option (Flag × Option String) :=
  flags.findSome? fun flag =>
    if token = flag.text then some (flag, none)
    else (flag.attached? token).map fun v => (flag, some v)

/-- The settings in order; none if help is asked for before anything is wrong. -/
def readSettings (flags : List Flag) : List String → Except UsageError (Option (List Setting))
  | [] => .ok (some [])
  | token :: rest =>
    if isHelp token then .ok none
    else
      match findFlag flags token, rest with
      | none, _ => .error (.unknownArgument token)
      | some (flag, some v), rest => Option.map ((flag, v) :: ·) <$> readSettings flags rest
      | some (flag, none), v :: rest => Option.map ((flag, v) :: ·) <$> readSettings flags rest
      | some (flag, none), [] => .error (.missingValue flag)

def valuesOf (flag : Flag) (settings : List Setting) : List String :=
  (settings.filter fun s => s.1 = flag).map (·.2)

def valueOf? (flag : Flag) (settings : List Setting) : Option String :=
  (valuesOf flag settings).getLast?

/-! ## Commands -/

def defaultConfig : String := "sqltpl.toml"

/-- To evaluate nothing at all is to ask for help. -/
def Subcommand.toCommand (settings : List Setting) : Subcommand → Except UsageError Command
  | .render =>
    .ok (.render ((valueOf? .config settings).getD defaultConfig) (valuesOf .name settings))
  | .check => .ok (.check ((valueOf? .config settings).getD defaultConfig))
  | .eval =>
    match valueOf? .template settings with
    | some template => .ok (.eval template (valueOf? .args settings) (valueOf? .skip settings))
    | none =>
      if (valueOf? .args settings).isNone && (valueOf? .skip settings).isNone then .ok (.help .eval)
      else .error .missingTemplate

def Command.ofTokens : List String → Except UsageError Command
  | [] => .ok (.help .root)
  | token :: rest =>
    if isHelp token then .ok (.help .root)
    else
      match Subcommand.ofToken? token with
      | none => .error (.unknownCommand token)
      | some sub => do
        match ← readSettings sub.flags rest with
        | some settings => sub.toCommand settings
        | none => return .help sub.topic

/-- Verbosity may be asked for anywhere, even between a flag and its value. -/
def Invocation.parse (argv : List String) : Except UsageError Invocation := do
  let command ← Command.ofTokens (argv.filter fun token => !isVerbosity token)
  return ⟨argv.any isVerbosity, command⟩

end QueryTemplate
