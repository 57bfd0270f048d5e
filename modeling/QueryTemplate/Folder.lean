/-! # Folders: files that can be looked up by their paths -/

namespace QueryTemplate

inductive FileError
  | notFound
  | isDirectory
  | notDirectory
  | nameTooLong
  | nulInPath
  | other (text : String)
  deriving DecidableEq, Repr

def FileError.message : FileError → String
  | .notFound => "No such file or directory (os error 2)"
  | .notDirectory => "Not a directory (os error 20)"
  | .isDirectory => "Is a directory (os error 21)"
  | .nameTooLong => "File name too long (os error 36)"
  | .nulInPath => "file name contained an unexpected NUL byte"
  | .other text => text

abbrev FileReader := String → Except FileError String

/-- Files by their paths from a folder. Nothing else exists but the folders around it. -/
structure Folder where
  files : List (String × String)

namespace Folder

def names (path : String) : List String := (path.splitOn "/").filter fun n => n ≠ "" ∧ n ≠ "."

/-- A place on the way along a path: in the folder, with the names that lead there, or around it. -/
inductive Place
  | inside (names : List String)
  | around
  deriving DecidableEq, Repr

/-- A path begins in the folder or, with a slash, at the top of all folders. -/
def start (path : String) : Place := if path.startsWith "/" then .around else .inside []

/-- The names to go by along a path. A slash at the end asks for a folder, as a dot after it does. -/
def steps (path : String) : List String :=
  ((if path.endsWith "/" then path ++ "." else path).splitOn "/").filter (· ≠ "")

def isLongPath (path : String) : Bool := 4095 < path.utf8ByteSize

def isLongName (name : String) : Bool := 255 < name.utf8ByteSize

section
variable (folder : Folder)

def text? (ns : List String) : Option String :=
  (folder.files.find? fun f => names f.1 = ns).map (·.2)

def isFolder (ns : List String) : Bool :=
  folder.files.any fun f => ns.isPrefixOf (names f.1) && ns ≠ names f.1

/-- Goes on from a place by one name. A dot stays, and two dots lead out of the folder. -/
def step : Place → String → Except FileError Place
  | .inside ns, name =>
    if (folder.text? ns).isSome then .error .notDirectory
    else if name = "." then .ok (.inside ns)
    else if name = ".." then .ok (if ns = [] then .around else .inside ns.dropLast)
    else if isLongName name then .error .nameTooLong
    else if (folder.text? (ns ++ [name])).isSome || folder.isFolder (ns ++ [name]) then
      .ok (.inside (ns ++ [name]))
    else .error .notFound
  | .around, name =>
    if name = "." ∨ name = ".." then .ok .around
    else if isLongName name then .error .nameTooLong
    else .error .notFound

/-- The first step that fails says why a file cannot be read. -/
def read : FileReader := fun path =>
  if path.toList.contains '\x00' then .error .nulInPath
  else if path = "" then .error .notFound
  else if isLongPath path then .error .nameTooLong
  else
    match (steps path).foldlM folder.step (start path) with
    | .ok (.inside ns) => ((folder.text? ns).map .ok).getD (.error .isDirectory)
    | .ok .around => .error .isDirectory
    | .error e => .error e

end

end Folder

end QueryTemplate
