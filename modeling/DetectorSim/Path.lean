/-!
# Paths

A path is a text whose components are separated by slashes.  Empty components
and dots stand for nothing, except a dot at the very start, which is the
working directory.
-/

set_option autoImplicit false

namespace DetectorSim.Path

/-- An absolute path starts at the root. -/
def isAbsolute (path : String) : Bool :=
  path.toList.head? == some '/'

/-- Drop the slashes and dot components at the end of a path that is given
last character first.  The root and a leading dot stay. -/
def trimBack : List Char → List Char
  | ['/'] => ['/']
  | '/' :: rest => trimBack rest
  | '.' :: '/' :: rest => trimBack ('/' :: rest)
  | path => path

/-- The directory that holds what a path names: the path without its last
component.  The root and the empty path have none. -/
def parent? (path : String) : Option String :=
  match trimBack path.toList.reverse with
  | [] => none
  | ['/'] => none
  | trimmed =>
      some (String.ofList (trimBack (trimmed.dropWhile (· != '/'))).reverse)

/-- A path taken relative to a directory. -/
def join (directory path : String) : String :=
  if isAbsolute path then path
  else
    match directory.toList.getLast? with
    | none => path
    | some '/' => directory ++ path
    | some _ => directory ++ "/" ++ path

/-- A path as it stands in a file: relative paths start at the directory of
that file. -/
def resolve (file : Option String) (path : String) : String :=
  if isAbsolute path then path
  else
    match file.bind parent? with
    | some directory => join directory path
    | none => path

/-- The components of a path that name something. -/
def components (path : String) : List String :=
  (path.splitOn "/").filter fun name => name != "" && name != "."

end DetectorSim.Path
