import DetectorSim.Path
import DetectorSim.Table
import DetectorSim.Config.Reader

/-!
# Files

The files and directories that a program sees, as far as it asks for them.  A
path is followed from the working directory, or from the root, through
directories that must be there.  A file that is written grows at its end.
-/

set_option autoImplicit false

namespace DetectorSim

open Config

/-- What a path can lead to. -/
inductive FileNode where
  /-- A file: what it held at first, and what was added since, the newest text
  first. -/
  | file (content : ByteArray) (added : List String)
  | directory
  deriving Inhabited

namespace FileNode

/-- The bytes of a file. -/
def bytes : FileNode → ByteArray
  | .file content added => added.foldr (fun text bytes => bytes ++ text.toUTF8) content
  | .directory => ByteArray.empty

end FileNode

/-- The names on the way from the working directory to a file or directory.
Names after two dots lie outside of the working directory, names after a slash
at the root. -/
abbrev FileKey : Type :=
  List String

/-- Files and directories.  The working directory, everything above it and the
root are always there. -/
structure FileStore where
  nodes : Table FileKey FileNode
  deriving Inhabited

namespace FileStore

/-- An empty working directory. -/
def empty : FileStore :=
  ⟨.empty⟩

/-- The name of the root. -/
def root : FileKey := ["/"]

/-- What is at a place. -/
def node? (store : FileStore) (key : FileKey) : Option FileNode :=
  if key.all (· == "..") || key == root then some .directory else store.nodes.find? key

/-- The place above another one. -/
def above (key : FileKey) : FileKey :=
  if key = root then root
  else
    match key.getLast? with
    | none => [".."]
    | some ".." => key ++ [".."]
    | some _ => key.dropLast

/-- Go on from a place by one name. -/
def enter (key : FileKey) (name : String) : FileKey :=
  if name = ".." then above key else key ++ [name]

/-- The greatest length of a name, in bytes. -/
def greatestName : Nat := 255

/-- The greatest length of a path, in bytes. -/
def greatestPath : Nat := 4095

/-- Follow names from a place on.  The last one need not exist. -/
def follow (store : FileStore) : FileKey → List String → Except FileError FileKey
  | key, [] => .ok key
  | key, name :: rest =>
      match store.node? key with
      | none => .error .notFound
      | some (.file ..) => .error .notDirectory
      | some .directory =>
          if greatestName < name.utf8ByteSize then .error .nameTooLong
          else store.follow (enter key name) rest

/-- The place that a path leads to. -/
def locate (store : FileStore) (path : String) : Except FileError FileKey :=
  if path.toList.contains (Char.ofNat 0) then .error .nulInPath
  else if path.isEmpty then .error .notFound
  else if greatestPath < path.utf8ByteSize then .error .nameTooLong
  else store.follow (if Path.isAbsolute path then root else []) (Path.components path)

/-- Whether a path can only lead to a directory. -/
def endsInDirectory (path : String) : Bool :=
  match path.toList.reverse with
  | '/' :: _ => true
  | ['.'] => true
  | '.' :: '/' :: _ => true
  | ['.', '.'] => true
  | '.' :: '.' :: '/' :: _ => true
  | _ => false

/-- What is found when a path is opened to be read. -/
def open? (store : FileStore) (path : String) : Except FileError FileNode :=
  match store.locate path with
  | .error err => .error err
  | .ok key =>
      match store.node? key with
      | none => .error .notFound
      | some (.file content added) =>
          if endsInDirectory path then .error .notDirectory else .ok (.file content added)
      | some .directory => .ok .directory

/-- The text of a file, if there is one. -/
def text? (store : FileStore) (path : String) : Option String :=
  match store.open? path with
  | .ok (.file content added) => String.fromUTF8? (FileNode.file content added).bytes
  | _ => none

/-- An empty file in the place that a path leads to, instead of any file that
is there. -/
def create (store : FileStore) (path : String) : Except FileError (FileKey × FileStore) :=
  match store.locate path with
  | .error err => .error err
  | .ok key =>
      if endsInDirectory path then .error .isDirectory
      else
        match store.node? key with
        | some .directory => .error .isDirectory
        | _ => .ok (key, ⟨store.nodes.insert key (.file ByteArray.empty [])⟩)

/-- Add a text at the end of a file. -/
def append (store : FileStore) (key : FileKey) (text : String) : FileStore :=
  ⟨store.nodes.change key fun node =>
    match node with
    | .file content added => .file content (text :: added)
    | .directory => .directory⟩

theorem find?_append (store : FileStore) (key other : FileKey) (text : String) :
    (store.append key text).nodes.find? other
      = if key = other then (store.nodes.find? other).map fun node =>
          match node with
          | .file content added => .file content (text :: added)
          | .directory => .directory
        else store.nodes.find? other :=
  Table.find?_change store.nodes key other _

/-- Put a file into a place, with the directories above it. -/
def place (store : FileStore) (key : FileKey) (content : ByteArray) : FileStore :=
  let directories := (List.range key.length).drop 1 |>.map key.take
  let nodes := directories.foldl (fun nodes key => nodes.insert key .directory) store.nodes
  ⟨nodes.insert key (.file content [])⟩

/-- Put something into a place. -/
def put (store : FileStore) (key : FileKey) (node : FileNode) : FileStore :=
  ⟨store.nodes.insert key node⟩

/-- A path that leads to a place. -/
def pathOf (key : FileKey) : String :=
  match key with
  | [] => "."
  | "/" :: rest => "/" ++ "/".intercalate rest
  | names => "/".intercalate names

/-- A working directory with some files, each given by its path and its
text. -/
def ofFiles (files : List (String × String)) : FileStore :=
  files.foldl (fun store (path, text) => store.place (Path.components path) text.toUTF8) empty

/-- The lines of what was opened.  A directory fails when it is read. -/
def sourceOf : FileNode → Source
  | .directory => .failing .isDirectory
  | node => .ofBytes node.bytes

end FileStore

namespace Config.Reader

/-- Read a file into a new reader. -/
def ofFile (store : FileStore) (path : String) : Proc Journal Reader := fun journal =>
  match store.open? path with
  | .error err => (.error (.fileError err), journal)
  | .ok node =>
      match parse (FileStore.sourceOf node) (some path) (empty, journal) with
      | (outcome, (reader, journal)) => (outcome.map fun _ => reader, journal)

end Config.Reader

end DetectorSim
