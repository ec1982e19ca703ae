import DetectorSim.CommandLine.Program
import DetectorSim.Text.Instant
import Std.Time

/-!
# The executable

The outermost layer: it looks up the files that the program may use, lets the
program work on them, writes back what changed, and prints.
-/

set_option autoImplicit false

namespace DetectorSim.CommandLine

open Config

/-- What is found at a path.  A directory can be opened but not read. -/
def look (path : String) : IO (Option FileNode) := do
  match ← (IO.FS.Handle.mk path .read).toBaseIO with
  | .error _ => return none
  | .ok handle =>
      match ← handle.readBinToEnd.toBaseIO with
      | .ok content => return some (.file content [])
      | .error _ => return some .directory

/-- Look up what is on a path, name by name. -/
def survey (files : FileStore) (key : FileKey) : List String → IO FileStore
  | [] => return files
  | name :: rest => do
      let key := FileStore.enter key name
      match ← look (FileStore.pathOf key) with
      | none => return files
      | some node => survey (files.put key node) key rest

/-- Look up what a path leads to. -/
def surveyPath (files : FileStore) (path : String) : IO FileStore :=
  survey files (if Path.isAbsolute path then FileStore.root else []) (Path.components path)

/-- Write the files that changed. -/
def writeBack (before after : FileStore) : IO Unit :=
  after.nodes.entries.forM fun (key, node) =>
    match node with
    | .directory => return ()
    | .file .. =>
        match before.nodes.find? key with
        | some old =>
            if old.bytes == node.bytes then return ()
            else IO.FS.writeBinFile (FileStore.pathOf key) node.bytes
        | none => IO.FS.writeBinFile (FileStore.pathOf key) node.bytes

/-- The number of processors of the machine. -/
def countProcessors : IO Nat := do
  match ← (IO.FS.lines "/proc/cpuinfo").toBaseIO with
  | .error _ => return 1
  | .ok lines => return max 1 (lines.filter fun line => line.startsWith "processor").size

/-- The machine that the program runs on. -/
def findHost : IO Host := do
  let processors ← countProcessors
  let bytes ← IO.getRandomBytes 8
  let entropy := bytes.toList.foldl (fun sum byte => sum * 256 + byte.toNat) 0
  return ⟨processors, entropy, mixedWords⟩

/-- The time now. -/
def findTime : IO String := do
  let now ← Std.Time.Timestamp.now
  return Text.instant now.toSecondsSinceUnixEpoch.val.toNat

/-- How the program is called. -/
def usage : String :=
  "\n".intercalate [
    "Usage: pixsim --config <CONFIG> [OPTIONS]",
    "",
    "Options:",
    "  -c, --config <CONFIG>        Main configuration file",
    "  -v, --verbosity <VERBOSITY>  Log level (error, warn, info, debug, trace)",
    "  -j, --workers <WORKERS>      Number of workers; above 1 they share the events",
    "  -n, --events <EVENTS>        Number of events to simulate",
    "  -o, --option <KEY=VALUE>     Replace a key of the header",
    "  -l, --log-file <LOG_FILE>    Also write the log to this file",
    "      --no-timestamps          Do not print the time in front of log lines",
    "  -h, --help                   Print help",
    ""]

/-- Run the program with given arguments. -/
def execute (arguments : Arguments) : IO UInt32 := do
  let host ← findHost
  let time ← findTime
  let found ← surveyPath .empty arguments.config
  let before ← match Reader.ofFile found arguments.config Journal.empty with
    | (.ok reader, _) => (Program.pathsOf arguments reader).foldlM surveyPath found
    | _ => arguments.logFile.toList.foldlM surveyPath found
  let completion := Program.run arguments host time before
  writeBack before completion.files
  IO.eprint completion.errorText
  return UInt32.ofNat completion.code

end DetectorSim.CommandLine

open DetectorSim.CommandLine in
/-- The entry of the program. -/
def main (words : List String) : IO UInt32 := do
  match Invocation.ofWords words with
  | .run arguments => execute arguments
  | .help =>
      IO.print usage
      return 0
  | .invalid =>
      IO.eprint usage
      return 2
