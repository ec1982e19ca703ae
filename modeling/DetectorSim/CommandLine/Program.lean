import DetectorSim.Builtin.Collection
import DetectorSim.CommandLine.Arguments
import DetectorSim.CommandLine.LogFilter
import DetectorSim.Simulation

/-!
# The program

The program runs the simulation that a configuration file describes.  It works
on the files that it was given and ends with an exit code, a text for the error
stream, and the files as it left them.
-/

set_option autoImplicit false

namespace DetectorSim.CommandLine

open Config Builtin

/-- What is left when the program has ended. -/
structure Completion where
  code : Nat
  /-- The text on the error stream. -/
  errorText : String
  files : FileStore

namespace Program

/-! ## The log -/

/-- A log record as a line. -/
def lineOf (stamp : Option String) (record : Record) : String :=
  let time := match stamp with
    | some text => text ++ " "
    | none => ""
  let place := if record.sectionName.isEmpty then "" else s!"[{record.sectionName}] "
  s!"{time}({record.level.label}) {place}{record.text}\n"

/-- The level that the log starts with: that of the command line, else that of
the configuration, else `info`. -/
def levelText (arguments : Arguments) (reader : Outcome Reader) : String :=
  match arguments.verbosity, reader with
  | some level, _ => level
  | none, .ok reader =>
      match reader.header.get "log_level" .string with
      | .ok level => level
      | .error _ => "info"
  | none, _ => "info"

/-- Create the log file, if there is to be one. -/
def openLog (files : FileStore) : Option String → Except FileError (Option FileKey × FileStore)
  | none => .ok (none, files)
  | some path =>
      match files.create path with
      | .ok (key, files) => .ok (some key, files)
      | .error err => .error err

/-! ## The simulation -/

/-- Apply what the command line says about the run. -/
def adjust (arguments : Arguments) (settings : Settings) : Proc (Env Workspace) Settings := do
  let settings := { settings with events := arguments.events.getD settings.events }
  match arguments.workers with
  | none => return settings
  | some workers =>
      Settings.warnNoWorkers workers
      let concurrency := if 1 < workers then .pooled else settings.concurrency
      return { settings.withWorkers workers with concurrency }

/-- Lead the modules of a simulation through their life and give them up. -/
def complete (host : Host) (simulation : Simulation PayloadKind Workspace) :
    Proc (Env Workspace) RunReport :=
  Proc.withLocal simulation do
    let outcome ← Proc.attempt (Simulation.runAll host)
    Proc.modify fun (simulation, env) => (simulation, simulation.release env)
    Proc.ofOutcome outcome

/-- Tell what an instance did. -/
def tellInstance (inst : InstanceReport) : Proc (Env Workspace) Unit :=
  Proc.log .info
    s!"{inst.module}: {inst.tally.runs} runs, {inst.tally.skipped} skipped"

/-- Run the simulation that a configuration describes. -/
def simulate (arguments : Arguments) (host : Host) (reader : Reader) :
    Proc (Env Workspace) Unit := do
  Proc.log .info s!"Reading configuration {arguments.config}"
  let env ← Proc.get
  let simulation ← Env.onJournal
    (Simulation.setUp env.world.files reader arguments.overrides collections)
  let settings ← adjust arguments simulation.settings
  let report ← complete host { simulation with settings }
  Proc.log .info s!"Simulated {report.events} events with {report.workers} workers"
  Proc.each tellInstance report.modules
  Proc.log .debug ("Run report: " ++ report.toJson.render)

/-- The announcement of an error in the log. -/
def announcement : Category → String
  | .configuration => "Error in the configuration:"
  | .library => "Error while loading modules:"
  | .runtime => "Error during execution of run:"
  | .logic => "Error in the logic of module:"

/-- The exit code for an outcome, and what the log says about it. -/
def conclude : Outcome Unit → Nat × Option String
  | .ok () => (0, none)
  | .error err => (1, some (announcement err.category ++ "\n" ++ err.message))
  | .panic _ => (127, some "Unexpected failure, aborting")

/-- Run the simulation and conclude; the value is the exit code. -/
def session (arguments : Arguments) (host : Host) (reader : Outcome Reader) :
    Proc (Env Workspace) Nat := do
  let outcome ← Proc.attempt (do
    let reader ← Proc.ofOutcome reader
    simulate arguments host reader)
  let (code, text) := conclude outcome
  match text with
  | none => return code
  | some text =>
      Proc.log .error text
      return code

/-! ## The whole program -/

/-- Run the program.  `stamp` is the time for the log lines. -/
def run (arguments : Arguments) (host : Host) (stamp : String) (files : FileStore) :
    Completion :=
  let (reader, _) := Reader.ofFile files arguments.config Journal.empty
  let level := String.ofList ((levelText arguments reader).toList.map Char.toLower)
  let (filter, warnings) := LogFilter.read level
  let notes := String.join (warnings.map (· ++ "\n"))
  match openLog files arguments.logFile with
  | .error err =>
      ⟨1, notes ++ "Cannot open log file: " ++ (Error.fileError err).message ++ "\n", files⟩
  | .ok (key, files) =>
      let (outcome, env) :=
        session arguments host reader ⟨Workspace.ofFiles files, Journal.empty⟩
      let stamp := if arguments.timestamps then some stamp else none
      let lines := (env.journal.lines.filter filter.passes).map (lineOf stamp)
      let text := String.join lines
      let files := match key with
        | none => env.world.files
        | some key => env.world.files.append key text
      let code := match outcome with
        | .ok code => code
        | _ => 127
      ⟨code, notes ++ text, files⟩

/-- The paths that the program may use besides the configuration itself. -/
def pathsOf (arguments : Arguments) (reader : Reader) : List String :=
  let settings := do
    let header ← Simulation.overriddenHeader reader arguments.overrides
    Settings.ofHeader header
  let detectors := match settings Journal.empty with
    | (.ok settings, _) => settings.detectorsFile.toList
    | _ => []
  let outputs := reader.moduleSections.filterMap fun s => (Writer.readPath s).toOption
  arguments.logFile.toList ++ detectors ++ outputs

end Program

end DetectorSim.CommandLine
