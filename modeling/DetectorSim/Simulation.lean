import DetectorSim.FileStore
import DetectorSim.Module.Manager

/-!
# Simulations

A simulation is set up from a main configuration: its header gives the settings
and names the file with the detectors, and its sections ask for modules.
-/

set_option autoImplicit false

namespace DetectorSim

open Config

/-- A simulation. -/
structure Simulation (κ ω : Type) [Payload κ] where
  /-- The main configuration. -/
  reader : Reader
  settings : Settings
  geometry : Geometry
  registry : Registry κ ω
  manager : Manager κ ω

namespace Simulation

variable {κ ω α : Type} [Payload κ]

/-! ## Setting up -/

/-- Replace the value of a key in the header. -/
def applyOverride (entry : String × String) : Proc (Section × Journal) Unit := do
  Proc.log .debug s!"Overriding {entry.1} = {entry.2}"
  Proc.modify fun (header, journal) => (header.set entry.1 entry.2, journal)

/-- The header of a configuration after some keys were replaced, one after the
other. -/
def overriddenHeader (reader : Reader) (overrides : List (String × String)) :
    Proc Journal Section :=
  Proc.withLocal reader.header do
    Proc.each applyOverride overrides
    let (header, _) ← Proc.get
    return header

/-- The detectors in a file, if there is one. -/
def readGeometry (files : FileStore) : Option String → Proc Journal Geometry
  | none => Proc.done .empty
  | some path => do
      Proc.log .info s!"Reading detectors from {path}"
      let reader ← Reader.ofFile files path
      Geometry.ofReader reader

/-- Set up a simulation from a configuration. -/
def setUp (files : FileStore) (reader : Reader) (overrides : List (String × String))
    (collections : List (Collection κ ω)) : Proc Journal (Simulation κ ω) := do
  let header ← overriddenHeader reader overrides
  let settings ← Settings.ofHeader header
  let geometry ← readGeometry files settings.detectorsFile
  let registry ← Registry.ofCollections collections settings.collections
  return ⟨reader, settings, geometry, registry, .empty⟩

/-- Set up a simulation from a configuration file. -/
def ofFile (files : FileStore) (path : String) (overrides : List (String × String))
    (collections : List (Collection κ ω)) : Proc Journal (Simulation κ ω) := do
  Proc.log .info s!"Reading configuration {path}"
  let reader ← Reader.ofFile files path
  setUp files reader overrides collections

/-- Replace the detectors, which is possible before modules are loaded. -/
def withGeometry (simulation : Simulation κ ω) (geometry : Geometry) :
    Except Error (Simulation κ ω) :=
  if simulation.manager.state = .empty then .ok { simulation with geometry }
  else .error (.logic "geometry can not change after modules are loaded")

/-! ## The life of the modules -/

/-- Run a procedure on the manager. -/
def onManager (proc : Proc (Manager κ ω × Env ω) α) : Proc (Simulation κ ω × Env ω) α :=
  Proc.zoom (fun (simulation, env) => (simulation.manager, env))
    (fun (manager, env) (simulation, _) => ({ simulation with manager }, env)) proc

variable [DecidableEq κ]

/-- Create the module instances. -/
def load : Proc (Simulation κ ω × Env ω) Unit := do
  let (simulation, _) ← Proc.get
  onManager (Manager.load simulation.reader simulation.registry simulation.geometry)

/-- Initialize the module instances. -/
def init : Proc (Simulation κ ω × Env ω) Unit :=
  onManager Manager.init

/-- Process all events. -/
def run (host : Host) : Proc (Simulation κ ω × Env ω) RunReport := do
  let (simulation, _) ← Proc.get
  onManager (Manager.run host simulation.settings)

/-- Finalize the module instances. -/
def finalize : Proc (Simulation κ ω × Env ω) Unit :=
  onManager Manager.finalize

/-- Lead the module instances through their whole life. -/
def runAll (host : Host) : Proc (Simulation κ ω × Env ω) RunReport := do
  load
  init
  let report ← run host
  finalize
  return report

/-- Give up the module instances. -/
def release (simulation : Simulation κ ω) (env : Env ω) : Env ω :=
  simulation.manager.release env

end Simulation

end DetectorSim
