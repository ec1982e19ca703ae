import DetectorSim.Builtin.Collection
import DetectorSim.Proofs.Geometry
import DetectorSim.Proofs.Messaging.Topics
import DetectorSim.Proofs.Module.Ambiguity
import DetectorSim.Proofs.Module.Enabling
import DetectorSim.Proofs.Module.Selection
import DetectorSim.Proofs.Module.Tidiness
import DetectorSim.Simulation

/-!
# The instances of the built-in collection

What is loaded from sections of the built-in collection alone is a list of parts: a
generator, propagations and digitizers of detectors, a writer, none of them twice.  For
each of them the list has the module that belongs to it, made for a detector of the setup,
and the messenger has the one slot that it reads, or none for the generator.
-/

set_option autoImplicit false

namespace DetectorSim

open Config

/-! ## Registries -/

namespace Registry

variable {κ ω : Type} [Payload κ] {listed : List (Descriptor κ ω)}

/-- All module types that can be found are listed. -/
def Within (listed : List (Descriptor κ ω)) (registry : Registry κ ω) : Prop :=
  ∀ name descriptor, registry.resolve name = .ok descriptor → descriptor ∈ listed

theorem Holds.within {collections : List (Collection κ ω)} {registry : Registry κ ω}
    (holds : Holds listed collections registry) : registry.Within listed :=
  fun _ _ resolved => (holds.resolve_eq_ok_iff.mp resolved).1

/-- What is registered comes from the collections that are available. -/
theorem within_of_ofCollections {available : List (Collection κ ω)} {enabled : List String}
    {registry : Registry κ ω} {journal after : Journal}
    (built : ofCollections available enabled journal = (.ok registry, after)) :
    registry.Within (available.flatMap Collection.descriptors) := by
  intro name descriptor resolved
  have offers := offers_of_ofCollections (congrArg Prod.fst built)
  obtain ⟨collection, among, there⟩ :=
    List.mem_flatMap.mp ((offers.found_iff name descriptor).mp resolved).1
  exact List.mem_flatMap.mpr ⟨collection, (List.mem_filter.mp among).1, there⟩

end Registry

/-! ## Simulations -/

namespace Simulation

variable {ω : Type} [Builtin.HasWorkspace ω]

/-- A simulation that is set up with the built-in collection has a setup whose detectors
have distinct names, and knows module types of this collection only. -/
theorem standard_of_setUp {samplers : Builtin.Samplers} {files : FileStore}
    {reader : Config.Reader} {overrides : List (String × String)}
    {simulation : Simulation Builtin.PayloadKind ω} {journal after : Journal}
    (ready : setUp files reader overrides [Builtin.collection samplers] journal
      = (.ok simulation, after)) :
    simulation.geometry.Distinct ∧
      simulation.registry.Within
        (Builtin.collection samplers : Collection _ ω).descriptors := by
  obtain ⟨header, _, -, ready⟩ := Proc.andThen_eq_ok.mp ready
  obtain ⟨settings, _, -, ready⟩ := Proc.andThen_eq_ok.mp ready
  obtain ⟨geometry, _, read, ready⟩ := Proc.andThen_eq_ok.mp ready
  obtain ⟨registry, _, built, ready⟩ := Proc.andThen_eq_ok.mp ready
  cases ready
  constructor
  · unfold readGeometry at read
    cases path : settings.detectorsFile with
    | none =>
      rw [path] at read
      cases read
      exact Geometry.distinct_empty
    | some path' =>
      rw [path] at read
      obtain ⟨_, _, -, read⟩ := Proc.andThen_eq_ok.mp read
      obtain ⟨detectors, _, -, read⟩ := Proc.andThen_eq_ok.mp read
      exact Geometry.distinct_of_ofReader read
  · have within := Registry.within_of_ofCollections built
    rwa [List.flatMap_singleton] at within

end Simulation

/-! ## Parts -/

namespace Builtin

/-- What an instance of the built-in collection is for. -/
inductive Part where
  | generator
  | propagation (detector : String)
  | digitizer (detector : String)
  | writer
  deriving DecidableEq, Repr

namespace Part

/-- The place of an instance: its module type and the name of its detector. -/
def key : Part → String × String
  | .generator => ("DepositionGenerator", "")
  | .propagation detector => ("SimplePropagation", detector)
  | .digitizer detector => ("DefaultDigitizer", detector)
  | .writer => ("JsonWriter", "")

/-- The topics that an instance is to read. -/
def Reads : Part → Topic PayloadKind → Prop
  | .generator, _ => False
  | .propagation detector, topic => topic = (.deposited, some detector)
  | .digitizer detector, topic => topic = (.propagated, some detector)
  | .writer, topic => topic.1 = .hits

end Part

section Members

variable {ω : Type} [HasWorkspace ω]

/-- An instance has one bond and no other. -/
structure Binds (bonds : List (Bond PayloadKind ω)) (inst : Instance PayloadKind ω)
    (kind : PayloadKind) (flags : MessageFlags) (how : DelegateKind PayloadKind ω)
    (bond : Bond PayloadKind ω) : Prop where
  live : bond ∈ bonds
  alone : ∀ other ∈ bonds, other.owner = inst.receiver.id → other = bond
  receiver_eq : bond.delegate.receiver = inst.receiver
  kind_eq : bond.kind = kind
  flags_eq : bond.delegate.flags = flags
  how_eq : bond.delegate.kind = how

/-- An instance does a part: it has the module for it, which knows the setup or a detector
of it, and the bond that the module reads from. -/
inductive Member (geometry : Geometry) (bonds : List (Bond PayloadKind ω)) :
    Part → Instance PayloadKind ω → Prop where
  | generator {inst : Instance PayloadKind ω} (samplers : Samplers)
      (settings : DepositionSettings)
      (unbound : ∀ bond ∈ bonds, bond.owner ≠ inst.receiver.id)
      (module_eq : inst.module = Deposition.module samplers settings geometry) :
      Member geometry bonds .generator inst
  | propagation {inst : Instance PayloadKind ω} {bond : Bond PayloadKind ω}
      (samplers : Samplers) (diffusion : Float) {detector : Detector}
      (known : detector ∈ geometry.detectors) (own : inst.receiver.detector = some detector)
      (binds : Binds bonds inst .deposited .requiredInput .single bond)
      (module_eq : inst.module = Propagation.module samplers diffusion detector ⟨bond.slot⟩) :
      Member geometry bonds (.propagation detector.name) inst
  | digitizer {inst : Instance PayloadKind ω} {bond : Bond PayloadKind ω}
      (samplers : Samplers) (settings : DigitizerSettings) {detector : Detector}
      (known : detector ∈ geometry.detectors)
      (own : inst.receiver.detector = some detector)
      (binds : Binds bonds inst .propagated .requiredInput .single bond)
      (module_eq : inst.module
        = Digitizer.module samplers settings inst.receiver.id detector ⟨bond.slot⟩) :
      Member geometry bonds (.digitizer detector.name) inst
  | writer {inst : Instance PayloadKind ω} {bond : Bond PayloadKind ω} (path : String)
      (own : inst.receiver.detector = none)
      (binds : Binds bonds inst .hits .none .multi bond)
      (module_eq : inst.module = Writer.module inst.receiver.id path ⟨bond.slot⟩) :
      Member geometry bonds .writer inst

/-- The list of instances of a manager, told by the parts that they do, and the bonds that
they have. -/
structure Lineup (geometry : Geometry) (parts : List Part) (bonds : List (Bond PayloadKind ω))
    (instances : List (Instance PayloadKind ω)) (messenger : Messenger PayloadKind ω) : Prop where
  keys_eq : (instances.map fun inst => inst.identifier.key) = parts.map Part.key
  distinct : parts.Nodup
  wired : messenger.Wired bonds
  members : List.Forall₂ (Member geometry bonds) parts instances
  owned : ∀ bond ∈ bonds, ∃ inst ∈ instances, inst.receiver.id = bond.owner

/-! ## Factory calls -/

omit [HasWorkspace ω] in
/-- The bond that a factory call has made is all that its instance has. -/
theorem binds_of_bonds {called : Commission PayloadKind ω} {inst : Instance PayloadKind ω}
    {bonds : List (Bond PayloadKind ω)} {bond : Bond PayloadKind ω} {kind : PayloadKind}
    {flags : MessageFlags} {how : DelegateKind PayloadKind ω}
    (own : ∀ bond, bond ∈ called.bonds ↔ bond ∈ bonds ∧ bond.owner = called.id)
    (receiver_eq : inst.receiver = called.site.receiver) (made : called.bonds = [bond])
    (bond_eq : bond = called.messenger.nextBond called.site.receiver kind flags how) :
    Binds bonds inst kind flags how bond := by
  refine ⟨?_, ?_, ?_, ?_, ?_, ?_⟩
  · exact ((own bond).mp (made ▸ List.mem_cons_self)).1
  · intro other live claims
    rw [receiver_eq] at claims
    exact List.mem_singleton.mp (made ▸ (own other).mpr ⟨live, claims⟩)
  · rw [receiver_eq, bond_eq]
    rfl
  · rw [bond_eq]
    rfl
  · rw [bond_eq]
    rfl
  · rw [bond_eq]
    rfl

/-- What comes out of a factory of the built-in collection does one of the parts. -/
theorem exists_member {samplers : Samplers} {called : Commission PayloadKind ω}
    {inst : Instance PayloadKind ω} {bonds : List (Bond PayloadKind ω)} {targets : List Target}
    {s : Section} (yields : called.Yields inst)
    (listed : called.request.descriptor
      ∈ (collection samplers : Collection PayloadKind ω).descriptors)
    (asked : Target.ofSection called.request.descriptor s called.geometry = .ok targets)
    (among : called.request.target ∈ targets)
    (own : ∀ bond, bond ∈ called.bonds ↔ bond ∈ bonds ∧ bond.owner = called.id) :
    ∃ part, inst.identifier.key = part.key ∧ Member called.geometry bonds part inst := by
  obtain ⟨unique, each⟩ := Target.of_mem_ofSection asked among
  have made := yields.module
  have key := yields.key
  have receiver_eq := yields.receiver
  obtain ⟨⟨descriptor, config, target⟩, geometry, id, messenger, env⟩ := called
  simp only [collection, List.mem_cons, List.not_mem_nil, or_false] at listed
  rcases listed with rfl | rfl | rfl | rfl
  · obtain rfl : target = .unique "DepositionGenerator" := unique rfl
    obtain ⟨settings, module_eq, unbound⟩ := Construction.of_unbound made
    refine ⟨.generator, key, .generator samplers settings ?_ module_eq⟩
    intro bond live claims
    rw [receiver_eq] at claims
    have listed := (own bond).mpr ⟨live, claims⟩
    rw [show Commission.bonds _ = [] from unbound] at listed
    cases listed
  · obtain ⟨priority, detector, known, same⟩ := each rfl
    obtain rfl : target = .forDetector "SimplePropagation" priority detector := same
    obtain ⟨diffusion, bond, bond_eq, module_eq, bound⟩ := Construction.of_bindSingle made
    have binds := binds_of_bonds own receiver_eq bound bond_eq
    refine ⟨.propagation detector.name, key,
      .propagation samplers diffusion known ?_ binds module_eq⟩
    rw [receiver_eq]
    rfl
  · obtain ⟨priority, detector, known, same⟩ := each rfl
    obtain rfl : target = .forDetector "DefaultDigitizer" priority detector := same
    obtain ⟨settings, bond, bond_eq, module_eq, bound⟩ := Construction.of_bindSingle made
    have binds := binds_of_bonds own receiver_eq bound bond_eq
    refine ⟨.digitizer detector.name, key, .digitizer samplers settings known ?_ binds ?_⟩
    · rw [receiver_eq]
      rfl
    · rw [module_eq, receiver_eq]
  · obtain rfl : target = .unique "JsonWriter" := unique rfl
    obtain ⟨path, bond, bond_eq, module_eq, bound⟩ := Construction.of_bindMulti made
    have binds := binds_of_bonds own receiver_eq bound bond_eq
    refine ⟨.writer, key, .writer path ?_ binds ?_⟩
    · rw [receiver_eq]
      rfl
    · rw [module_eq, receiver_eq]

/-! ## What is loaded -/

omit [HasWorkspace ω] in
/-- The bonds that a factory call of the crew has made are those of its instance. -/
theorem mem_bonds_iff {made crew : List (Commission PayloadKind ω)}
    {manager : Manager PayloadKind ω} (staffed : manager.Staffed made crew)
    {called : Commission PayloadKind ω} (hired : called ∈ crew) (bond : Bond PayloadKind ω) :
    bond ∈ called.bonds ↔ bond ∈ crew.flatMap Commission.bonds ∧ bond.owner = called.id := by
  rw [← staffed.filter_id hired, List.mem_filter, decide_eq_true_iff]

/-- If each factory call of a crew does a part, so do the instances, one after the other. -/
theorem exists_parts {geometry : Geometry} {bonds : List (Bond PayloadKind ω)}
    {crew : List (Commission PayloadKind ω)} {instances : List (Instance PayloadKind ω)}
    (built : List.Forall₂ Commission.Yields crew instances)
    (does : ∀ called ∈ crew, ∀ inst, called.Yields inst →
      ∃ part, inst.identifier.key = part.key ∧ Member geometry bonds part inst) :
    ∃ parts, (instances.map fun inst => inst.identifier.key) = parts.map Part.key ∧
      List.Forall₂ (Member geometry bonds) parts instances := by
  induction built with
  | nil => exact ⟨[], rfl, .nil⟩
  | @cons called inst crew instances yields _ ih =>
    obtain ⟨part, key, member⟩ := does called List.mem_cons_self inst yields
    obtain ⟨parts, keys, members⟩ := ih fun other hired =>
      does other (List.mem_cons_of_mem _ hired)
    exact ⟨part :: parts, by rw [List.map_cons, List.map_cons, key, keys], .cons member members⟩

/-- **What is loaded.**  The instances of a configuration whose sections are all of the
built-in collection are a list of parts, none of them twice. -/
theorem exists_lineup_of_load {samplers : Samplers} {reader : Reader}
    {registry : Registry PayloadKind ω} {geometry : Geometry} {env left : Env ω}
    {manager : Manager PayloadKind ω}
    (standard : ∀ s ∈ reader.moduleSections, ∀ descriptor,
      registry.resolve s.name = .ok descriptor →
        descriptor ∈ (collection samplers : Collection PayloadKind ω).descriptors)
    (loaded : Manager.load reader registry geometry (.empty, env) = (.ok (), (manager, left))) :
    ∃ parts bonds, Lineup geometry parts bonds manager.instances manager.messenger := by
  obtain ⟨crew, staffed⟩ := (Manager.Loaded.empty.load loaded nofun).exists_staffed
  obtain ⟨requests, mid, turns, -, listed⟩ := Manager.turns_of_load loaded
  have does : ∀ called ∈ crew, ∀ inst, called.Yields inst → ∃ part,
      inst.identifier.key = part.key ∧
        Member geometry (crew.flatMap Commission.bonds) part inst := by
    intro called hired inst yields
    obtain ⟨asked, same⟩ := turns.of_mem (staffed.among.subset hired)
    obtain ⟨s, there, resolved, targets, found, among⟩ :=
      Request.of_mem_ofSections (listed rfl) asked
    subst same
    exact exists_member yields (standard s there _ resolved) found among
      (mem_bonds_iff staffed hired)
  obtain ⟨parts, keys_eq, members⟩ := exists_parts staffed.built does
  refine ⟨parts, crew.flatMap Commission.bonds, keys_eq, ?_, staffed.trim.toWired, members, ?_⟩
  · have distinct := staffed.distinct
    unfold Manager.Distinct at distinct
    rw [keys_eq] at distinct
    exact distinct.of_map
  · intro bond live
    obtain ⟨called, hired, made⟩ := List.mem_flatMap.mp live
    have there := List.mem_map_of_mem (f := Commission.id) hired
    rw [← staffed.map_id_instances] at there
    obtain ⟨inst, among, same⟩ := List.mem_map.mp there
    exact ⟨inst, among, same.trans (Commission.owner_of_mem_bonds made).symm⟩

end Members

end Builtin

end DetectorSim
