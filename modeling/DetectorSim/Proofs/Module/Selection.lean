import DetectorSim.Builtin.Payload
import DetectorSim.Proofs.Config.Listing
import DetectorSim.Proofs.Geometry
import DetectorSim.Proofs.Module.Loading

/-!
# What a section selects

A section for a module type that is there once per detector lists names of detectors, types
of detectors, both or neither.  A name that no detector has is an error, and so is a type
that no detector is of.  Otherwise the section selects the detectors that it names, in the
order of its text, then those of each listed type that it has not named, in the order of
the setup; if it lists nothing at all it selects every detector.

A section that lists no name and no type twice selects no detector twice.  So none of its
targets ever finds its place taken by an instance that the same section has asked for.
-/

set_option autoImplicit false

namespace DetectorSim

open Config

/-! ## Lists in a section -/

/-- The elements that a key of a section lists; there are none if the key is not set. -/
def Config.Section.elements (s : Section) (key : String) : List String :=
  match s.text? key with
  | some text => (Text.elements text.toList).map String.ofList
  | none => []

theorem Config.Section.elements_of_unset {s : Section} {key : String} (unset : ¬ s.has key = true) :
    s.elements key = [] := by
  rw [elements, Option.not_isSome_iff_eq_none.mp unset]

theorem Config.Section.getArray_eq_elements {s : Section} {key : String}
    (set : s.has key = true) : s.getArray key .string = .ok (s.elements key) := by
  obtain ⟨text, held⟩ := Option.isSome_iff_exists.mp set
  rw [getArray, Section.text, elements, held]
  exact readAll_string s key _

namespace Target

variable {module : String} {geometry : Geometry} {s : Section}

theorem listed_eq (s : Section) (key : String) : listed s key = .ok (s.elements key) := by
  unfold listed
  split
  · next set => exact s.getArray_eq_elements set
  · next unset => rw [Section.elements_of_unset unset]

/-! ## Targets of some elements, one after the other -/

/-- The targets of all elements together, unless those of one are refused. -/
def gather (f : String → Except Error (List Target)) : List String → Except Error (List Target)
  | [] => .ok []
  | element :: rest => do
      let first ← f element
      let later ← gather f rest
      return first ++ later

variable {f : String → Except Error (List Target)} {elements : List String}

/-- What is gathered if no element is refused. -/
theorem gather_of_ok {part : String → List Target}
    (good : ∀ element ∈ elements, f element = .ok (part element)) :
    gather f elements = .ok (elements.flatMap part) := by
  induction elements with
  | nil => rfl
  | cons element rest ih =>
    obtain ⟨here, later⟩ := List.forall_mem_cons.mp good
    rw [gather, here, ih later]
    rfl

/-- The first element that is refused decides. -/
theorem gather_of_error {known rest : List String} {element : String} {err : Error}
    (earlier : ∀ other ∈ known, ∃ part, f other = .ok part) (refused : f element = .error err) :
    gather f (known ++ element :: rest) = .error err := by
  induction known with
  | nil =>
    rw [List.nil_append, gather, refused]
    rfl
  | cons other known ih =>
    obtain ⟨⟨part, here⟩, later⟩ := List.forall_mem_cons.mp earlier
    rw [List.cons_append, gather, here, ih later]
    rfl

/-- The target for a detector that a name selects. -/
def forName (module : String) (geometry : Geometry) (name : String) :
    Except Error (List Target) := do
  let detector ← geometry.detector name
  return [.forDetector module .name detector]

/-- The targets for the detectors of a type, except for those with given names. -/
def forType (module : String) (geometry : Geometry) (names : List String) (type : String) :
    Except Error (List Target) := do
  let detectors ← geometry.detectorsByType type
  return (detectors.filter fun detector => !names.contains detector.name).map
    (.forDetector module .type)

theorem byName_eq_gather (names : List String) :
    byName module geometry names = gather (forName module geometry) names := by
  induction names with
  | nil => rfl
  | cons name rest ih =>
    rw [byName, gather, ih, forName]
    cases geometry.detector name with
    | error err => rfl
    | ok detector => cases gather (forName module geometry) rest <;> rfl

theorem byType_eq_gather (names types : List String) :
    byType module geometry names types = gather (forType module geometry names) types := by
  induction types with
  | nil => rfl
  | cons type rest ih =>
    rw [byType, gather, ih, forType]
    cases geometry.detectorsByType type with
    | error err => rfl
    | ok detectors => cases gather (forType module geometry names) rest <;> rfl

/-! ## What is selected -/

/-- The detectors of the listed types that no name of a section selects, type by type, each
time in the order of the setup. -/
def typedBy (s : Section) (geometry : Geometry) : List Detector :=
  (s.elements "type").flatMap fun type =>
    geometry.detectors.filter fun detector =>
      detector.type = type ∧ detector.name ∉ s.elements "name"

/-- Every name that a section lists is that of a detector, and of every type that it lists
there is one. -/
structure Known (s : Section) (geometry : Geometry) : Prop where
  names : ∀ name ∈ s.elements "name", name ∈ geometry.names
  types : ∀ type ∈ s.elements "type", ∃ detector ∈ geometry.detectors, detector.type = type

/-- Why a section selects nothing. -/
inductive Fault (s : Section) (geometry : Geometry) : Error → Prop
  /-- The first of its names that no detector has. -/
  | name {known rest : List String} {name : String}
      (split : s.elements "name" = known ++ name :: rest)
      (earlier : ∀ other ∈ known, other ∈ geometry.names) (missing : name ∉ geometry.names) :
      Fault s geometry (.detectorNotFound name)
  /-- If it has no such name, the first of its types that no detector is of. -/
  | type {known rest : List String} {type : String}
      (names : ∀ name ∈ s.elements "name", name ∈ geometry.names)
      (split : s.elements "type" = known ++ type :: rest)
      (earlier : ∀ other ∈ known, ∃ detector ∈ geometry.detectors, detector.type = other)
      (missing : ∀ detector ∈ geometry.detectors, detector.type ≠ type) :
      Fault s geometry (.detectorTypeNotFound type)

/-- A section knows all that it lists, or something is at fault. -/
theorem known_or_fault (s : Section) (geometry : Geometry) :
    Known s geometry ∨ ∃ err, Fault s geometry err := by
  by_cases names : ∀ name ∈ s.elements "name", name ∈ geometry.names
  · by_cases types : ∀ type ∈ s.elements "type", ∃ detector ∈ geometry.detectors,
      detector.type = type
    · exact .inl ⟨names, types⟩
    · obtain ⟨known, type, rest, split, earlier, missing⟩ := List.exists_first_of_not_forall types
      refine .inr ⟨_, .type names split earlier fun detector among same => ?_⟩
      exact missing ⟨detector, among, same⟩
  · obtain ⟨known, name, rest, split, earlier, missing⟩ := List.exists_first_of_not_forall names
    exact .inr ⟨_, .name split earlier missing⟩

theorem Fault.not_known {err : Error} (fault : Fault s geometry err) : ¬ Known s geometry := by
  intro known
  cases fault with
  | name split earlier missing =>
    exact missing (known.names _ (split ▸ List.mem_append_right _ List.mem_cons_self))
  | type names split earlier missing =>
    obtain ⟨detector, among, same⟩ :=
      known.types _ (split ▸ List.mem_append_right _ List.mem_cons_self)
    exact missing detector among same

/-! ## Names -/

theorem exists_forName_of_mem {name : String} (among : name ∈ geometry.names) :
    ∃ part, forName module geometry name = .ok part := by
  cases found : geometry.find? name with
  | none => exact absurd among (Geometry.find?_eq_none_iff.mp found)
  | some detector =>
    rw [forName, Geometry.detector_eq_ok_iff.mpr found]
    exact ⟨_, rfl⟩

/-- If every name is known, there is one target for each. -/
theorem byName_of_known (module : String) {names : List String}
    (known : ∀ name ∈ names, name ∈ geometry.names) :
    ∃ named : List Detector, named.map Detector.name = names ∧
      (∀ detector ∈ named, detector ∈ geometry.detectors) ∧
      byName module geometry names = .ok (named.map (.forDetector module .name)) := by
  induction names with
  | nil => exact ⟨[], rfl, nofun, rfl⟩
  | cons name rest ih =>
    obtain ⟨here, later⟩ := List.forall_mem_cons.mp known
    obtain ⟨named, rfl, there, found⟩ := ih later
    cases first : geometry.find? name with
    | none => exact absurd here (Geometry.find?_eq_none_iff.mp first)
    | some detector =>
      have same : detector.name = name := by simpa using List.find?_some first
      refine ⟨detector :: named, by rw [List.map_cons, same],
        List.forall_mem_cons.mpr ⟨List.mem_of_find?_eq_some first, there⟩, ?_⟩
      rw [byName, Geometry.detector_eq_ok_iff.mpr first, found]
      rfl

theorem byName_of_missing {known rest : List String} {name : String}
    (earlier : ∀ other ∈ known, other ∈ geometry.names) (missing : name ∉ geometry.names) :
    byName module geometry (known ++ name :: rest) = .error (.detectorNotFound name) := by
  rw [byName_eq_gather]
  refine gather_of_error (fun other among => exists_forName_of_mem (earlier other among)) ?_
  rw [forName, Geometry.detector_eq_error_iff.mpr ⟨rfl, missing⟩]
  rfl

/-! ## Types -/

theorem forType_of_some {names : List String} {type : String}
    (some_there : ∃ detector ∈ geometry.detectors, detector.type = type) :
    forType module geometry names type
      = .ok ((geometry.detectors.filter fun detector =>
          detector.type = type ∧ detector.name ∉ names).map (.forDetector module .type)) := by
  obtain ⟨detector, among, same⟩ := some_there
  have filled : geometry.ofType type ≠ [] :=
    List.ne_nil_of_mem (Geometry.mem_ofType.mpr ⟨among, same⟩)
  have chosen : ((geometry.ofType type).filter fun detector => !names.contains detector.name)
      = geometry.detectors.filter fun detector =>
          detector.type = type ∧ detector.name ∉ names := by
    rw [Geometry.ofType, List.filter_filter]
    refine List.filter_congr fun detector _ => ?_
    simp [Bool.and_comm]
  rw [forType, Geometry.detectorsByType_eq_ok_iff.mpr ⟨rfl, filled⟩, ← chosen]
  rfl

/-- If there are detectors of every type, those that are not named have a target each. -/
theorem byType_of_known {names types : List String}
    (known : ∀ type ∈ types, ∃ detector ∈ geometry.detectors, detector.type = type) :
    byType module geometry names types
      = .ok ((types.flatMap fun type => geometry.detectors.filter fun detector =>
          detector.type = type ∧ detector.name ∉ names).map (.forDetector module .type)) := by
  rw [byType_eq_gather, gather_of_ok fun type among => forType_of_some (known type among),
    List.map_flatMap]

theorem byType_of_missing {names known rest : List String} {type : String}
    (earlier : ∀ other ∈ known, ∃ detector ∈ geometry.detectors, detector.type = other)
    (missing : ∀ detector ∈ geometry.detectors, detector.type ≠ type) :
    byType module geometry names (known ++ type :: rest)
      = .error (.detectorTypeNotFound type) := by
  rw [byType_eq_gather]
  refine gather_of_error (fun other among => ⟨_, forType_of_some (earlier other among)⟩) ?_
  rw [forType, Geometry.detectorsByType_eq_error_iff.mpr ⟨rfl, missing⟩]
  rfl

/-! ## The detectors of a section -/

/-- The detectors that a section selects, in order, where the first are those that it
names. -/
def chosenBy (named : List Detector) (s : Section) (geometry : Geometry) : List Detector :=
  named ++ typedBy s geometry
    ++ if s.has "name" || s.has "type" then [] else geometry.detectors

/-- The targets for these detectors. -/
def targetsFor (module : String) (named : List Detector) (s : Section) (geometry : Geometry) :
    List Target :=
  named.map (.forDetector module .name) ++ (typedBy s geometry).map (.forDetector module .type)
    ++ if s.has "name" || s.has "type" then []
      else geometry.detectors.map (.forDetector module .wildcard)

/-- Some detectors are those that a section names, one for each name, in order. -/
structure Names (s : Section) (geometry : Geometry) (named : List Detector) : Prop where
  names_eq : named.map Detector.name = s.elements "name"
  there : ∀ detector ∈ named, detector ∈ geometry.detectors

/-- A section that knows all that it lists selects detectors. -/
theorem ofDetectors_of_known (module : String) (known : Known s geometry) :
    ∃ named, Names s geometry named ∧
      ofDetectors module s geometry = .ok (targetsFor module named s geometry) := by
  obtain ⟨named, names_eq, there, found⟩ := byName_of_known module known.names
  refine ⟨named, ⟨names_eq, there⟩, ?_⟩
  unfold ofDetectors
  rw [listed_eq, listed_eq]
  simp only [bind, Except.bind, found, byType_of_known known.types]
  rfl

theorem ofDetectors_of_fault (module : String) {err : Error} (fault : Fault s geometry err) :
    ofDetectors module s geometry = .error err := by
  unfold ofDetectors
  rw [listed_eq, listed_eq]
  cases fault with
  | name split earlier missing =>
    simp only [bind, Except.bind, split, byName_of_missing earlier missing]
  | type names split earlier missing =>
    obtain ⟨named, -, -, found⟩ := byName_of_known module names
    simp only [bind, Except.bind, found, split, byType_of_missing earlier missing]

/-- A target for a detector of the setup. -/
def IsFor (module : String) (geometry : Geometry) (target : Target) : Prop :=
  ∃ priority, ∃ detector ∈ geometry.detectors, target = .forDetector module priority detector

theorem map_detector_targetsFor (module : String) (named : List Detector) (s : Section)
    (geometry : Geometry) :
    (targetsFor module named s geometry).map Target.detector
      = (chosenBy named s geometry).map some := by
  unfold targetsFor chosenBy
  split <;> simp [forDetector, Function.comp_def]

theorem map_key_targetsFor (module : String) (named : List Detector) (s : Section)
    (geometry : Geometry) :
    (targetsFor module named s geometry).map (fun target => target.identifier.key)
      = (chosenBy named s geometry).map fun detector => (module, detector.name) := by
  unfold targetsFor chosenBy
  split <;> simp [forDetector, Identifier.key, Function.comp_def]

theorem mem_typedBy {detector : Detector} : detector ∈ typedBy s geometry ↔
    detector ∈ geometry.detectors ∧ detector.type ∈ s.elements "type" ∧
      detector.name ∉ s.elements "name" := by
  rw [typedBy, List.mem_flatMap]
  constructor
  · rintro ⟨type, listed, among⟩
    obtain ⟨there, chosen⟩ := List.mem_filter.mp among
    obtain ⟨rfl, unnamed⟩ := of_decide_eq_true chosen
    exact ⟨there, listed, unnamed⟩
  · rintro ⟨there, listed, unnamed⟩
    exact ⟨_, listed, List.mem_filter.mpr ⟨there, decide_eq_true ⟨rfl, unnamed⟩⟩⟩

variable {named : List Detector}

theorem Names.isFor (names : Names s geometry named) {target : Target}
    (among : target ∈ targetsFor module named s geometry) : target.IsFor module geometry := by
  unfold targetsFor at among
  rw [List.mem_append, List.mem_append] at among
  rcases among with (among | among) | among
  · obtain ⟨detector, there, rfl⟩ := List.mem_map.mp among
    exact ⟨.name, detector, names.there detector there, rfl⟩
  · obtain ⟨detector, there, rfl⟩ := List.mem_map.mp among
    exact ⟨.type, detector, (mem_typedBy.mp there).1, rfl⟩
  · split at among
    · cases among
    · obtain ⟨detector, there, rfl⟩ := List.mem_map.mp among
      exact ⟨.wildcard, detector, there, rfl⟩

/-- What a section asks for: the one instance, or instances for detectors of the setup. -/
theorem of_mem_ofSection {κ ω : Type} [Payload κ] {descriptor : Descriptor κ ω}
    {targets : List Target} {target : Target}
    (asked : ofSection descriptor s geometry = .ok targets) (among : target ∈ targets) :
    (descriptor.scope = .unique → target = .unique descriptor.name) ∧
      (descriptor.scope = .perDetector → target.IsFor descriptor.name geometry) := by
  unfold ofSection at asked
  unfold Descriptor.scope
  cases factory : descriptor.factory with
  | unique construct =>
    rw [factory] at asked
    obtain rfl := Except.ok.inj asked
    exact ⟨fun _ => List.mem_singleton.mp among, nofun⟩
  | perDetector construct =>
    rw [factory] at asked
    refine ⟨nofun, fun _ => ?_⟩
    rcases known_or_fault s geometry with known | ⟨err, fault⟩
    · obtain ⟨named, names, accepted⟩ := ofDetectors_of_known descriptor.name known
      obtain rfl := Except.ok.inj (accepted.symm.trans asked)
      exact names.isFor among
    · cases (ofDetectors_of_fault descriptor.name fault).symm.trans asked

/-- The targets of a section are for the module type that the section is for. -/
theorem module_of_mem_ofSection {κ ω : Type} [Payload κ] {descriptor : Descriptor κ ω}
    {targets : List Target} {target : Target}
    (asked : ofSection descriptor s geometry = .ok targets) (among : target ∈ targets) :
    target.identifier.module = descriptor.name := by
  obtain ⟨unique, each⟩ := of_mem_ofSection asked among
  cases scope : descriptor.scope with
  | unique =>
    rw [unique scope]
    rfl
  | perDetector =>
    obtain ⟨priority, detector, -, rfl⟩ := each scope
    rfl

theorem Names.mem_iff (names : Names s geometry named) (distinct : geometry.Distinct)
    {detector : Detector} : detector ∈ named ↔
      detector ∈ geometry.detectors ∧ detector.name ∈ s.elements "name" := by
  rw [← names.names_eq]
  constructor
  · exact fun among => ⟨names.there detector among, List.mem_map_of_mem among⟩
  · rintro ⟨there, listed⟩
    obtain ⟨other, among, same⟩ := List.mem_map.mp listed
    rwa [← List.inj_on_of_nodup_map distinct (names.there other among) there same]

/-- A detector is selected if its name or its type is listed, and without lists in any case. -/
theorem Names.mem_chosenBy_iff (names : Names s geometry named) (distinct : geometry.Distinct)
    {detector : Detector} : detector ∈ chosenBy named s geometry ↔
      detector ∈ geometry.detectors ∧
        (s.has "name" = true ∨ s.has "type" = true →
          detector.name ∈ s.elements "name" ∨ detector.type ∈ s.elements "type") := by
  unfold chosenBy
  rw [List.mem_append, List.mem_append, names.mem_iff distinct, mem_typedBy]
  by_cases some_key : (s.has "name" || s.has "type") = true
  · have lists : s.has "name" = true ∨ s.has "type" = true := by simpa using some_key
    simp only [some_key, if_true, List.not_mem_nil, or_false, lists, true_imp_iff]
    by_cases listed : detector.name ∈ s.elements "name" <;> simp [listed]
  · have none_there : ¬ (s.has "name" = true ∨ s.has "type" = true) := by simpa using some_key
    rw [if_neg some_key]
    simp only [none_there, false_imp_iff, and_true]
    tauto

/-- If nothing is listed twice, nothing is selected twice. -/
theorem Names.nodup_chosenBy (names : Names s geometry named) (distinct : geometry.Distinct)
    (once : (s.elements "name").Nodup) (once' : (s.elements "type").Nodup) :
    (chosenBy named s geometry).Nodup := by
  have all_once : geometry.detectors.Nodup := distinct.of_map
  have named_once : named.Nodup := (names.names_eq ▸ once).of_map
  have typed_once : (typedBy s geometry).Nodup := by
    refine List.nodup_flatMap.mpr ⟨fun type _ => all_once.filter _, ?_⟩
    refine once'.imp fun {type other} apart detector among among' => apart ?_
    -- A detector is of one type only.
    have here := (of_decide_eq_true (List.mem_filter.mp among).2).1
    have there := (of_decide_eq_true (List.mem_filter.mp among').2).1
    exact here.symm.trans there
  have apart : named.Disjoint (typedBy s geometry) := fun detector among among' =>
    (mem_typedBy.mp among').2.2 ((names.mem_iff distinct).mp among).2
  unfold chosenBy
  by_cases some_key : (s.has "name" || s.has "type") = true
  · rw [if_pos some_key, List.append_nil]
    exact named_once.append typed_once apart
  · obtain ⟨unnamed, untyped⟩ : ¬ s.has "name" = true ∧ ¬ s.has "type" = true := by
      simpa using some_key
    have no_names : named = [] := by
      rw [← List.map_eq_nil_iff, names.names_eq, Section.elements_of_unset unnamed]
    rw [if_neg some_key, no_names, typedBy, Section.elements_of_unset untyped]
    exact all_once

theorem Names.nodup_targetsFor (names : Names s geometry named) (distinct : geometry.Distinct)
    (once : (s.elements "name").Nodup) (once' : (s.elements "type").Nodup) :
    ((targetsFor module named s geometry).map Target.detector).Nodup ∧
      ((targetsFor module named s geometry).map fun target => target.identifier.key).Nodup := by
  have chosen_once := names.nodup_chosenBy distinct once once'
  rw [map_detector_targetsFor, map_key_targetsFor]
  refine ⟨chosen_once.map fun one other => Option.some.inj, ?_⟩
  -- No two detectors of a setup share their name.
  refine chosen_once.map_on fun one among other among' same => ?_
  have there := ((names.mem_chosenBy_iff distinct).mp among).1
  have there' := ((names.mem_chosenBy_iff distinct).mp among').1
  exact List.inj_on_of_nodup_map distinct there there' (Prod.mk.inj same).2

end Target

/-! ## The turns of a section -/

namespace Manager

variable {κ ω : Type} [Payload κ] [DecidableEq κ] {geometry : Geometry}
  {manager after : Manager κ ω} {key : String × String}

/-- Clearing a place leaves the others to those who hold them. -/
theorem holder?_cleared_of_ne {other : String × String} (apart : key ≠ other) :
    (manager.cleared key).holder? other = manager.holder? other := by
  unfold cleared
  split
  · rfl
  · refine List.find?_eraseP_of_apart (fun inst held => ?_) manager.instances
    exact decide_eq_false fun also => apart ((of_decide_eq_true held).symm.trans also)

/-- A request that is dealt with changes no other place. -/
theorem Turn.holder?_of_ne {request : Request κ ω} {made : List (Commission κ ω)}
    (turn : Turn geometry request manager made (.ok ()) after) (apart : request.key ≠ key) :
    after.holder? key = manager.holder? key := by
  cases turn with
  | dropped => rfl
  | @built env left messenger module admitted made =>
    have elsewhere : ¬ request.target.identifier.key = key := apart
    refine Eq.trans ?_ (holder?_cleared_of_ne apart)
    simp [holder?, employ, commission, Commission.site, List.find?_append, elsewhere]

/-- Who holds the place of a target at its turn has held it since before the section, if the
targets of the section are for different places. -/
theorem holder?_of_mem_turns {descriptor : Descriptor κ ω} {s : Section} {targets : List Target}
    {state : Manager κ ω × Env ω} {turn : Target × (Manager κ ω × Env ω)}
    (distinct : (targets.map fun target => target.identifier.key).Nodup)
    (among : turn ∈ Proc.turns (loadTarget descriptor s geometry) targets state) :
    turn.2.1.holder? turn.1.identifier.key = state.1.holder? turn.1.identifier.key := by
  induction targets generalizing state with
  | nil => cases among
  | cons target rest ih =>
    obtain ⟨fresh, distinct⟩ := List.nodup_cons.mp distinct
    rw [Proc.turns, List.mem_cons] at among
    rcases among with rfl | later
    · rfl
    · split at later
      · next mid ran =>
        have apart : target.identifier.key ≠ turn.1.identifier.key := fun same =>
          fresh (List.mem_map.mpr ⟨turn.1, Proc.mem_of_mem_turns later, same.symm⟩)
        have first : Turn geometry ⟨descriptor, s, target⟩ state.1 _ (.ok ()) mid.1 :=
          turn_of_loadTarget ran
        exact (ih distinct later).trans (first.holder?_of_ne apart)
      · cases later

end Manager

/-! ## Sections for module types that are there once per detector -/

namespace Target

variable {κ ω : Type} [Payload κ] [DecidableEq κ]

/-- What comes of a section for a module type that is there once per detector. -/
structure Selects (descriptor : Descriptor κ ω) (s : Section) (geometry : Geometry)
    (outcome : Except Error (List Target)) : Prop where
  refused_iff : (∃ err, outcome = .error err) ↔
    (∃ name ∈ s.elements "name", ∀ detector ∈ geometry.detectors, detector.name ≠ name) ∨
      ∃ type ∈ s.elements "type", ∀ detector ∈ geometry.detectors, detector.type ≠ type
  fault_iff : ∀ err, outcome = .error err ↔ Fault s geometry err
  /-- First come the targets for the names, then those for the types, or else those for all
  detectors. -/
  ordered : ∀ targets, outcome = .ok targets → ∃ named, Names s geometry named ∧
    targets = targetsFor descriptor.name named s geometry
  selected_iff : ∀ targets, outcome = .ok targets → ∀ detector,
    some detector ∈ targets.map Target.detector ↔
      detector ∈ geometry.detectors ∧
        (s.has "name" = true ∨ s.has "type" = true →
          detector.name ∈ s.elements "name" ∨ detector.type ∈ s.elements "type")
  distinct : ∀ targets, outcome = .ok targets →
    (s.elements "name").Nodup → (s.elements "type").Nodup →
    (targets.map Target.detector).Nodup ∧ (targets.map fun target => target.identifier.key).Nodup
  /-- No target is compared with an instance that the same section has asked for. -/
  peaceful : ∀ targets, outcome = .ok targets →
    (s.elements "name").Nodup → (s.elements "type").Nodup →
    ∀ (state : Manager κ ω × Env ω),
      ∀ turn ∈ Proc.turns (Manager.loadTarget descriptor s geometry) targets state,
        turn.2.1.holder? turn.1.identifier.key = state.1.holder? turn.1.identifier.key

theorem not_known_iff {s : Section} {geometry : Geometry} : ¬ Known s geometry ↔
    (∃ name ∈ s.elements "name", ∀ detector ∈ geometry.detectors, detector.name ≠ name) ∨
      ∃ type ∈ s.elements "type", ∀ detector ∈ geometry.detectors, detector.type ≠ type := by
  constructor
  · intro unknown
    by_contra neither
    push Not at neither
    refine unknown ⟨fun name listed => ?_, neither.2⟩
    exact Geometry.mem_names.mpr (neither.1 name listed)
  · rintro (⟨name, listed, missing⟩ | ⟨type, listed, missing⟩) known
    · obtain ⟨detector, among, same⟩ := Geometry.mem_names.mp (known.names name listed)
      exact missing detector among same
    · obtain ⟨detector, among, same⟩ := known.types type listed
      exact missing detector among same

theorem selects_of_distinct {descriptor : Descriptor κ ω} {s : Section} {geometry : Geometry}
    (distinct : geometry.Distinct) :
    Selects descriptor s geometry (ofDetectors descriptor.name s geometry) := by
  rcases known_or_fault s geometry with known | ⟨err, fault⟩
  · obtain ⟨named, names, accepted⟩ := ofDetectors_of_known descriptor.name known
    rw [accepted]
    have once {targets : List Target}
        (same : Except.ok (targetsFor descriptor.name named s geometry)
          = (.ok targets : Except Error _))
        (single : (s.elements "name").Nodup) (single' : (s.elements "type").Nodup) :
        (targets.map Target.detector).Nodup ∧
          (targets.map fun target => target.identifier.key).Nodup :=
      Except.ok.inj same ▸ names.nodup_targetsFor distinct single single'
    refine ⟨?_, fun err => ?_, ?_, ?_, fun targets => once, ?_⟩
    · exact ⟨nofun, fun missing => absurd known (not_known_iff.mpr missing)⟩
    · exact ⟨nofun, fun fault => absurd known fault.not_known⟩
    · intro targets same
      exact ⟨named, names, (Except.ok.inj same).symm⟩
    · intro targets same detector
      obtain rfl := Except.ok.inj same
      rw [map_detector_targetsFor, ← names.mem_chosenBy_iff distinct]
      simp
    · intro targets same single single' state turn among
      exact Manager.holder?_of_mem_turns (once same single single').2 among
  · rw [ofDetectors_of_fault descriptor.name fault]
    refine ⟨?_, fun other => ⟨fun same => ?_, fun other_fault => ?_⟩, nofun, nofun, nofun, nofun⟩
    · exact iff_of_true ⟨err, rfl⟩ (not_known_iff.mp fault.not_known)
    · exact Except.error.inj same ▸ fault
    · exact (ofDetectors_of_fault descriptor.name fault).symm.trans
        (ofDetectors_of_fault descriptor.name other_fault)

/-- **Selection.**  For a module type that is there once per detector, a section is refused
exactly if it lists a name or a type that the setup has not, names first.  Otherwise its
targets are those of the names, in order, and of the types without what is named, or those of
all detectors.  Unless it repeats itself, it selects no detector twice and is in nobody's way
but that of earlier sections. -/
theorem selects_of_grown {calls : List Detector} {geometry : Geometry}
    (grown : Geometry.Grown calls geometry) {descriptor : Descriptor κ ω}
    (each : descriptor.scope = .perDetector) (s : Section) :
    Selects descriptor s geometry (ofSection descriptor s geometry) := by
  have asked : ofSection descriptor s geometry = ofDetectors descriptor.name s geometry := by
    unfold Descriptor.scope at each
    unfold ofSection
    cases factory : descriptor.factory with
    | unique construct =>
      rw [factory] at each
      cases each
    | perDetector construct => rfl
  rw [asked]
  exact selects_of_distinct grown.orderly.distinct

/-- A section with a name and with the types of two detectors, the named one among them. -/
def refFirst : Section :=
  ⟨"Probe", none, [("type", "timepix, fei4"), ("name", "ref")]⟩

/-- A module type that is there once per detector. -/
def probe : Descriptor Builtin.PayloadKind Unit :=
  ⟨"Probe", .perDetector fun _ _ _ => .done Module.idle⟩

/-- The detector with the name comes first, and of the types only the other one is left. -/
theorem selects_refFirst :
    Geometry.Grown Geometry.repeated Geometry.kept ∧ probe.scope = .perDetector ∧
      (∃ targets, ofSection probe refFirst Geometry.kept = .ok targets ∧
        targets.map Target.identifier = [⟨"Probe", "ref", .name⟩, ⟨"Probe", "dut", .type⟩]) ∧
      Selects probe refFirst Geometry.kept (ofSection probe refFirst Geometry.kept) :=
  ⟨Geometry.grown_kept, rfl, ⟨_, by rfl, by decide +kernel⟩,
    selects_of_grown Geometry.grown_kept rfl refFirst⟩

end Target

end DetectorSim
