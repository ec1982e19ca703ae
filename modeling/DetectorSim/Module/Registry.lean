import DetectorSim.Module.Basic

/-!
# The registry of module types

The registry finds a module type by its name.  A name is registered once and
for all.  It also remembers which module types came with which collection; a
collection that is added again replaces what was remembered under its name.
-/

set_option autoImplicit false

namespace DetectorSim

/-- The module types that can be instantiated. -/
structure Registry (κ ω : Type) [Payload κ] where
  descriptors : Table String (Descriptor κ ω)
  collections : Table String (List String)

namespace Registry

variable {κ ω : Type} [Payload κ]

/-- A registry without module types. -/
def empty : Registry κ ω :=
  ⟨.empty, .empty⟩

/-- Whether a name is registered. -/
def has (registry : Registry κ ω) (name : String) : Bool :=
  registry.descriptors.contains name

/-- The registered names, sorted. -/
def names (registry : Registry κ ω) : List String :=
  registry.descriptors.keys

/-- The module type with a given name. -/
def resolve (registry : Registry κ ω) (name : String) : Except Error (Descriptor κ ω) :=
  match registry.descriptors.find? name with
  | some descriptor => .ok descriptor
  | none => .error (.moduleNotFound name)

/-- The module types that came with a collection. -/
def collection (registry : Registry κ ω) (name : String) : Except Error (List String) :=
  match registry.collections.find? name with
  | some modules => .ok modules
  | none => .error (.collectionNotFound name)

/-- Register a module type. -/
def register (descriptor : Descriptor κ ω) : Proc (Registry κ ω × Journal) Unit :=
  fun (registry, journal) =>
    if registry.has descriptor.name then
      (.error (.duplicateModule descriptor.name), (registry, journal))
    else
      (.ok (),
        ({ registry with
            descriptors :=
              registry.descriptors.insertSorted textBefore descriptor.name descriptor },
          journal.write .debug
            s!"Registered module {descriptor.name} ({descriptor.scope.label})"))

/-- A registry of some module types that belong to no collection. -/
def ofDescriptors (descriptors : List (Descriptor κ ω)) : Proc Journal (Registry κ ω) :=
  fun journal =>
    match Proc.each register descriptors (empty, journal) with
    | (outcome, (registry, journal)) => (outcome.map fun _ => registry, journal)

/-- Remember what came with a collection. -/
def enlist (collection : Collection κ ω) : Proc (Registry κ ω × Journal) Unit :=
  fun (registry, journal) =>
    (.ok (),
      ({ registry with
          collections := registry.collections.insertSorted textBefore collection.name
            (collection.descriptors.map fun descriptor => descriptor.name) },
        journal.write .debug
          (s!"Enabled module collection {collection.name}"
            ++ s!" with {collection.descriptors.length} modules")))

/-- Register all module types of a collection.  The types before one that fails
stay registered, but the collection is not remembered then. -/
def addCollection (collection : Collection κ ω) : Proc (Registry κ ω × Journal) Unit := do
  Proc.each register collection.descriptors
  enlist collection

/-- The first of some names that no collection has. -/
def unknown? (available : List (Collection κ ω)) (enabled : List String) : Option String :=
  enabled.find? fun name => !available.any fun collection => collection.name = name

/-- Add a collection if it is enabled. -/
def enable (enabled : List String) (collection : Collection κ ω) :
    Proc (Registry κ ω × Journal) Unit :=
  if enabled.isEmpty || enabled.contains collection.name then addCollection collection
  else Proc.log .debug s!"Module collection {collection.name} is not enabled"

/-- A registry of the enabled collections; all are enabled if none is named. -/
def ofCollections (available : List (Collection κ ω)) (enabled : List String) :
    Proc Journal (Registry κ ω) := fun journal =>
  match unknown? available enabled with
  | some name => (.error (.collectionNotFound name), journal)
  | none =>
      match Proc.each (enable enabled) available (empty, journal) with
      | (outcome, (registry, journal)) => (outcome.map fun _ => registry, journal)

end Registry

end DetectorSim
