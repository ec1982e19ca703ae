import DetectorSim.Proofs.Module.Enabling
import DetectorSim.Proofs.Table

/-!
# The life of a registry

A registry starts empty or with the enabled collections, and calls then register module types,
one at a time or a collection at a time.  A call fails at the first module type whose name is
taken; what the call has registered before that stays, but the collection is not remembered.

Whatever the calls come to, a name stands for the first module type that came under it.  The
names that the collections list are registered, and no name is listed twice, by one collection
or by two: a module type that gets into a new listing has been registered just before, while
all that is listed has been registered earlier.
-/

set_option autoImplicit false

namespace DetectorSim

namespace Registry

variable {κ ω : Type} [Payload κ]

/-! ## Calls -/

/-- A call that changes a registry. -/
inductive Call (κ ω : Type) [Payload κ]
  | register (descriptor : Descriptor κ ω)
  | addCollection (collection : Collection κ ω)

namespace Call

/-- What a call does. -/
def perform : Call κ ω → Proc (Registry κ ω × Journal) Unit
  | .register descriptor => Registry.register descriptor
  | .addCollection collection => Registry.addCollection collection

/-- The module types that a call is given. -/
def descriptors : Call κ ω → List (Descriptor κ ω)
  | .register descriptor => [descriptor]
  | .addCollection collection => collection.descriptors

/-- The module types that a call comes to.  These are all that it is given, or those up to the
first one whose name is taken. -/
def presented (call : Call κ ω) (state : Registry κ ω × Journal) : List (Descriptor κ ω) :=
  (Proc.turns Registry.register call.descriptors state).map Prod.fst

end Call

/-- What a registry starts with, and the module types that it has come to by then. -/
inductive Starts : List (Descriptor κ ω) → Registry κ ω → Prop
  | empty : Starts [] empty
  | enabled {available : List (Collection κ ω)} {enabled : List String} {journal : Journal}
      {registry : Registry κ ω}
      (made : (ofCollections available enabled journal).1 = .ok registry) :
      Starts (offered (chosen available enabled)) registry

/-- Calls, whatever comes of each, turn one registry into another, and come to some module
types on the way. -/
inductive Becomes (start : Registry κ ω) : List (Descriptor κ ω) → Registry κ ω → Prop
  | start : Becomes start [] start
  | call {presented : List (Descriptor κ ω)} {registry : Registry κ ω}
      (before : Becomes start presented registry) (call : Call κ ω) (journal : Journal) :
      Becomes start (presented ++ call.presented (registry, journal))
        (call.perform (registry, journal)).2.1

/-- The first of some module types that has a given name. -/
def first? (presented : List (Descriptor κ ω)) (name : String) : Option (Descriptor κ ω) :=
  presented.find? fun descriptor => descriptor.name = name

/-- A registry is consistent with the module types that it has come to. -/
structure Consistent (presented : List (Descriptor κ ω)) (registry : Registry κ ω) : Prop where
  sorted : registry.names.Pairwise fun a b => textBefore a b = true
  distinct : registry.names.Nodup
  named_iff : ∀ name, name ∈ registry.names ↔
    ∃ descriptor, registry.resolve name = .ok descriptor
  /-- A name stands for the first module type that came under it. -/
  first_iff : ∀ name descriptor, registry.resolve name = .ok descriptor ↔
    first? presented name = some descriptor
  /-- No later call takes a module type away or puts another in its place. -/
  kept : ∀ later after, Becomes registry later after → ∀ name descriptor,
    registry.resolve name = .ok descriptor → after.resolve name = .ok descriptor
  listed : ∀ name modules, registry.collection name = .ok modules →
    ∀ module ∈ modules, ∃ descriptor, registry.resolve module = .ok descriptor
  once : ∀ name modules, registry.collection name = .ok modules → modules.Nodup
  apart : ∀ name modules other others, name ≠ other → registry.collection name = .ok modules →
    registry.collection other = .ok others → modules.Disjoint others
  /-- A call that fails leaves all listings as they are. -/
  spared : ∀ (call : Call κ ω) journal, (call.perform (registry, journal)).1 ≠ .ok () →
    (call.perform (registry, journal)).2.1.collections = registry.collections

/-! ## Registering one module type after the other -/

/-- A module type is registered, or its name is taken and nothing changes. -/
theorem register_cases (descriptor : Descriptor κ ω) (registry : Registry κ ω)
    (journal : Journal) :
    (registry.descriptors.find? descriptor.name ≠ none ∧
        register descriptor (registry, journal)
          = (.error (.duplicateModule descriptor.name), (registry, journal))) ∨
      registry.descriptors.find? descriptor.name = none ∧
        ∃ after, register descriptor (registry, journal)
          = (.ok (),
            ({ registry with
                descriptors :=
                  registry.descriptors.insertSorted textBefore descriptor.name descriptor },
              after)) := by
  cases found : registry.descriptors.find? descriptor.name with
  | none =>
    have free : ¬ registry.has descriptor.name = true := by
      rw [has, Table.contains, found]
      exact Bool.false_ne_true
    exact .inr ⟨rfl, _, if_neg free⟩
  | some other =>
    have taken : registry.has descriptor.name = true := by
      rw [has, Table.contains, found]
      rfl
    exact .inl ⟨Option.some_ne_none other, if_pos taken⟩

/-- Registering leaves the listings alone. -/
theorem keeps_collections_register (descriptor : Descriptor κ ω) :
    Proc.Keeps (fun state : Registry κ ω × Journal => state.1.collections)
      (register descriptor) := by
  intro ⟨registry, journal⟩
  rcases register_cases descriptor registry journal with ⟨-, ran⟩ | ⟨-, _, ran⟩ <;> rw [ran]

theorem first?_cons (descriptor : Descriptor κ ω) (rest : List (Descriptor κ ω)) (name : String) :
    first? (descriptor :: rest) name
      = if descriptor.name = name then some descriptor else first? rest name := by
  rw [first?, List.find?_cons]
  by_cases same : descriptor.name = name <;> simp [same, first?]

theorem first?_ne_none_iff {presented : List (Descriptor κ ω)} {name : String} :
    first? presented name ≠ none ↔ name ∈ presented.map Descriptor.name := by
  simp [first?]

theorem first?_append (earlier later : List (Descriptor κ ω)) (name : String) :
    first? (earlier ++ later) name = (first? earlier name).or (first? later name) :=
  List.find?_append

/-- What is found after some module types have had their turn: what was found before, or else
the first of them with the name. -/
theorem find?_each_register (items : List (Descriptor κ ω)) (state : Registry κ ω × Journal)
    (name : String) :
    (Proc.each register items state).2.1.descriptors.find? name
      = (state.1.descriptors.find? name).or
          (first? ((Proc.turns register items state).map Prod.fst) name) := by
  induction items generalizing state with
  | nil => exact (Option.or_none).symm
  | cons descriptor rest ih =>
    obtain ⟨registry, journal⟩ := state
    rcases register_cases descriptor registry journal with ⟨taken, ran⟩ | ⟨free, after, ran⟩
    · rw [Proc.each_cons_of_ne ran nofun, Proc.turns_cons_of_ne ran nofun, List.map_singleton,
        first?_cons]
      -- The one that is refused is not needed: something is found under its name.
      by_cases same : descriptor.name = name
      · obtain ⟨held, found⟩ := Option.ne_none_iff_exists'.mp (same ▸ taken)
        simp [found]
      · simp [same, first?]
    · rw [Proc.each_cons_of_ok ran, Proc.turns_cons_of_ok ran, ih, List.map_cons, first?_cons,
        Table.insertSorted, Table.find?_alterSorted]
      by_cases same : descriptor.name = name
      · subst same
        simp [free]
      · simp [same]

theorem ascending_each_register (items : List (Descriptor κ ω))
    (state : Registry κ ω × Journal) (ascending : state.1.descriptors.Ascending) :
    (Proc.each register items state).2.1.descriptors.Ascending := by
  induction items generalizing state with
  | nil => exact ascending
  | cons descriptor rest ih =>
    obtain ⟨registry, journal⟩ := state
    rcases register_cases descriptor registry journal with ⟨-, ran⟩ | ⟨-, after, ran⟩
    · rwa [Proc.each_cons_of_ne ran nofun]
    · rw [Proc.each_cons_of_ok ran]
      exact ih _ (ascending.insertSorted descriptor.name descriptor)

/-- Module types that are all registered had names of their own, and none was taken. -/
theorem fresh_of_each_register {items : List (Descriptor κ ω)}
    {state after : Registry κ ω × Journal}
    (ran : Proc.each register items state = (.ok (), after)) :
    (items.map Descriptor.name).Nodup ∧
      ∀ name ∈ items.map Descriptor.name, state.1.descriptors.find? name = none := by
  induction items generalizing state with
  | nil => exact ⟨.nil, nofun⟩
  | cons descriptor rest ih =>
    obtain ⟨registry, journal⟩ := state
    obtain ⟨mid, first, later⟩ := Proc.each_cons_eq_ok.mp ran
    obtain ⟨distinct, fresh⟩ := ih later
    rcases register_cases descriptor registry journal with ⟨-, failed⟩ | ⟨free, after, added⟩
    · cases first.symm.trans failed
    · obtain rfl := (Prod.mk.inj (first.symm.trans added)).2
      rw [List.map_cons]
      have spared (name : String) (among : name ∈ rest.map Descriptor.name) :
          descriptor.name ≠ name ∧ registry.descriptors.find? name = none := by
        have missing := fresh name among
        rw [Table.insertSorted, Table.find?_alterSorted] at missing
        split at missing
        · cases missing
        · next apart => exact ⟨apart, missing⟩
      refine ⟨List.nodup_cons.mpr ⟨fun again => (spared _ again).1 rfl, distinct⟩, ?_⟩
      exact List.forall_mem_cons.mpr ⟨free, fun name among => (spared name among).2⟩

/-! ## What a call does to a registry -/

/-- A collection is remembered if all that it has is registered; otherwise adding it is no more
than registering what comes before the failure. -/
theorem addCollection_cases (collection : Collection κ ω) (state : Registry κ ω × Journal) :
    (∃ registry journal after,
        Proc.each register collection.descriptors state = (.ok (), (registry, journal)) ∧
        addCollection collection state
          = (.ok (),
            ({ registry with
                collections := registry.collections.insertSorted textBefore collection.name
                  (collection.descriptors.map Descriptor.name) },
              after))) ∨
      (addCollection collection state).1 ≠ .ok () ∧
        addCollection collection state = Proc.each register collection.descriptors state := by
  have steps : addCollection collection
      = Proc.andThen (Proc.each register collection.descriptors) fun _ => enlist collection := rfl
  rw [steps, Proc.andThen]
  rcases Proc.each register collection.descriptors state with ⟨_ | err | text, registry, journal⟩
  · exact .inl ⟨registry, journal, _, rfl, rfl⟩
  · exact .inr ⟨by simp, rfl⟩
  · exact .inr ⟨by simp, rfl⟩

namespace Call

theorem descriptors_perform (call : Call κ ω) (state : Registry κ ω × Journal) :
    (call.perform state).2.1.descriptors
      = (Proc.each Registry.register call.descriptors state).2.1.descriptors := by
  cases call with
  | register descriptor => rw [perform, descriptors, Proc.each_singleton]
  | addCollection collection =>
    rw [perform, descriptors]
    rcases addCollection_cases collection state with ⟨registry, _, _, ran, added⟩ | ⟨-, same⟩
    · rw [added, ran]
    · rw [same]

/-- A call that ends well has registered all that it is given. -/
theorem each_of_perform_ok {call : Call κ ω} {state : Registry κ ω × Journal}
    (done : (call.perform state).1 = .ok ()) :
    ∃ mid, Proc.each Registry.register call.descriptors state = (.ok (), mid) := by
  cases call with
  | register descriptor =>
    rw [descriptors, Proc.each_singleton]
    exact ⟨_, Prod.ext done rfl⟩
  | addCollection collection =>
    rcases addCollection_cases collection state with ⟨registry, journal, -, ran, -⟩ | ⟨failed, -⟩
    · exact ⟨_, ran⟩
    · exact absurd done failed

theorem presented_of_ok {call : Call κ ω} {state : Registry κ ω × Journal}
    (done : (call.perform state).1 = .ok ()) : call.presented state = call.descriptors := by
  obtain ⟨mid, ran⟩ := each_of_perform_ok done
  exact Proc.turns_of_ok ran

/-- A call leaves all listings as they are, or else it ends well and lists a collection of
which it has registered all module types. -/
theorem collections_perform (call : Call κ ω) (state : Registry κ ω × Journal) :
    (call.perform state).2.1.collections = state.1.collections ∨
      ∃ collection : Collection κ ω, (call.perform state).1 = .ok () ∧
        call.descriptors = collection.descriptors ∧
        (call.perform state).2.1.collections
          = state.1.collections.insertSorted textBefore collection.name
              (collection.descriptors.map Descriptor.name) := by
  cases call with
  | register descriptor => exact .inl (keeps_collections_register descriptor state)
  | addCollection collection =>
    have kept := Proc.Keeps.each keeps_collections_register collection.descriptors state
    rw [perform]
    rcases addCollection_cases collection state with ⟨registry, _, _, ran, added⟩ | ⟨-, same⟩
    · rw [ran] at kept
      exact .inr ⟨collection, congrArg Prod.fst added, rfl, by rw [added, ← kept]⟩
    · exact .inl (same ▸ kept)

theorem find?_perform (call : Call κ ω) (state : Registry κ ω × Journal) (name : String) :
    (call.perform state).2.1.descriptors.find? name
      = (state.1.descriptors.find? name).or (first? (call.presented state) name) := by
  rw [call.descriptors_perform, find?_each_register, presented]

theorem find?_perform_of_some {call : Call κ ω} {state : Registry κ ω × Journal} {name : String}
    {descriptor : Descriptor κ ω} (found : state.1.descriptors.find? name = some descriptor) :
    (call.perform state).2.1.descriptors.find? name = some descriptor := by
  rw [call.find?_perform, found, Option.some_or]

end Call

/-! ## Listings -/

/-- What the collections list is registered, and nothing is listed twice. -/
structure Listings (registered : String → Prop) (collections : Table String (List String)) :
    Prop where
  known : ∀ name modules, collections.find? name = some modules →
    ∀ module ∈ modules, registered module
  once : ∀ name modules, collections.find? name = some modules → modules.Nodup
  apart : ∀ name modules other others, name ≠ other → collections.find? name = some modules →
    collections.find? other = some others → modules.Disjoint others

namespace Listings

variable {registered : String → Prop} {collections : Table String (List String)}

theorem mono {more : String → Prop} (listings : Listings registered collections)
    (stays : ∀ module, registered module → more module) : Listings more collections where
  known name modules held module among :=
    stays module (listings.known name modules held module among)
  once := listings.once
  apart := listings.apart

/-- A listing of what was not registered before is apart from all others.  It may take the
place of one of its own name. -/
theorem insertSorted (listings : Listings registered collections) (name : String)
    {modules : List String} (distinct : modules.Nodup)
    (fresh : ∀ module ∈ modules, ¬ registered module) :
    Listings (fun module => registered module ∨ module ∈ modules)
      (collections.insertSorted textBefore name modules) := by
  have held_iff (other : String) (others : List String) :
      (collections.insertSorted textBefore name modules).find? other = some others ↔
        if name = other then modules = others else collections.find? other = some others := by
    rw [Table.insertSorted, Table.find?_alterSorted]
    split <;> simp
  have separate {other : String} {others : List String}
      (held : collections.find? other = some others) : others.Disjoint modules :=
    fun module among added => fresh module added (listings.known other others held module among)
  refine ⟨fun other others held module among => ?_, fun other others held => ?_,
    fun one ones other others ne held held' => ?_⟩
  · rw [held_iff] at held
    split at held
    · exact .inr (held ▸ among)
    · exact .inl (listings.known other others held module among)
  · rw [held_iff] at held
    split at held
    · exact held ▸ distinct
    · exact listings.once other others held
  · rw [held_iff] at held held'
    split at held <;> split at held'
    · next here there => exact absurd (here.symm.trans there) ne
    · exact held ▸ List.disjoint_comm.mp (separate held')
    · exact held' ▸ separate held
    · exact listings.apart one ones other others ne held held'

end Listings

/-! ## What all calls keep -/

/-- The tables of a registry that has come to some module types. -/
structure Ledger (presented : List (Descriptor κ ω)) (registry : Registry κ ω) : Prop where
  ascending : registry.descriptors.Ascending
  found : ∀ name, registry.descriptors.find? name = first? presented name
  listings : Listings (fun name => registry.descriptors.find? name ≠ none) registry.collections

variable {start registry : Registry κ ω} {first presented later : List (Descriptor κ ω)}

theorem ledger_empty : Ledger [] (empty : Registry κ ω) :=
  ⟨.empty, fun _ => rfl, fun _ _ => nofun, fun _ _ => nofun, fun _ _ _ _ _ => nofun⟩

theorem Call.listings_perform {call : Call κ ω} {journal : Journal}
    (listings : Listings (fun name => registry.descriptors.find? name ≠ none)
      registry.collections) :
    Listings (fun name => (call.perform (registry, journal)).2.1.descriptors.find? name ≠ none)
      (call.perform (registry, journal)).2.1.collections := by
  have stays (name : String) (there : registry.descriptors.find? name ≠ none) :
      (call.perform (registry, journal)).2.1.descriptors.find? name ≠ none := by
    obtain ⟨descriptor, held⟩ := Option.ne_none_iff_exists'.mp there
    rw [Call.find?_perform_of_some held]
    nofun
  rcases call.collections_perform (registry, journal) with
    same | ⟨collection, done, given, grown⟩
  · rw [same]
    exact listings.mono stays
  · obtain ⟨mid, ran⟩ := Call.each_of_perform_ok done
    obtain ⟨distinct, fresh⟩ := fresh_of_each_register (given ▸ ran)
    rw [grown]
    refine (listings.insertSorted collection.name distinct fun name among there =>
      there (fresh name among)).mono fun name there => ?_
    rcases there with there | among
    · exact stays name there
    · rw [call.find?_perform, Call.presented_of_ok done, given, fresh name among, Option.none_or]
      exact first?_ne_none_iff.mpr among

namespace Ledger

theorem call (ledger : Ledger presented registry) (call : Call κ ω) (journal : Journal) :
    Ledger (presented ++ call.presented (registry, journal))
      (call.perform (registry, journal)).2.1 where
  ascending := call.descriptors_perform _ ▸ ascending_each_register _ _ ledger.ascending
  found name := by rw [call.find?_perform, ledger.found, first?_append]
  listings := Call.listings_perform ledger.listings

theorem becomes (ledger : Ledger first start) (becomes : Becomes start later registry) :
    Ledger (first ++ later) registry := by
  induction becomes with
  | start => rwa [List.append_nil]
  | call before call journal ih =>
    rw [← List.append_assoc]
    exact ih.call call journal

end Ledger

theorem Becomes.find?_of_some (becomes : Becomes start later registry) {name : String}
    {descriptor : Descriptor κ ω} (found : start.descriptors.find? name = some descriptor) :
    registry.descriptors.find? name = some descriptor := by
  induction becomes with
  | start => exact found
  | call before call journal ih => exact Call.find?_perform_of_some ih

/-! ## Enabled collections -/

/-- Enabling collections is adding them, one call after the other. -/
theorem Becomes.each_enable (becomes : Becomes start presented registry)
    {available : List (Collection κ ω)} {enabled : List String} {journal : Journal}
    {after : Registry κ ω × Journal}
    (ran : Proc.each (enable enabled) available (registry, journal) = (.ok (), after)) :
    Becomes start (presented ++ offered (chosen available enabled)) after.1 := by
  induction available generalizing presented registry journal with
  | nil =>
    cases ran
    rwa [chosen, List.filter_nil, offered, List.flatMap_nil, List.append_nil]
  | cons collection rest ih =>
    obtain ⟨⟨mid, written⟩, first, others⟩ := Proc.each_cons_eq_ok.mp ran
    rw [enable] at first
    by_cases among : enabled = [] ∨ collection.name ∈ enabled
    · rw [if_pos (by simpa using among)] at first
      rw [chosen, List.filter_cons_of_pos (by simpa using among), offered, List.flatMap_cons,
        ← List.append_assoc]
      have added : (Call.addCollection collection).perform (registry, journal)
          = (.ok (), (mid, written)) := first
      have grown := becomes.call (.addCollection collection) journal
      rw [Call.presented_of_ok (congrArg Prod.fst added), added] at grown
      exact ih grown others
    · rw [if_neg (by simpa using among)] at first
      rw [chosen, List.filter_cons_of_neg (by simpa using among)]
      cases first
      exact ih becomes others

theorem becomes_of_ofCollections {available : List (Collection κ ω)} {enabled : List String}
    {journal : Journal} (made : (ofCollections available enabled journal).1 = .ok registry) :
    Becomes empty (offered (chosen available enabled)) registry := by
  cases missing : unknown? available enabled with
  | some name =>
    rw [ofCollections, missing] at made
    cases made
  | none =>
    rw [fst_ofCollections_of_known (unknown?_eq_none_iff.mp missing)] at made
    rcases ran : Proc.each (enable enabled) available (empty, journal) with ⟨_ | err | text, after⟩
    · rw [ran] at made
      cases made
      exact Becomes.start.each_enable ran
    · rw [ran] at made
      cases made
    · rw [ran] at made
      cases made

theorem Starts.ledger (starts : Starts first start) : Ledger first start := by
  cases starts with
  | empty => exact ledger_empty
  | enabled made => exact ledger_empty.becomes (becomes_of_ofCollections made)

/-! ## Consistency -/

theorem exists_resolve_iff {name : String} :
    (∃ descriptor, registry.resolve name = .ok descriptor) ↔
      registry.descriptors.find? name ≠ none := by
  simp only [resolve_eq_ok_iff, Option.ne_none_iff_exists']

/-- A module type is found under its own name. -/
theorem Ledger.name_of_resolve (ledger : Ledger presented registry) {name : String}
    {descriptor : Descriptor κ ω} (found : registry.resolve name = .ok descriptor) :
    descriptor.name = name := by
  rw [resolve_eq_ok_iff, ledger.found, first?] at found
  simpa using List.find?_some found

theorem Ledger.consistent (ledger : Ledger presented registry) :
    Consistent presented registry where
  sorted := ledger.ascending
  distinct := ledger.ascending.nodup
  named_iff name := Table.mem_keys_iff.trans exists_resolve_iff.symm
  first_iff name descriptor := by rw [resolve_eq_ok_iff, ledger.found]
  kept later after becomes name descriptor found :=
    resolve_eq_ok_iff.mpr (becomes.find?_of_some (resolve_eq_ok_iff.mp found))
  listed name modules held module among :=
    exists_resolve_iff.mpr
      (ledger.listings.known name modules (collection_eq_ok_iff.mp held) module among)
  once name modules held := ledger.listings.once name modules (collection_eq_ok_iff.mp held)
  apart name modules other others ne held held' := ledger.listings.apart name modules other others
    ne (collection_eq_ok_iff.mp held) (collection_eq_ok_iff.mp held')
  spared call journal failed := by
    rcases call.collections_perform (registry, journal) with same | ⟨-, done, -⟩
    · exact same
    · exact absurd done failed

/-- **Registration.**  Whatever calls a registry has seen, and whatever came of them, its names
are sorted, each stands for the first module type that came under it and will go on to do so,
and the listings of its collections are of such names, none of them listed twice.  A call that
fails leaves the listings alone. -/
theorem consistent_of_becomes (starts : Starts first start)
    (becomes : Becomes start later registry) : Consistent (first ++ later) registry :=
  (starts.ledger.becomes becomes).consistent

/-- The registry that has one tracking collection, with a finder. -/
def started : Registry Builtin.PayloadKind Unit :=
  ⟨⟨[("Finder", ⟨"Finder", .unique fun _ _ _ => .done .idle⟩)]⟩, ⟨[("tracking", ["Finder"])]⟩⟩

/-- A tracking collection with a fitter and, once more, a finder. -/
def overlapping : Collection Builtin.PayloadKind Unit :=
  ⟨"tracking", (single "Fitter").descriptors ++ (single "Finder").descriptors⟩

/-- Adding the overlapping collection fails when the fitter is registered already.  Then a
collection of the same name takes the place of the first one in the listings, while the finder
and the fitter stay. -/
theorem consistent_overlapping :
    ∃ first later registry, Starts first started ∧ Becomes started later registry ∧
      first.map Descriptor.name = ["Finder"] ∧
      later.map Descriptor.name = ["Fitter", "Finder", "Seeder"] ∧
      registry.names = ["Finder", "Fitter", "Seeder"] ∧
      registry.collection "tracking" = .ok ["Seeder"] ∧
      Consistent (first ++ later) registry := by
  have starts : Starts (offered (chosen [single "Finder"] ["tracking"])) started :=
    .enabled (rfl : (ofCollections [single "Finder"] ["tracking"] .empty).1 = .ok started)
  have unchanged : Becomes started [] started := .start
  have becomes := (unchanged.call (.addCollection overlapping) .empty).call
    (.addCollection (single "Seeder")) .empty
  exact ⟨_, _, _, starts, becomes, by decide +kernel, by decide +kernel, by decide +kernel, rfl,
    consistent_of_becomes starts becomes⟩

end Registry

end DetectorSim
