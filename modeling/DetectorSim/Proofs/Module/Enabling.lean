import DetectorSim.Builtin.Payload
import DetectorSim.Module.Registry
import DetectorSim.Proofs.Keyed
import DetectorSim.Proofs.Procedure

/-!
# Enabling collections

A registry is made of the collections that are enabled.  An enabled name that no collection
has ends the making, and so does a module type whose name an earlier one has taken.  If
neither happens, every module type of the enabled collections is found, and no other.

Under the name of a collection stands what the last collection of that name has brought.
It is all that came under the name only if no earlier collection of that name has brought
anything.
-/

set_option autoImplicit false

namespace DetectorSim

/-! ## The first repetition -/

namespace List

variable {α : Type} {items : List α} {item other : α}

/-- The first element of a list that occurs a second time. -/
def Repeats (items : List α) (item : α) : Prop :=
  ∃ before after, items = before ++ item :: after ∧ before.Nodup ∧ item ∈ before

theorem Repeats.append (repeats : Repeats items item) (more : List α) :
    Repeats (items ++ more) item := by
  obtain ⟨before, after, rfl, distinct, among⟩ := repeats
  exact ⟨before, after ++ more, by simp, distinct, among⟩

theorem Repeats.not_nodup (repeats : Repeats items item) : ¬ items.Nodup := by
  obtain ⟨before, after, rfl, -, among⟩ := repeats
  intro distinct
  exact List.disjoint_of_nodup_append distinct among List.mem_cons_self

theorem Repeats.unique (repeats : Repeats items item) (repeats' : Repeats items other) :
    item = other := by
  obtain ⟨before, after, split, distinct, among⟩ := repeats
  obtain ⟨before', after', split', distinct', among'⟩ := repeats'
  -- Neither of the two reaches beyond the other's repetition.
  have bound {front back front' back' : List α} {a b : α} (one : items = front ++ a :: back)
      (two : items = front' ++ b :: back') (among : a ∈ front) (distinct : front'.Nodup) :
      front'.length ≤ front.length := by
    by_contra longer
    have reached : front ++ [a] <+: items := ⟨back, by rw [one, List.append_assoc]; rfl⟩
    have within : front ++ [a] <+: front' := by
      refine List.prefix_of_prefix_length_le reached ⟨b :: back', two.symm⟩ ?_
      rw [List.length_append]
      exact Nat.lt_of_not_le longer
    exact List.disjoint_of_nodup_append (distinct.sublist within.sublist) among
      (List.mem_singleton_self a)
  have same : before.length = before'.length :=
    Nat.le_antisymm (bound split' split among' distinct) (bound split split' among distinct')
  obtain ⟨-, tails⟩ := List.append_inj (split.symm.trans split') same
  exact (List.cons.inj tails).1

end List

namespace Registry

variable {κ ω : Type} [Payload κ]

/-! ## What is made of some collections -/

/-- The module types of some collections, in order. -/
def offered (collections : List (Collection κ ω)) : List (Descriptor κ ω) :=
  collections.flatMap Collection.descriptors

/-- The collections that are enabled, in order; all of them if no name is given. -/
def chosen (available : List (Collection κ ω)) (enabled : List String) :
    List (Collection κ ω) :=
  available.filter fun collection => enabled = [] ∨ collection.name ∈ enabled

/-- A registry finds exactly the module types of some collections, each by its name, and
lists under the name of a collection what the last one of that name has. -/
structure Offers (collections : List (Collection κ ω)) (registry : Registry κ ω) : Prop where
  found_iff : ∀ name descriptor, registry.resolve name = .ok descriptor ↔
    descriptor ∈ offered collections ∧ descriptor.name = name
  missing_iff : ∀ name err, registry.resolve name = .error err ↔
    err = .moduleNotFound name ∧ ∀ descriptor ∈ offered collections, descriptor.name ≠ name
  listed_iff : ∀ name modules, registry.collection name = .ok modules ↔
    ∃ front collection back, collections = front ++ collection :: back ∧
      collection.name = name ∧ (∀ other ∈ back, other.name ≠ name) ∧
      modules = collection.descriptors.map Descriptor.name
  unlisted_iff : ∀ name err, registry.collection name = .error err ↔
    err = .collectionNotFound name ∧ ∀ collection ∈ collections, collection.name ≠ name
  /-- All that came under a name is listed if and only if the last collection of that name
  has brought all of it. -/
  complete_iff : ∀ front collection back, collections = front ++ collection :: back →
    (∀ other ∈ back, other.name ≠ collection.name) →
    (registry.collection collection.name
        = .ok ((offered (collections.filter fun other => other.name = collection.name)).map
            Descriptor.name) ↔
      ∀ other ∈ front, other.name = collection.name → other.descriptors = [])

/-- Why collections cannot be enabled. -/
inductive Fault (available : List (Collection κ ω)) (enabled : List String) : Error → Prop
  /-- The first of the enabled names that no collection has. -/
  | unknown {known rest : List String} {name : String} (split : enabled = known ++ name :: rest)
      (earlier : ∀ other ∈ known, ∃ collection ∈ available, collection.name = other)
      (missing : ∀ collection ∈ available, collection.name ≠ name) :
      Fault available enabled (.collectionNotFound name)
  /-- The first name of a module type that occurs a second time. -/
  | repeated {name : String}
      (known : ∀ other ∈ enabled, ∃ collection ∈ available, collection.name = other)
      (repeats : List.Repeats ((offered (chosen available enabled)).map Descriptor.name) name) :
      Fault available enabled (.duplicateModule name)

/-- How the making of a registry from the enabled collections ends. -/
structure Enables (available : List (Collection κ ω)) (enabled : List String)
    (outcome : Outcome (Registry κ ω)) : Prop where
  accepted_iff : (∃ registry, outcome = .ok registry) ↔
    (∀ name ∈ enabled, ∃ collection ∈ available, collection.name = name) ∧
      ((offered (chosen available enabled)).map Descriptor.name).Nodup
  offers : ∀ registry, outcome = .ok registry → Offers (chosen available enabled) registry
  refused_iff : ∀ err, outcome = .error err ↔ Fault available enabled err
  ends : ∀ text, outcome ≠ .panic text

/-! ## Registering module types -/

variable {listed : List (Descriptor κ ω)} {collections : List (Collection κ ω)}
  {registry : Registry κ ω}

/-- The tables of a registry that some module types were registered in, and some
collections remembered. -/
structure Holds (listed : List (Descriptor κ ω)) (collections : List (Collection κ ω))
    (registry : Registry κ ω) : Prop where
  distinct : (listed.map Descriptor.name).Nodup
  found : ∀ name, registry.descriptors.find? name
    = listed.find? fun descriptor => descriptor.name = name
  remembered : ∀ name, registry.collections.find? name
    = (collections.reverse.find? fun collection => collection.name = name).map
        fun collection => collection.descriptors.map Descriptor.name

theorem holds_empty : Holds [] [] (empty : Registry κ ω) :=
  ⟨List.nodup_nil, fun _ => rfl, fun _ => rfl⟩

theorem Holds.has_iff (holds : Holds listed collections registry) {name : String} :
    registry.has name = true ↔ name ∈ listed.map Descriptor.name := by
  rw [has, Table.contains, holds.found]
  simp

/-- A module type is registered under a new name, or else its name is the first that
occurs again. -/
theorem Holds.register (holds : Holds listed collections registry)
    (descriptor : Descriptor κ ω) (journal : Journal) :
    (∃ after, register descriptor (registry, journal) = (.ok (), after) ∧
        Holds (listed ++ [descriptor]) collections after.1) ∨
      ∃ err, (Registry.register descriptor (registry, journal)).1 = .error err ∧
        ∃ name, err = .duplicateModule name ∧
          List.Repeats ((listed ++ [descriptor]).map Descriptor.name) name := by
  rw [List.map_append, List.map_singleton]
  by_cases taken : registry.has descriptor.name
  · refine .inr ⟨_, ?_, descriptor.name, rfl, _, [], rfl, holds.distinct, holds.has_iff.mp taken⟩
    rw [Registry.register, if_pos taken]
  · have free := mt holds.has_iff.mpr taken
    refine .inl ⟨_, by rw [Registry.register, if_neg taken], ?_, fun name => ?_, holds.remembered⟩
    · rw [List.map_append, List.map_singleton]
      exact List.concat_eq_append ▸ List.Nodup.concat free holds.distinct
    · rw [List.find?_append, Table.insertSorted, Table.find?_alterSorted, holds.found]
      by_cases same : descriptor.name = name
      · subst same
        have fresh : (listed.find? fun other => other.name = descriptor.name) = none := by
          simpa using free
        simp [fresh]
      · simp [same]

/-- The module types of a collection are registered and the collection remembered, or else
one of them has a name that occurs again. -/
theorem Holds.addCollection (holds : Holds (offered collections) collections registry)
    (collection : Collection κ ω) (journal : Journal) :
    (∃ after, addCollection collection (registry, journal) = (.ok (), after) ∧
        Holds (offered (collections ++ [collection])) (collections ++ [collection]) after.1) ∨
      ∃ err, (Registry.addCollection collection (registry, journal)).1 = .error err ∧
        ∃ name, err = .duplicateModule name ∧
          List.Repeats ((offered (collections ++ [collection])).map Descriptor.name) name := by
  have offered_eq : offered (collections ++ [collection])
      = offered collections ++ collection.descriptors := by
    rw [offered, List.flatMap_append, List.flatMap_singleton, offered]
  rw [offered_eq]
  rcases Proc.each_ok_or_error (f := Registry.register)
      (P := fun earlier state => Holds (offered collections ++ earlier) collections state.1)
      (Q := fun earlier err => ∃ name, err = .duplicateModule name ∧
        List.Repeats ((offered collections ++ earlier).map Descriptor.name) name)
      (fun earlier descriptor state holds => by
        rw [← List.append_assoc]
        exact holds.register descriptor state.2)
      (fun earlier descriptor err ⟨name, same, repeats⟩ => by
        refine ⟨name, same, ?_⟩
        rw [← List.append_assoc, List.map_append]
        exact repeats.append _)
      (registry, journal) (by rwa [List.append_nil]) collection.descriptors with
    ⟨mid, ran, held⟩ | ⟨err, failed, name, same, repeats⟩
  · refine .inl ⟨_, Proc.andThen_eq_ok.mpr ⟨(), mid, ran, rfl⟩, held.distinct, held.found,
      fun name => ?_⟩
    rw [List.reverse_append, Table.insertSorted, Table.find?_alterSorted, held.remembered]
    by_cases here : collection.name = name
    · simp [here]
    · simp [here]
  · exact .inr ⟨err, Proc.fst_andThen_of_error failed, name, same, repeats⟩

theorem chosen_concat (available : List (Collection κ ω)) (collection : Collection κ ω)
    (enabled : List String) :
    chosen (available ++ [collection]) enabled = chosen available enabled
      ++ if enabled = [] ∨ collection.name ∈ enabled then [collection] else [] := by
  rw [chosen, List.filter_append, List.filter_singleton, chosen]
  simp

/-- Enabling one collection after the other. -/
theorem each_enable (available : List (Collection κ ω)) (enabled : List String)
    (journal : Journal) :
    (∃ after, Proc.each (enable enabled) available (empty, journal) = (.ok (), after) ∧
        Holds (offered (chosen available enabled)) (chosen available enabled) after.1) ∨
      ∃ err, (Proc.each (enable enabled) available (empty, journal)).1 = .error err ∧
        ∃ name, err = .duplicateModule name ∧
          List.Repeats ((offered (chosen available enabled)).map Descriptor.name) name := by
  refine Proc.each_ok_or_error
    (P := fun earlier (state : Registry κ ω × Journal) =>
      Holds (offered (chosen earlier enabled)) (chosen earlier enabled) state.1)
    (Q := fun earlier err => ∃ name, err = .duplicateModule name ∧
      List.Repeats ((offered (chosen earlier enabled)).map Descriptor.name) name)
    (fun earlier collection state holds => ?_) (fun earlier collection err => ?_)
    (empty, journal) holds_empty available
  · rw [chosen_concat, enable]
    by_cases among : enabled = [] ∨ collection.name ∈ enabled
    · rw [if_pos among, if_pos (by simpa using among)]
      exact holds.addCollection collection state.2
    · rw [if_neg among, if_neg (by simpa using among), List.append_nil]
      exact .inl ⟨_, rfl, holds⟩
  · rintro ⟨name, same, repeats⟩
    refine ⟨name, same, ?_⟩
    rw [chosen_concat, offered, List.flatMap_append, List.map_append]
    exact repeats.append _

/-! ## What can be found then -/

theorem resolve_eq_ok_iff {name : String} {descriptor : Descriptor κ ω} :
    registry.resolve name = .ok descriptor ↔
      registry.descriptors.find? name = some descriptor := by
  rw [resolve]
  cases registry.descriptors.find? name <;> simp

theorem collection_eq_ok_iff {name : String} {modules : List String} :
    registry.collection name = .ok modules ↔ registry.collections.find? name = some modules := by
  rw [Registry.collection]
  cases registry.collections.find? name <;> simp

theorem Holds.resolve_eq_ok_iff (holds : Holds listed collections registry) {name : String}
    {descriptor : Descriptor κ ω} : registry.resolve name = .ok descriptor ↔
      descriptor ∈ listed ∧ descriptor.name = name := by
  rw [Registry.resolve_eq_ok_iff, holds.found, List.find?_key_eq_some_iff holds.distinct]

theorem Holds.resolve_eq_error_iff (holds : Holds listed collections registry) {name : String}
    {err : Error} : registry.resolve name = .error err ↔
      err = .moduleNotFound name ∧ ∀ descriptor ∈ listed, descriptor.name ≠ name := by
  have none_iff : registry.descriptors.find? name = none ↔
      ∀ descriptor ∈ listed, descriptor.name ≠ name := by
    rw [holds.found]
    simp
  rw [← none_iff, resolve]
  cases registry.descriptors.find? name <;> simp [eq_comm]

theorem Holds.collection_eq_ok_iff (holds : Holds listed collections registry) {name : String}
    {modules : List String} : registry.collection name = .ok modules ↔
      ∃ front collection back, collections = front ++ collection :: back ∧
        collection.name = name ∧ (∀ other ∈ back, other.name ≠ name) ∧
        modules = collection.descriptors.map Descriptor.name := by
  have found_iff : registry.collection name = .ok modules ↔
      ∃ collection, (collections.reverse.find? fun other => other.name = name) = some collection ∧
        modules = collection.descriptors.map Descriptor.name := by
    rw [Registry.collection_eq_ok_iff, holds.remembered, Option.map_eq_some_iff]
    simp only [eq_comm]
  rw [found_iff]
  constructor
  · rintro ⟨collection, found, rfl⟩
    obtain ⟨named, back, front, split, others⟩ := List.find?_eq_some_iff_append.mp found
    refine ⟨front.reverse, collection, back.reverse, ?_, by simpa using named, ?_, rfl⟩
    · rw [← List.reverse_reverse collections, split]
      simp
    · intro other among
      simpa using others other (List.mem_reverse.mp among)
  · rintro ⟨front, collection, back, rfl, named, others, rfl⟩
    refine ⟨collection, List.find?_eq_some_iff_append.mpr
      ⟨by simpa using named, back.reverse, front.reverse, by simp, ?_⟩, rfl⟩
    intro other among
    simpa using others other (List.mem_reverse.mp among)

theorem Holds.collection_eq_error_iff (holds : Holds listed collections registry)
    {name : String} {err : Error} : registry.collection name = .error err ↔
      err = .collectionNotFound name ∧
        ∀ collection ∈ collections, collection.name ≠ name := by
  have none_iff : registry.collections.find? name = none ↔
      ∀ collection ∈ collections, collection.name ≠ name := by
    rw [holds.remembered]
    simp
  rw [← none_iff, Registry.collection]
  cases registry.collections.find? name <;> simp [eq_comm]

/-- What came under a name: what the earlier collections of that name have brought, and what
the last one has. -/
theorem offered_filter_name {front back : List (Collection κ ω)} {collection : Collection κ ω}
    (others : ∀ other ∈ back, other.name ≠ collection.name) :
    offered ((front ++ collection :: back).filter fun other => other.name = collection.name)
      = offered (front.filter fun other => other.name = collection.name)
        ++ collection.descriptors := by
  have gone : (back.filter fun other => other.name = collection.name) = [] := by
    simpa using others
  rw [offered, List.filter_append, List.filter_cons_of_pos (by simp), gone, List.flatMap_append,
    List.flatMap_singleton, offered]

theorem Holds.offers (holds : Holds (offered collections) collections registry) :
    Offers collections registry where
  found_iff _ _ := holds.resolve_eq_ok_iff
  missing_iff _ _ := holds.resolve_eq_error_iff
  listed_iff _ _ := holds.collection_eq_ok_iff
  unlisted_iff _ _ := holds.collection_eq_error_iff
  complete_iff front collection back split others := by
    have last := holds.collection_eq_ok_iff.mpr ⟨front, collection, back, split, rfl, others, rfl⟩
    rw [last, split, offered_filter_name others, Except.ok.injEq, List.map_append,
      List.self_eq_append_left]
    simp [offered]

/-! ## Enabling collections by name -/

variable {available : List (Collection κ ω)} {enabled : List String} {journal : Journal}

theorem unknown?_eq_some_iff {name : String} : unknown? available enabled = some name ↔
    ∃ known rest, enabled = known ++ name :: rest ∧
      (∀ other ∈ known, ∃ collection ∈ available, collection.name = other) ∧
      ∀ collection ∈ available, collection.name ≠ name := by
  rw [unknown?, List.find?_eq_some_iff_append]
  simp only [List.any_eq_true, Bool.not_eq_true', decide_eq_true_iff, List.any_eq_false,
    Bool.not_eq_false']
  constructor
  · rintro ⟨missing, known, rest, split, earlier⟩
    exact ⟨known, rest, split, earlier, missing⟩
  · rintro ⟨known, rest, split, earlier, missing⟩
    exact ⟨missing, known, rest, split, earlier⟩

theorem unknown?_eq_none_iff : unknown? available enabled = none ↔
    ∀ name ∈ enabled, ∃ collection ∈ available, collection.name = name := by
  simp [unknown?]

theorem fst_ofCollections_of_known
    (known : ∀ name ∈ enabled, ∃ collection ∈ available, collection.name = name)
    (journal : Journal) :
    (ofCollections available enabled journal).1
      = (Proc.each (enable enabled) available (empty, journal)).1.map
          fun _ => (Proc.each (enable enabled) available (empty, journal)).2.1 := by
  rw [ofCollections, unknown?_eq_none_iff.mpr known]

/-- Enabled collections that are known and share no name of a module type make a registry. -/
theorem exists_ofCollections
    (known : ∀ name ∈ enabled, ∃ collection ∈ available, collection.name = name)
    (distinct : ((offered (chosen available enabled)).map Descriptor.name).Nodup)
    (journal : Journal) :
    ∃ registry, (ofCollections available enabled journal).1 = .ok registry ∧
      Offers (chosen available enabled) registry := by
  rw [fst_ofCollections_of_known known]
  rcases each_enable available enabled journal with
    ⟨after, ran, holds⟩ | ⟨_, -, _, -, repeats⟩
  · exact ⟨after.1, by rw [ran]; rfl, holds.offers⟩
  · exact absurd distinct repeats.not_nodup

/-- A fault is what the making of a registry ends with. -/
theorem Fault.fst_ofCollections {err : Error} (fault : Fault available enabled err)
    (journal : Journal) : (ofCollections available enabled journal).1 = .error err := by
  cases fault with
  | unknown split earlier missing =>
    rw [ofCollections, unknown?_eq_some_iff.mpr ⟨_, _, split, earlier, missing⟩]
  | repeated known repeats =>
    rw [fst_ofCollections_of_known known]
    rcases each_enable available enabled journal with
      ⟨after, -, holds⟩ | ⟨_, failed, _, rfl, repeats'⟩
    · exact absurd holds.distinct repeats.not_nodup
    · rw [failed, repeats.unique repeats']
      rfl

theorem accepted_or_fault (available : List (Collection κ ω)) (enabled : List String) :
    ((∀ name ∈ enabled, ∃ collection ∈ available, collection.name = name) ∧
        ((offered (chosen available enabled)).map Descriptor.name).Nodup) ∨
      ∃ err, Fault available enabled err := by
  cases missing : unknown? available enabled with
  | some name =>
    obtain ⟨known, rest, split, earlier, missing⟩ := unknown?_eq_some_iff.mp missing
    exact .inr ⟨_, .unknown split earlier missing⟩
  | none =>
    have known := unknown?_eq_none_iff.mp missing
    rcases each_enable available enabled .empty with ⟨_, -, holds⟩ | ⟨_, -, _, -, repeats⟩
    · exact .inl ⟨known, holds.distinct⟩
    · exact .inr ⟨_, .repeated known repeats⟩

theorem offers_of_ofCollections
    (made : (ofCollections available enabled journal).1 = .ok registry) :
    Offers (chosen available enabled) registry := by
  rcases accepted_or_fault available enabled with ⟨known, distinct⟩ | ⟨err, fault⟩
  · obtain ⟨registry', made', offers⟩ := exists_ofCollections known distinct journal
    obtain rfl := Outcome.ok.inj (made.symm.trans made')
    exact offers
  · cases made.symm.trans (fault.fst_ofCollections journal)

/-- **Enabling collections.**  The first enabled name that no collection has, or else the
first name of a module type that occurs a second time, is the error.  Without either there
is a registry that finds exactly the module types of the enabled collections; under the name
of a collection it lists what the last one of that name has brought, which is all that came
under the name just if the earlier ones have brought nothing. -/
theorem enables_ofCollections (available : List (Collection κ ω)) (enabled : List String)
    (journal : Journal) :
    Enables available enabled (ofCollections available enabled journal).1 := by
  obtain ⟨accepted_iff, refused_iff, ends⟩ := Outcome.decided
    (accepted_or_fault available enabled)
    (fun ⟨known, distinct⟩ =>
      have ⟨registry, made, _⟩ := exists_ofCollections known distinct journal
      ⟨registry, made⟩)
    fun err fault => fault.fst_ofCollections journal
  exact ⟨accepted_iff, fun registry made => offers_of_ofCollections made, refused_iff, ends⟩

/-! ## Two collections of one name -/

open Builtin

/-- A collection that has one module type. -/
def single (module : String) : Collection PayloadKind Unit :=
  ⟨"tracking", [⟨module, .unique fun _ _ _ => .done .idle⟩]⟩

/-- A registry need not list all module types that came under the name of a collection: a
later collection of the same name hides those of an earlier one, although they are found. -/
theorem not_complete_listing :
    ¬ ∀ (available : List (Collection PayloadKind Unit)) (enabled : List String)
        (journal : Journal) (registry : Registry PayloadKind Unit),
      (ofCollections available enabled journal).1 = .ok registry →
      ∀ name ∈ enabled, registry.collection name
        = .ok ((offered ((chosen available enabled).filter
            fun collection => collection.name = name)).map Descriptor.name) := by
  intro complete
  have listing := complete [single "Finder", single "Fitter"] ["tracking"] .empty _ rfl
    "tracking" (List.mem_singleton_self _)
  revert listing
  decide

end Registry

end DetectorSim
