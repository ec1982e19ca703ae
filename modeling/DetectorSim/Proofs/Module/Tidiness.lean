import Mathlib.Algebra.Order.BigOperators.Group.List
import Mathlib.Algebra.Order.Group.Nat
import Mathlib.Algebra.Ring.Nat
import DetectorSim.Builtin.Payload
import DetectorSim.Proofs.Module.Binding
import DetectorSim.Proofs.Module.Loading

/-!
# Nothing is left behind

Loading calls factories that bind delegates, gives up instances for more specific
ones, and may end at any request with an error.  Whatever happens short of a
panic, the messenger holds the delegates of the instances in the list and no
others.
-/

set_option autoImplicit false

namespace DetectorSim

open Config

namespace Commission

variable {κ ω : Type} [Payload κ] [DecidableEq κ]

/-- The bonds that the factory makes. -/
def bonds (commission : Commission κ ω) : List (Bond κ ω) :=
  commission.code.bonds commission.site.receiver (commission.messenger, commission.env)

theorem receiver_of_mem_bonds {commission : Commission κ ω} {bond : Bond κ ω}
    (made : bond ∈ commission.bonds) : bond.delegate.receiver = commission.site.receiver :=
  Construction.receiver_of_mem_bonds made

theorem owner_of_mem_bonds {commission : Commission κ ω} {bond : Bond κ ω}
    (made : bond ∈ commission.bonds) : bond.owner = commission.id :=
  congrArg Receiver.id (receiver_of_mem_bonds made)

/-- However a factory ends, the messenger holds its bonds behind those from
before. -/
theorem trim_of_result {commission : Commission κ ω} {before : List (Bond κ ω)}
    {outcome : Outcome (Module κ ω)} {messenger : Messenger κ ω} {left : Env ω}
    (trim : Messenger.Trim before commission.messenger)
    (worked : commission.result = (outcome, (messenger, left))) :
    Messenger.Trim (before ++ commission.bonds) messenger :=
  Construction.exec_trim trim worked

theorem filter_bonds (chosen : InstanceId → Bool) (commission : Commission κ ω) :
    (commission.bonds.filter fun bond => chosen bond.owner)
      = if chosen commission.id then commission.bonds else [] :=
  List.filter_of_key_eq (fun _ made => owner_of_mem_bonds made) chosen

/-- Choosing bonds by their owner is choosing the factory calls that made them. -/
theorem filter_flatMap_bonds (chosen : InstanceId → Bool) (crew : List (Commission κ ω)) :
    ((crew.flatMap bonds).filter fun bond => chosen bond.owner)
      = (crew.filter fun commission => chosen commission.id).flatMap bonds :=
  List.filter_flatMap_key (fun _ _ made => owner_of_mem_bonds made) chosen crew

end Commission

namespace Manager

variable {κ ω : Type} [Payload κ] [DecidableEq κ]

/-- The instances come from factory calls, the crew, and the messenger holds the
bonds of these calls alone.  The handles were given out one after the other. -/
structure Staffed (made crew : List (Commission κ ω)) (manager : Manager κ ω) : Prop where
  numbered : made.map Commission.id = (List.range manager.nextId).map InstanceId.mk
  distinct : manager.Distinct
  among : crew.Sublist made
  built : List.Forall₂ Commission.Yields crew manager.instances
  trim : Messenger.Trim (crew.flatMap Commission.bonds) manager.messenger

variable {geometry : Geometry} {made crew later : List (Commission κ ω)}
  {manager after : Manager κ ω} {request : Request κ ω} {outcome : Outcome Unit}

theorem Staffed.empty : Staffed [] [] (Manager.empty : Manager κ ω) where
  numbered := rfl
  distinct := .nil
  among := .slnil
  built := .nil
  trim := .empty

theorem Staffed.nodup_ids (staffed : Staffed made crew manager) :
    (made.map Commission.id).Nodup := by
  rw [staffed.numbered]
  exact List.nodup_range.map fun _ _ same => congrArg InstanceId.index same

theorem Staffed.nodup_crew_ids (staffed : Staffed made crew manager) :
    (crew.map Commission.id).Nodup :=
  staffed.nodup_ids.sublist (staffed.among.map _)

/-- No instance has the handle that is given out next. -/
theorem Staffed.id_ne_next (staffed : Staffed made crew manager)
    {commission : Commission κ ω} (hired : commission ∈ crew) :
    commission.id ≠ ⟨manager.nextId⟩ := by
  intro same
  have used := List.mem_map_of_mem (f := Commission.id) (staffed.among.subset hired)
  rw [staffed.numbered, same] at used
  obtain ⟨index, below, last⟩ := List.mem_map.mp used
  rw [InstanceId.mk.inj last] at below
  exact Nat.lt_irrefl _ (List.mem_range.mp below)

/-- A factory call of the crew is told apart by its handle as well as by its
place. -/
theorem Staffed.id_eq_iff (staffed : Staffed made crew manager) {held : Instance κ ω}
    (there : held ∈ manager.instances) {commission : Commission κ ω}
    (hired : commission ∈ crew) :
    commission.id = held.receiver.id ↔ commission.request.key = held.identifier.key := by
  obtain ⟨maker, among, yields⟩ := Commission.exists_yields staffed.built there
  have keys : (crew.map fun commission => commission.request.key).Nodup := by
    rw [← Commission.map_eq_of_yields Commission.Yields.key staffed.built]
    exact staffed.distinct
  rw [yields.key, yields.receiver]
  constructor
  · intro same
    rw [List.inj_on_of_nodup_map staffed.nodup_crew_ids hired among same]
  · intro same
    rw [List.inj_on_of_nodup_map keys hired among same]
    rfl

/-- Clearing a place takes away who holds it with all its bonds. -/
theorem Staffed.cleared (staffed : Staffed made crew manager) (key : String × String) :
    Staffed made (crew.filter fun commission => commission.request.key ≠ key)
      (manager.cleared key) where
  numbered := by rw [nextId_cleared, staffed.numbered]
  distinct := staffed.distinct.cleared key
  among := List.filter_sublist.trans staffed.among
  built := by
    rw [staffed.distinct.instances_cleared]
    refine List.rel_filter ?_ staffed.built
    intro commission inst yields
    simp only [yields.key]
  trim := by
    unfold Manager.cleared
    cases holds : manager.holder? key with
    | none =>
      rw [List.filter_eq_self.mpr]
      · exact staffed.trim
      · intro commission hired
        refine decide_eq_true fun same => ?_
        have used : commission.request.key ∈ manager.instances.map fun inst =>
            inst.identifier.key := by
          rw [Commission.map_eq_of_yields Commission.Yields.key staffed.built]
          exact List.mem_map.mpr ⟨commission, hired, rfl⟩
        obtain ⟨inst, there, key⟩ := List.mem_map.mp used
        exact List.find?_eq_none.mp holds inst there (decide_eq_true (key.trans same))
    | some held =>
      obtain ⟨there, rfl⟩ := mem_of_holder? holds
      have mine := staffed.trim.removeAll held.receiver.id
      rw [Commission.filter_flatMap_bonds fun id => id ≠ held.receiver.id] at mine
      rwa [List.filter_congr fun commission hired =>
        decide_eq_decide.mpr (not_congr (staffed.id_eq_iff there hired))] at mine

theorem Staffed.called (staffed : Staffed made crew manager) (request : Request κ ω)
    (env : Env ω) :
    (made ++ [manager.commission geometry request env]).map Commission.id
      = (List.range (manager.nextId + 1)).map InstanceId.mk := by
  rw [List.map_append, staffed.numbered, List.range_succ, List.map_append]
  rfl

/-- A factory that fails leaves the crew as it was. -/
theorem Staffed.dismiss (staffed : Staffed made crew manager) {env left : Env ω}
    {messenger : Messenger κ ω} {ended : Outcome (Module κ ω)}
    (worked : (manager.commission geometry request env).result = (ended, (messenger, left))) :
    Staffed (made ++ [manager.commission geometry request env]) crew
      (manager.dismiss (manager.commission geometry request env) messenger) where
  numbered := staffed.called request env
  distinct := staffed.distinct
  among := staffed.among.trans (List.sublist_append_left _ _)
  built := staffed.built
  trim := by
    have bound := (Commission.trim_of_result staffed.trim worked).removeAll ⟨manager.nextId⟩
    have others : crew.filter (fun commission => commission.id ≠ ⟨manager.nextId⟩) = crew :=
      List.filter_eq_self.mpr fun commission hired => decide_eq_true (staffed.id_ne_next hired)
    rw [List.filter_append, Commission.filter_flatMap_bonds fun id => id ≠ ⟨manager.nextId⟩,
      Commission.filter_bonds fun id => id ≠ ⟨manager.nextId⟩, others,
      if_neg (by simp [commission]), List.append_nil] at bound
    exact bound

/-- A factory that succeeds joins the crew. -/
theorem Staffed.employ (staffed : Staffed made crew manager) {env left : Env ω}
    {messenger : Messenger κ ω} {module : Module κ ω}
    (free : request.key ∉ manager.instances.map fun inst => inst.identifier.key)
    (worked : (manager.commission geometry request env).result
      = (.ok module, (messenger, left))) :
    Staffed (made ++ [manager.commission geometry request env])
      (crew ++ [manager.commission geometry request env])
      (manager.employ (manager.commission geometry request env) messenger module) where
  numbered := staffed.called request env
  distinct := by
    unfold Distinct Manager.employ
    rw [List.map_append]
    exact (List.perm_append_singleton _ _).nodup_iff.mpr
      (List.nodup_cons.mpr ⟨free, staffed.distinct⟩)
  among := staffed.among.append_right _
  built := List.rel_append staffed.built (.cons ⟨rfl, rfl, congrArg Prod.fst worked⟩ .nil)
  trim := by
    rw [List.flatMap_append, List.flatMap_singleton]
    exact Commission.trim_of_result staffed.trim worked

theorem Staffed.turn (staffed : Staffed made crew manager)
    (turn : Turn geometry request manager later outcome after)
    (calm : ∀ text, outcome ≠ .panic text) :
    ∃ crew', Staffed (made ++ later) crew' after := by
  cases turn with
  | dropped => exact ⟨crew, by rwa [List.append_nil]⟩
  | ambiguous => exact ⟨crew, by rwa [List.append_nil]⟩
  | built admitted worked =>
    exact ⟨_, (staffed.cleared request.key).employ
      (staffed.distinct.free_cleared request.key) worked⟩
  | failed admitted worked err => exact ⟨_, (staffed.cleared request.key).dismiss worked⟩
  | panicked _ text => exact absurd rfl (calm text)

theorem Staffed.turns {requests : List (Request κ ω)}
    (staffed : Staffed made crew manager)
    (turns : Turns geometry manager requests later outcome after)
    (calm : ∀ text, outcome ≠ .panic text) :
    ∃ crew', Staffed (made ++ later) crew' after := by
  induction turns generalizing made crew with
  | done => exact ⟨crew, by rwa [List.append_nil]⟩
  | refused => exact ⟨crew, by rwa [List.append_nil]⟩
  | next turn _ ih =>
    obtain ⟨crew', mid⟩ := staffed.turn turn nofun
    rw [← List.append_assoc]
    exact ih mid calm
  | last turn _ => exact staffed.turn turn calm

theorem Staffed.load (staffed : Staffed made crew manager) {env left : Env ω} {reader : Reader}
    {registry : Registry κ ω}
    (ran : Manager.load reader registry geometry (manager, env) = (outcome, (after, left)))
    (calm : ∀ text, outcome ≠ .panic text) :
    ∃ crew', Staffed (made ++ loadCommissions reader registry geometry (manager, env)) crew'
      after := by
  obtain ⟨requests, mid, turns, same, _⟩ := turns_of_load ran
  obtain ⟨crew', ⟨numbered, distinct, among, built, trim⟩⟩ := staffed.turns turns calm
  rw [same]
  exact ⟨crew', numbered, distinct, among, built, trim⟩

/-- Every factory call of the crew has led to an instance. -/
theorem Staffed.exists_yields (staffed : Staffed made crew manager) {commission : Commission κ ω}
    (hired : commission ∈ crew) : ∃ inst ∈ manager.instances, commission.Yields inst := by
  obtain ⟨index, inside, rfl⟩ := List.mem_iff_getElem.mp hired
  have there := staffed.built.length_eq ▸ inside
  exact ⟨_, List.getElem_mem there, staffed.built.get inside there⟩

/-! ## Managers that were loaded -/

/-- The managers that come from loading configurations, none of which panicked,
each with the factory calls that were made.  A configuration that fails may be
followed by another one. -/
inductive Loaded : List (Commission κ ω) → Manager κ ω → Prop
  | empty : Loaded [] .empty
  | load {made : List (Commission κ ω)} {manager after : Manager κ ω} {env left : Env ω}
      {reader : Reader} {registry : Registry κ ω} {geometry : Geometry}
      {outcome : Outcome Unit} (before : Loaded made manager)
      (ran : load reader registry geometry (manager, env) = (outcome, (after, left)))
      (calm : ∀ text, outcome ≠ .panic text) :
      Loaded (made ++ loadCommissions reader registry geometry (manager, env)) after

theorem Loaded.exists_staffed (loaded : Loaded made manager) :
    ∃ crew, Staffed made crew manager := by
  induction loaded with
  | empty => exact ⟨[], .empty⟩
  | load before ran calm ih =>
    obtain ⟨crew, staffed⟩ := ih
    exact staffed.load ran calm

/-- What a manager has to show for the factory calls that were made, where those of
the crew have led to its instances. -/
structure Tidy (made crew : List (Commission κ ω)) (manager : Manager κ ω) : Prop where
  numbered : made.map Commission.id = (List.range manager.nextId).map InstanceId.mk
  nodup_ids : (made.map Commission.id).Nodup
  among : crew.Sublist made
  built : List.Forall₂ Commission.Yields crew manager.instances
  /-- Every delegate belongs to exactly one instance. -/
  owned : ∀ delegate ∈ manager.messenger.allLive,
    ∃! inst, inst ∈ manager.instances ∧ inst.receiver.id = delegate.receiver.id
  /-- Every instance has the delegates that its factory bound, and their slots. -/
  delegates : ∀ commission ∈ crew,
    (manager.messenger.allLive.filter fun delegate =>
        delegate.receiver.id = commission.id).Perm (commission.bonds.map Bond.delegate)
  slots : ∀ commission ∈ crew, (manager.messenger.layouts.find? commission.id).getD []
    = commission.bonds.map Bond.layout
  counted : manager.messenger.delegateCount
    = (crew.map fun commission => commission.bonds.length).sum
  /-- Whoever is not in the list has left nothing behind. -/
  nothing : ∀ id, id ∉ (manager.instances.map fun inst => inst.receiver.id) →
    (manager.messenger.layouts.find? id).getD [] = [] ∧ manager.messenger.handlesOf id = [] ∧
      ∀ store, manager.messenger.missingRequired id store = []

theorem Staffed.filter_id (staffed : Staffed made crew manager) {commission : Commission κ ω}
    (hired : commission ∈ crew) :
    (crew.flatMap Commission.bonds).filter (fun bond => bond.owner = commission.id)
      = commission.bonds := by
  rw [Commission.filter_flatMap_bonds fun id => id = commission.id,
    List.filter_key_eq_singleton staffed.nodup_crew_ids hired, List.flatMap_singleton]

theorem Staffed.map_id_instances (staffed : Staffed made crew manager) :
    (manager.instances.map fun inst => inst.receiver.id) = crew.map Commission.id :=
  Commission.map_eq_of_yields (fun yields => congrArg Receiver.id yields.receiver) staffed.built

theorem Staffed.owned (staffed : Staffed made crew manager) {delegate : Delegate κ ω}
    (live : delegate ∈ manager.messenger.allLive) :
    ∃! inst, inst ∈ manager.instances ∧ inst.receiver.id = delegate.receiver.id := by
  obtain ⟨bond, bound, rfl⟩ := List.mem_map.mp (staffed.trim.counted.mem_iff.mp live)
  obtain ⟨commission, hired, bound⟩ := List.mem_flatMap.mp bound
  have listed := List.mem_map_of_mem (f := Commission.id) hired
  rw [← staffed.map_id_instances] at listed
  obtain ⟨inst, there, same⟩ := List.mem_map.mp listed
  have own : inst.receiver.id = bond.delegate.receiver.id :=
    same.trans (Commission.owner_of_mem_bonds bound).symm
  refine ⟨inst, ⟨there, own⟩, fun other ⟨among, claims⟩ => ?_⟩
  have nodup := staffed.nodup_crew_ids
  rw [← staffed.map_id_instances] at nodup
  exact List.inj_on_of_nodup_map nodup among there (claims.trans own.symm)

theorem Staffed.delegates (staffed : Staffed made crew manager) {commission : Commission κ ω}
    (hired : commission ∈ crew) :
    (manager.messenger.allLive.filter fun delegate =>
      delegate.receiver.id = commission.id).Perm (commission.bonds.map Bond.delegate) := by
  have live := staffed.trim.counted.filter fun delegate => delegate.receiver.id = commission.id
  rw [List.filter_map] at live
  exact live.trans (.of_eq (congrArg _ (staffed.filter_id hired)))

theorem Staffed.nothing (staffed : Staffed made crew manager) {id : InstanceId}
    (gone : id ∉ (manager.instances.map fun inst => inst.receiver.id)) :
    (crew.flatMap Commission.bonds).filter (fun bond => bond.owner = id) = [] := by
  rw [staffed.map_id_instances] at gone
  rw [Commission.filter_flatMap_bonds fun other => other = id, List.filter_eq_nil_iff.mpr]
  · rfl
  · intro commission hired same
    exact gone (of_decide_eq_true same ▸ List.mem_map_of_mem hired)

/-- **No orphan delegates.**  After loading, whether it has succeeded or failed, every
delegate belongs to one instance of the list, every instance has exactly the
delegates that its factory bound, and no other handle that was given out has left
anything behind. -/
theorem Loaded.tidy (loaded : Loaded made manager) : ∃ crew, Tidy made crew manager := by
  obtain ⟨crew, staffed⟩ := loaded.exists_staffed
  refine ⟨crew, staffed.numbered, staffed.nodup_ids, staffed.among, staffed.built,
    fun delegate live => staffed.owned live, fun commission hired => staffed.delegates hired,
    fun commission hired => ?_, ?_, fun id gone => ?_⟩
  · rw [staffed.trim.slots, staffed.filter_id hired]
  · rw [staffed.trim.delegateCount, List.length_flatMap]
  · have slots := staffed.trim.slots id
    have handles := staffed.trim.handles id
    rw [staffed.nothing gone] at slots handles
    refine ⟨slots, handles, fun store => ?_⟩
    unfold Messenger.missingRequired
    rw [slots]
    rfl

end Manager

/-! ## A configuration that fails -/

open Builtin

/-- A module type for detectors that binds two inputs, one of them required, and
fails if it is told to. -/
def Descriptor.watch : Descriptor PayloadKind Unit :=
  ⟨"Watch", .perDetector fun s _ _ => do
    let _ ← Construction.bindMulti PayloadKind.hits .requiredInput
    let _ ← Construction.bindSingle PayloadKind.deposited .none
    if s.has "fail" then Routine.fail (.runtime "told to")
    return Module.idle⟩

/-- The registry that has this type alone. -/
def Registry.watch : Registry PayloadKind Unit :=
  ⟨⟨[("Watch", .watch)]⟩, .empty⟩

/-- A section for all detectors, and one for the detector on the left that fails. -/
def watchAndFail : Reader :=
  ⟨[⟨"Watch", none, []⟩, ⟨"Watch", none, [("name", "left"), ("fail", "1")]⟩]⟩

namespace Manager

/-- What loading this configuration leaves. -/
def watching : Manager PayloadKind Unit :=
  (load watchAndFail .watch .pair (empty, ⟨(), .empty⟩)).2.1

/-- The instance on the left is replaced by one whose factory fails; the delegates
of the instance on the right are the only ones that are left. -/
theorem tidy_watching :
    ∃ made crew, Tidy made crew watching ∧
      watching.messenger.delegateCount = 2 ∧
      (watching.instances.map Instance.name) = ["Watch:right"] ∧
      (made.map Commission.id) = [⟨0⟩, ⟨1⟩, ⟨2⟩] := by
  have failed : (match (load watchAndFail .watch .pair (empty, ⟨(), .empty⟩)).1 with
      | .error _ => true
      | _ => false) = true := by decide +kernel
  have calm : ∀ text, (load watchAndFail .watch .pair (empty, ⟨(), .empty⟩)).1
      ≠ .panic text := by
    intro text panicked
    rw [panicked] at failed
    cases failed
  obtain ⟨crew, tidy⟩ := (Loaded.empty.load (Proc.eq_of_fst_eq rfl) calm).tidy
  refine ⟨_, crew, tidy, by decide +kernel, by decide +kernel, ?_⟩
  rw [tidy.numbered]
  decide +kernel

end Manager

end DetectorSim
