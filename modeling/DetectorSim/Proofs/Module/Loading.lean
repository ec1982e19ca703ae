import Mathlib.Data.List.Forall2
import DetectorSim.Module.Manager
import DetectorSim.Proofs.Keyed
import DetectorSim.Proofs.Procedure

/-!
# Loading a configuration, request by request

Loading a configuration works off a list of requests, each for one instance.
What a single request can do to a manager is said once, in `Turn`; what a list of
them can do, in `Turns`.  Every call of a factory on the way is recorded with the
messenger and the environment that it finds.
-/

set_option autoImplicit false

namespace DetectorSim

open Config

/-! ## Requests and commissions -/

/-- An instance that a section of the configuration asks for. -/
structure Request (κ ω : Type) [Payload κ] where
  descriptor : Descriptor κ ω
  config : Section
  target : Target

namespace Request

variable {κ ω : Type} [Payload κ]

/-- The place that is asked for. -/
def key (request : Request κ ω) : String × String :=
  request.target.identifier.key

/-- How specific the request is. -/
def priority (request : Request κ ω) : Priority :=
  request.target.identifier.priority

/-- The error that the place is asked for by another request that is as specific. -/
def ambiguity (request : Request κ ω) : Error :=
  .ambiguousInstance request.target.identifier.module request.target.identifier.detector

/-- The requests of a section, in order. -/
def ofSection (registry : Registry κ ω) (geometry : Geometry) (s : Section) :
    Except Error (List (Request κ ω)) := do
  let descriptor ← registry.resolve s.name
  let targets ← Target.ofSection descriptor s geometry
  return targets.map fun target => ⟨descriptor, s, target⟩

/-- The requests of some sections, in order. -/
def ofSections (registry : Registry κ ω) (geometry : Geometry) :
    List Section → Except Error (List (Request κ ω))
  | [] => .ok []
  | s :: rest => do
      let first ← ofSection registry geometry s
      let later ← ofSections registry geometry rest
      return first ++ later

end Request

/-- A call of a factory: the request that it answers, the setup, the handle of the
instance, and what it works on. -/
structure Commission (κ ω : Type) [Payload κ] where
  request : Request κ ω
  geometry : Geometry
  id : InstanceId
  messenger : Messenger κ ω
  env : Env ω

namespace Commission

variable {κ ω : Type} [Payload κ]

/-- The instance that is to be constructed. -/
def site (commission : Commission κ ω) : Site :=
  let target := commission.request.target
  ⟨target.identifier, ⟨commission.id, target.identifier.display, target.detector⟩⟩

/-- What the factory does. -/
def code (commission : Commission κ ω) : Construction κ ω (Module κ ω) :=
  Manager.factoryCode commission.request.descriptor commission.request.config
    commission.geometry commission.site

variable [DecidableEq κ]

/-- What comes of it. -/
def result (commission : Commission κ ω) : Outcome (Module κ ω) × (Messenger κ ω × Env ω) :=
  commission.code.exec commission.site.receiver (commission.messenger, commission.env)

end Commission

namespace Manager

variable {κ ω : Type} [Payload κ]

/-- The factory call that follows if a request is let through. -/
def commission (manager : Manager κ ω) (geometry : Geometry) (request : Request κ ω)
    (env : Env ω) : Commission κ ω :=
  let journal := env.journal.enter ("C:" ++ request.target.identifier.display)
  ⟨request, geometry, ⟨manager.nextId⟩, manager.messenger, { env with journal := journal.2 }⟩

/-- Whether a place is free or held by someone less specific. -/
def Admits (manager : Manager κ ω) (request : Request κ ω) : Prop :=
  ∀ held, manager.holder? request.key = some held →
    request.priority.overrides held.identifier.priority

/-- The manager with a new instance, made by a factory that left a messenger. -/
def employ (manager : Manager κ ω) (commission : Commission κ ω) (messenger : Messenger κ ω)
    (module : Module κ ω) : Manager κ ω :=
  { manager with
    messenger
    instances :=
      manager.instances ++ [⟨commission.site.identifier, commission.site.receiver, module⟩]
    nextId := manager.nextId + 1 }

variable [DecidableEq κ]

/-- The manager without the instance that has a place and without its
delegates. -/
def cleared (manager : Manager κ ω) (key : String × String) : Manager κ ω :=
  match manager.holder? key with
  | none => manager
  | some held =>
      { manager.vacate key with messenger := (manager.messenger.removeAll held.receiver.id).2 }

/-- The manager after a factory failed and left a messenger. -/
def dismiss (manager : Manager κ ω) (commission : Commission κ ω)
    (messenger : Messenger κ ω) : Manager κ ω :=
  { manager with
    messenger := (messenger.removeAll commission.id).2
    nextId := manager.nextId + 1 }

/-! ## Places -/

/-- No two instances hold the same place. -/
def Distinct (manager : Manager κ ω) : Prop :=
  (manager.instances.map fun inst => inst.identifier.key).Nodup

omit [DecidableEq κ] in
theorem mem_of_holder? {manager : Manager κ ω} {key : String × String} {held : Instance κ ω}
    (holds : manager.holder? key = some held) :
    held ∈ manager.instances ∧ held.identifier.key = key :=
  ⟨List.mem_of_find?_eq_some holds, by simpa using List.find?_some holds⟩

omit [DecidableEq κ] in
theorem Distinct.holder?_eq {manager : Manager κ ω} (distinct : manager.Distinct)
    {inst : Instance κ ω} (among : inst ∈ manager.instances) :
    manager.holder? inst.identifier.key = some inst := by
  cases holds : manager.holder? inst.identifier.key with
  | none =>
    have apart := List.find?_eq_none.mp holds inst among
    exact absurd (decide_eq_true rfl) apart
  | some held =>
    obtain ⟨there, same⟩ := mem_of_holder? holds
    rw [List.inj_on_of_nodup_map distinct there among same]

/-- Clearing a place takes away who holds it and nobody else. -/
theorem Distinct.instances_cleared {manager : Manager κ ω} (distinct : manager.Distinct)
    (key : String × String) :
    (manager.cleared key).instances
      = manager.instances.filter fun inst => inst.identifier.key ≠ key := by
  unfold cleared
  cases holds : manager.holder? key with
  | none =>
    refine (List.filter_eq_self.mpr fun inst among => ?_).symm
    have apart := List.find?_eq_none.mp holds inst among
    simpa using apart
  | some held => exact List.eraseP_key_eq_filter distinct key

theorem Distinct.cleared {manager : Manager κ ω} (distinct : manager.Distinct)
    (key : String × String) : (manager.cleared key).Distinct := by
  unfold Distinct
  rw [distinct.instances_cleared]
  exact distinct.sublist (List.filter_sublist.map _)

/-- A place that was cleared is free. -/
theorem Distinct.free_cleared {manager : Manager κ ω} (distinct : manager.Distinct)
    (key : String × String) :
    key ∉ (manager.cleared key).instances.map fun inst => inst.identifier.key := by
  rw [distinct.instances_cleared]
  intro used
  obtain ⟨inst, among, same⟩ := List.mem_map.mp used
  exact of_decide_eq_true (List.mem_filter.mp among).2 same

theorem nextId_cleared (manager : Manager κ ω) (key : String × String) :
    (manager.cleared key).nextId = manager.nextId := by
  unfold cleared
  split <;> rfl

/-! ## One request -/

/-- All that a request can do to a manager: the factory call that it leads to, if
any, how it ends and what it leaves.  What a factory leaves that panics is not
told. -/
inductive Turn (geometry : Geometry) (request : Request κ ω) (manager : Manager κ ω) :
    List (Commission κ ω) → Outcome Unit → Manager κ ω → Prop
  | dropped {held : Instance κ ω} (holds : manager.holder? request.key = some held)
      (less : held.identifier.priority.overrides request.priority) :
      Turn geometry request manager [] (.ok ()) manager
  | ambiguous {held : Instance κ ω} (holds : manager.holder? request.key = some held)
      (notMore : ¬ request.priority.overrides held.identifier.priority)
      (notLess : ¬ held.identifier.priority.overrides request.priority) (err : Error) :
      Turn geometry request manager [] (.error err) manager
  | built {env left : Env ω} {messenger : Messenger κ ω} {module : Module κ ω}
      (admitted : manager.Admits request)
      (made : ((manager.cleared request.key).commission geometry request env).result
        = (.ok module, (messenger, left))) :
      Turn geometry request manager [(manager.cleared request.key).commission geometry request env]
        (.ok ())
        ((manager.cleared request.key).employ
          ((manager.cleared request.key).commission geometry request env) messenger module)
  | failed {env left : Env ω} {messenger : Messenger κ ω} {cause : Error}
      (admitted : manager.Admits request)
      (made : ((manager.cleared request.key).commission geometry request env).result
        = (.error cause, (messenger, left))) (err : Error) :
      Turn geometry request manager [(manager.cleared request.key).commission geometry request env]
        (.error err)
        ((manager.cleared request.key).dismiss
          ((manager.cleared request.key).commission geometry request env) messenger)
  | panicked {env : Env ω} (admitted : manager.Admits request) (text : String)
      (after : Manager κ ω) :
      Turn geometry request manager [(manager.cleared request.key).commission geometry request env]
        (.panic text) after

/-- The factory call that a request leads to. -/
def commissioned (geometry : Geometry) (request : Request κ ω) (state : Manager κ ω × Env ω) :
    List (Commission κ ω) :=
  match claimPlace request.target.identifier state with
  | (.ok true, (manager, env)) => [manager.commission geometry request env]
  | _ => []

variable {geometry : Geometry} {request : Request κ ω} {manager after : Manager κ ω}
  {env left : Env ω} {outcome : Outcome Unit}

theorem claimPlace_of_admits (admitted : manager.Admits request) (env : Env ω) :
    ∃ env', claimPlace request.target.identifier (manager, env)
      = (.ok true, (manager.cleared request.key, env')) := by
  unfold claimPlace cleared
  cases holds : manager.holder? request.key with
  | none =>
    have claimed : manager.claim request.target.identifier = .free := by
      unfold claim
      rw [show manager.holder? request.target.identifier.key = none from holds]
    exact ⟨env, by simp only [Proc.bind_apply, Proc.andThen, Proc.get, claimed]; rfl⟩
  | some held =>
    have claimed : manager.claim request.target.identifier = .replaces held := by
      unfold claim
      rw [show manager.holder? request.target.identifier.key = some held from holds]
      exact if_pos (admitted held holds)
    exact ⟨_, by simp only [Proc.bind_apply, Proc.andThen, Proc.get, claimed]; rfl⟩

theorem claimPlace_of_less {held : Instance κ ω} (holds : manager.holder? request.key = some held)
    (notMore : ¬ request.priority.overrides held.identifier.priority)
    (less : held.identifier.priority.overrides request.priority) (env : Env ω) :
    ∃ env', claimPlace request.target.identifier (manager, env)
      = (.ok false, (manager, env')) := by
  have claimed : manager.claim request.target.identifier = .dropped held := by
    unfold claim
    rw [show manager.holder? request.target.identifier.key = some held from holds]
    exact (if_neg notMore).trans (if_pos less)
  exact ⟨_, by simp only [claimPlace, Proc.bind_apply, Proc.andThen, Proc.get, claimed]; rfl⟩

theorem claimPlace_of_equal {held : Instance κ ω} (holds : manager.holder? request.key = some held)
    (notMore : ¬ request.priority.overrides held.identifier.priority)
    (notLess : ¬ held.identifier.priority.overrides request.priority) (env : Env ω) :
    claimPlace request.target.identifier (manager, env)
      = (.error request.ambiguity, (manager, env)) := by
  have claimed : manager.claim request.target.identifier = .ambiguous := by
    unfold claim
    rw [show manager.holder? request.target.identifier.key = some held from holds]
    exact (if_neg notMore).trans (if_neg notLess)
  simp only [claimPlace, Proc.bind_apply, Proc.andThen, Proc.get, claimed]
  rfl

/-- Constructing an instance is calling the factory and taking in what it made. -/
theorem construct_eq (geometry : Geometry) (request : Request κ ω) (manager : Manager κ ω)
    (env : Env ω) :
    construct request.descriptor request.config geometry request.target (manager, env)
      = match (manager.commission geometry request env).result with
        | (made, (messenger, left)) =>
            match install (manager.commission geometry request env).site made
              ({ manager with messenger, nextId := manager.nextId + 1 }, left) with
            | (outcome, (after, left)) =>
                (outcome, (after,
                  { left with
                    journal := left.journal.leave
                      (env.journal.enter ("C:" ++ request.target.identifier.display)).1 })) := rfl

/-- What loading a target does is a turn of its request. -/
theorem turn_of_loadTarget
    (ran : loadTarget request.descriptor request.config geometry request.target (manager, env)
      = (outcome, (after, left))) :
    Turn geometry request manager (commissioned geometry request (manager, env)) outcome after := by
  unfold loadTarget at ran
  rw [Proc.bind_apply] at ran
  by_cases admitted : manager.Admits request
  · obtain ⟨env', claimed⟩ := claimPlace_of_admits admitted env
    simp only [Proc.andThen, claimed, if_pos, construct_eq] at ran
    simp only [commissioned, claimed]
    rcases made : ((manager.cleared request.key).commission geometry request env').result with
      ⟨module | cause | text, messenger, worked⟩
    · simp only [made] at ran
      cases ran
      exact .built admitted made
    · simp only [made] at ran
      cases ran
      exact .failed admitted made _
    · simp only [made] at ran
      cases ran
      exact .panicked admitted text _
  · obtain ⟨held, admitted⟩ := Classical.not_forall.mp admitted
    obtain ⟨holds, notMore⟩ := Classical.not_imp.mp admitted
    by_cases less : held.identifier.priority.overrides request.priority
    · obtain ⟨env', claimed⟩ := claimPlace_of_less holds notMore less env
      simp only [Proc.andThen, claimed] at ran
      simp only [commissioned, claimed]
      cases ran
      exact .dropped holds less
    · have claimed := claimPlace_of_equal holds notMore less env
      simp only [Proc.andThen, claimed] at ran
      simp only [commissioned, claimed]
      cases ran
      exact .ambiguous holds notMore less _

/-! ## All requests -/

/-- What a list of requests can do to a manager: the factory calls that it leads
to, how it ends and what it leaves.  The list holds the requests that had their
turn. -/
inductive Turns (geometry : Geometry) : Manager κ ω → List (Request κ ω) →
    List (Commission κ ω) → Outcome Unit → Manager κ ω → Prop
  | done (manager : Manager κ ω) : Turns geometry manager [] [] (.ok ()) manager
  /-- A section is refused before any of its requests. -/
  | refused (manager : Manager κ ω) (err : Error) :
      Turns geometry manager [] [] (.error err) manager
  | next {manager mid after : Manager κ ω} {request : Request κ ω}
      {rest : List (Request κ ω)} {made later : List (Commission κ ω)} {outcome : Outcome Unit}
      (turn : Turn geometry request manager made (.ok ()) mid)
      (turns : Turns geometry mid rest later outcome after) :
      Turns geometry manager (request :: rest) (made ++ later) outcome after
  | last {manager after : Manager κ ω} {request : Request κ ω} {made : List (Commission κ ω)}
      {outcome : Outcome Unit} (turn : Turn geometry request manager made outcome after)
      (ended : outcome ≠ .ok ()) : Turns geometry manager [request] made outcome after

theorem Turns.append {mid : Manager κ ω} {first rest : List (Request κ ω)}
    {made later : List (Commission κ ω)} (turns : Turns geometry manager first made (.ok ()) mid)
    (others : Turns geometry mid rest later outcome after) :
    Turns geometry manager (first ++ rest) (made ++ later) outcome after := by
  generalize fine : Outcome.ok () = ended at turns
  induction turns with
  | done => exact others
  | refused => cases fine
  | next turn _ ih =>
    rw [List.append_assoc]
    exact .next turn (ih others fine)
  | last _ ended => exact absurd fine.symm ended

/-- The factory calls that the targets of a section lead to. -/
def targetCommissions (descriptor : Descriptor κ ω) (s : Section) (geometry : Geometry)
    (targets : List Target) (state : Manager κ ω × Env ω) : List (Commission κ ω) :=
  (Proc.turns (loadTarget descriptor s geometry) targets state).flatMap fun turn =>
    commissioned geometry ⟨descriptor, s, turn.1⟩ turn.2

/-- The factory calls that a section leads to. -/
def sectionCommissions (registry : Registry κ ω) (geometry : Geometry) (s : Section)
    (state : Manager κ ω × Env ω) : List (Commission κ ω) :=
  match registry.resolve s.name with
  | .error _ => []
  | .ok descriptor =>
      match Target.ofSection descriptor s geometry with
      | .error _ => []
      | .ok targets =>
          targetCommissions descriptor s geometry targets
            (Proc.log .info s!"Loaded module {descriptor.name}" state).2

/-- The factory calls that some sections lead to. -/
def commissions (registry : Registry κ ω) (geometry : Geometry) (sections : List Section)
    (state : Manager κ ω × Env ω) : List (Commission κ ω) :=
  (Proc.turns (loadSection registry geometry) sections state).flatMap fun turn =>
    sectionCommissions registry geometry turn.1 turn.2

theorem turns_of_loadTargets {descriptor : Descriptor κ ω} {s : Section} {targets : List Target}
    (ran : Proc.each (loadTarget descriptor s geometry) targets (manager, env)
      = (outcome, (after, left))) :
    ∃ requests, Turns geometry manager requests
        (targetCommissions descriptor s geometry targets (manager, env)) outcome after ∧
      (outcome = .ok () → requests = targets.map fun target => ⟨descriptor, s, target⟩) := by
  induction targets generalizing manager env with
  | nil =>
    cases ran
    exact ⟨[], .done _, fun _ => rfl⟩
  | cons target rest ih =>
    rcases first : loadTarget descriptor s geometry target (manager, env) with ⟨ended, mid, worked⟩
    have turn : Turn geometry ⟨descriptor, s, target⟩ manager _ ended mid :=
      turn_of_loadTarget first
    simp only [Proc.each, Proc.andThen, first] at ran
    simp only [targetCommissions, Proc.turns, first, List.flatMap_cons]
    cases ended with
    | ok =>
      obtain ⟨requests, turns, all⟩ := ih ran
      exact ⟨_ :: requests, .next turn turns, fun fine => by rw [all fine, List.map_cons]⟩
    | error err =>
      cases ran
      rw [List.flatMap_nil, List.append_nil]
      exact ⟨[⟨descriptor, s, target⟩], .last turn (by simp), by simp⟩
    | panic text =>
      cases ran
      rw [List.flatMap_nil, List.append_nil]
      exact ⟨[⟨descriptor, s, target⟩], .last turn (by simp), by simp⟩

theorem turns_of_loadSection {registry : Registry κ ω} {s : Section}
    (ran : loadSection registry geometry s (manager, env) = (outcome, (after, left))) :
    ∃ requests, Turns geometry manager requests
        (sectionCommissions registry geometry s (manager, env)) outcome after ∧
      (outcome = .ok () → Request.ofSection registry geometry s = .ok requests) := by
  unfold loadSection at ran
  unfold sectionCommissions Request.ofSection
  simp only [Proc.bind_apply, Proc.andThen, Proc.ofExcept, Proc.ofOutcome] at ran
  cases resolved : registry.resolve s.name with
  | error err =>
    rw [resolved] at ran
    cases ran
    exact ⟨[], .refused _ err, by simp⟩
  | ok descriptor =>
    obtain ⟨env', noted⟩ : ∃ env', Proc.log .info s!"Loaded module {descriptor.name}"
        (manager, env) = (.ok (), (manager, env')) := ⟨_, rfl⟩
    simp only [resolved, Outcome.ofExcept, noted] at ran ⊢
    cases listed : Target.ofSection descriptor s geometry with
    | error err =>
      rw [listed] at ran
      cases ran
      exact ⟨[], .refused _ err, by simp⟩
    | ok targets =>
      rw [listed] at ran
      obtain ⟨requests, turns, all⟩ := turns_of_loadTargets ran
      refine ⟨requests, turns, fun fine => ?_⟩
      change (Target.ofSection descriptor s geometry >>= fun targets => _) = _
      rw [listed, all fine]
      rfl

theorem turns_of_loadSections {registry : Registry κ ω} {sections : List Section}
    (ran : Proc.each (loadSection registry geometry) sections (manager, env)
      = (outcome, (after, left))) :
    ∃ requests, Turns geometry manager requests
        (commissions registry geometry sections (manager, env)) outcome after ∧
      (outcome = .ok () → Request.ofSections registry geometry sections = .ok requests) := by
  induction sections generalizing manager env with
  | nil =>
    cases ran
    exact ⟨[], .done _, fun _ => rfl⟩
  | cons s rest ih =>
    rcases first : loadSection registry geometry s (manager, env) with ⟨ended, mid, worked⟩
    obtain ⟨asked, turns, all⟩ := turns_of_loadSection first
    simp only [Proc.each, Proc.andThen, first] at ran
    simp only [commissions, Proc.turns, first, List.flatMap_cons]
    cases ended with
    | ok =>
      obtain ⟨requests, others, allOthers⟩ := ih ran
      refine ⟨asked ++ requests, turns.append others, fun fine => ?_⟩
      simp only [Request.ofSections, all rfl, allOthers fine]
      rfl
    | error err =>
      cases ran
      rw [List.flatMap_nil, List.append_nil]
      exact ⟨asked, turns, by simp⟩
    | panic text =>
      cases ran
      rw [List.flatMap_nil, List.append_nil]
      exact ⟨asked, turns, by simp⟩

/-- The factory calls that loading a configuration leads to. -/
def loadCommissions (reader : Reader) (registry : Registry κ ω) (geometry : Geometry)
    (state : Manager κ ω × Env ω) : List (Commission κ ω) :=
  if state.1.state = .empty then commissions registry geometry reader.moduleSections state
  else []

/-- Loading a configuration is a list of turns, apart from the state that it
enters. -/
theorem turns_of_load {reader : Reader} {registry : Registry κ ω}
    (ran : load reader registry geometry (manager, env) = (outcome, (after, left))) :
    ∃ requests mid, Turns geometry manager requests
        (loadCommissions reader registry geometry (manager, env)) outcome mid ∧
      after = { mid with state := after.state } ∧
      (outcome = .ok () →
        Request.ofSections registry geometry reader.moduleSections = .ok requests) := by
  unfold load at ran
  unfold loadCommissions
  by_cases fresh : manager.state = .empty
  · simp only [Proc.bind_apply, Proc.andThen, expect, if_pos fresh] at ran ⊢
    rcases worked : Proc.each (loadSection registry geometry) reader.moduleSections (manager, env)
      with ⟨ended, mid, worn⟩
    obtain ⟨requests, turns, all⟩ := turns_of_loadSections worked
    rw [worked] at ran
    refine ⟨requests, mid, ?_⟩
    cases ended <;> cases ran <;> exact ⟨turns, rfl, all⟩
  · simp only [Proc.bind_apply, Proc.andThen, expect, if_neg fresh] at ran ⊢
    cases ran
    exact ⟨[], _, .refused _ _, rfl, by simp⟩

end Manager

/-! ## Where requests and factory calls come from -/

/-- Where a request comes from. -/
theorem Request.of_mem_ofSections {κ ω : Type} [Payload κ] {registry : Registry κ ω}
    {geometry : Geometry} {sections : List Section} {requests : List (Request κ ω)}
    (listed : ofSections registry geometry sections = .ok requests) {request : Request κ ω}
    (among : request ∈ requests) :
    ∃ s ∈ sections, registry.resolve s.name = .ok request.descriptor ∧
      ∃ targets, Target.ofSection request.descriptor s geometry = .ok targets ∧
        request.target ∈ targets := by
  induction sections generalizing requests with
  | nil =>
    obtain rfl := Except.ok.inj listed
    cases among
  | cons s rest ih =>
    obtain ⟨front, found, listed⟩ := Except.bind_eq_ok_iff.mp listed
    obtain ⟨back, others, listed⟩ := Except.bind_eq_ok_iff.mp listed
    obtain rfl := Except.ok.inj listed
    rcases List.mem_append.mp among with here | later
    · obtain ⟨descriptor, resolved, found⟩ := Except.bind_eq_ok_iff.mp found
      obtain ⟨targets, asked, found⟩ := Except.bind_eq_ok_iff.mp found
      obtain rfl := Except.ok.inj found
      obtain ⟨target, there, rfl⟩ := List.mem_map.mp here
      exact ⟨s, List.mem_cons_self, resolved, targets, asked, there⟩
    · obtain ⟨other, there, known⟩ := ih others later
      exact ⟨other, List.mem_cons_of_mem _ there, known⟩

namespace Manager

variable {κ ω : Type} [Payload κ] [DecidableEq κ] {geometry : Geometry}
  {manager after : Manager κ ω} {made : List (Commission κ ω)} {outcome : Outcome Unit}
  {called : Commission κ ω}

theorem Turn.of_mem {request : Request κ ω}
    (turn : Turn geometry request manager made outcome after) (among : called ∈ made) :
    called.request = request ∧ called.geometry = geometry := by
  cases turn with
  | dropped => cases among
  | ambiguous => cases among
  | built =>
    rw [List.mem_singleton.mp among]
    exact ⟨rfl, rfl⟩
  | failed =>
    rw [List.mem_singleton.mp among]
    exact ⟨rfl, rfl⟩
  | panicked =>
    rw [List.mem_singleton.mp among]
    exact ⟨rfl, rfl⟩

/-- A factory is called for one of the requests, with the setup. -/
theorem Turns.of_mem {requests : List (Request κ ω)}
    (turns : Turns geometry manager requests made outcome after) (among : called ∈ made) :
    called.request ∈ requests ∧ called.geometry = geometry := by
  induction turns with
  | done => cases among
  | refused => cases among
  | next turn _ ih =>
    rcases List.mem_append.mp among with first | later
    · obtain ⟨rfl, same⟩ := turn.of_mem first
      exact ⟨List.mem_cons_self, same⟩
    · obtain ⟨listed, same⟩ := ih later
      exact ⟨List.mem_cons_of_mem _ listed, same⟩
  | last turn _ =>
    obtain ⟨rfl, same⟩ := turn.of_mem among
    exact ⟨List.mem_cons_self, same⟩

end Manager

/-! ## What an instance was made from -/

namespace Commission

variable {κ ω : Type} [Payload κ] [DecidableEq κ]

/-- An instance comes out of a factory call: it has the identity that the call was
made for, and the module that the factory made. -/
structure Yields (commission : Commission κ ω) (inst : Instance κ ω) :
    Prop where
  identifier : inst.identifier = commission.request.target.identifier
  receiver : inst.receiver = commission.site.receiver
  module : (commission.result).1 = .ok inst.module

variable {commission : Commission κ ω} {inst : Instance κ ω}

theorem Yields.key (yields : commission.Yields inst) :
    inst.identifier.key = commission.request.key :=
  congrArg Identifier.key yields.identifier

/-- Delegates carry the display name of the instance. -/
theorem Yields.name (yields : commission.Yields inst) : inst.receiver.name = inst.name := by
  rw [Instance.name, yields.identifier, yields.receiver]
  rfl

theorem Yields.priority (yields : commission.Yields inst) :
    inst.identifier.priority = commission.request.priority :=
  congrArg Identifier.priority yields.identifier

/-- Every instance comes from one of the calls. -/
theorem exists_yields {crew : List (Commission κ ω)} {instances : List (Instance κ ω)}
    (built : List.Forall₂ (Yields) crew instances) (among : inst ∈ instances) :
    ∃ commission ∈ crew, commission.Yields inst := by
  induction built with
  | nil => cases among
  | cons yields _ ih =>
    rcases List.mem_cons.mp among with rfl | among
    · exact ⟨_, List.mem_cons_self, yields⟩
    · obtain ⟨commission, hired, yields⟩ := ih among
      exact ⟨commission, List.mem_cons_of_mem _ hired, yields⟩

/-- What an instance has from its call can be read off the calls. -/
theorem map_eq_of_yields {β : Type} {f : Instance κ ω → β} {g : Commission κ ω → β}
    (same : ∀ {commission : Commission κ ω} {inst : Instance κ ω},
      commission.Yields inst → f inst = g commission)
    {crew : List (Commission κ ω)} {instances : List (Instance κ ω)}
    (built : List.Forall₂ Yields crew instances) : instances.map f = crew.map g := by
  induction built with
  | nil => rfl
  | cons yields _ ih => rw [List.map_cons, List.map_cons, same yields, ih]

end Commission

/-! ## A setup to try things on -/

/-- A setup of two detectors. -/
def Geometry.pair : Geometry :=
  ⟨[.atOrigin "left" "sensor", .atOrigin "right" "sensor"]⟩

end DetectorSim
