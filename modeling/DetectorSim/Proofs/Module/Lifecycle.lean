import DetectorSim.Proofs.Module.Running
import DetectorSim.Proofs.Pool.Itinerary

/-!
# The life of a manager

The calls that lead a manager through its life may be made in any order and any number
of times, and each of them may fail.  What is seen of them are the hooks that they call
and the event loop that one of them starts.  All that can be seen follows one pattern:
first calls of the initializing hooks, then one event loop, and then calls of the
finalizing hooks.

What a call can come to is said once, as a relation between the manager before and after
it.  The pattern is an invariant of all lives.
-/

set_option autoImplicit false

namespace DetectorSim

variable {κ ω : Type} [Payload κ]

namespace ManagerState

/-- The place of a state in the life of a manager. -/
def rank : ManagerState → Nat
  | .empty => 0
  | .loaded => 1
  | .initialized => 2
  | .ran => 3
  | .finalized => 4

theorem rank_eq_zero_iff {state : ManagerState} : state.rank = 0 ↔ state = .empty := by
  cases state <;> simp [rank]

end ManagerState

/-! ## What is seen -/

/-- What is seen of a manager that is led through its life. -/
inductive Mark (κ : Type) [Payload κ] where
  /-- A hook of the instance with an index was called and has ended. -/
  | called (phase : Phase) (index : Nat) (outcome : Outcome Unit)
  /-- The event loop was started. -/
  | began (workers : Nat)
  /-- Something was seen of the event loop. -/
  | acted (act : Act κ)
  /-- The event loop has ended. -/
  | ended

namespace Mark

/-- What was seen of the event loop. -/
def act? : Mark κ → Option (Act κ)
  | .acted act => some act
  | _ => none

/-- Whether a hook of a phase was called. -/
def isCallIn (phase : Phase) : Mark κ → Bool
  | .called other _ _ => other = phase
  | _ => false

/-- Whether the event loop was started. -/
def isBegan : Mark κ → Bool
  | .began _ => true
  | _ => false

end Mark

/-- What was seen of the event loop, in order. -/
def loopActs (marks : List (Mark κ)) : List (Act κ) :=
  marks.filterMap Mark.act?

/-! ## Rounds -/

/-- A part of the life of a manager in which every instance gets one call. -/
structure Round (κ ω : Type) [Payload κ] where
  phase : Phase
  verb : String
  announcement : String
  /-- What the log sections of the calls begin with. -/
  letter : String
  /-- The hook that is called. -/
  hook : Module κ ω → Hook ω Unit
  /-- The state that the round needs. -/
  needs : ManagerState
  /-- The state that the round leads to. -/
  leadsTo : ManagerState

namespace Round

/-- The round in which the instances are initialized. -/
def init : Round κ ω :=
  ⟨.init, "init", "Initializing", "I", Module.init, .loaded, .initialized⟩

/-- The round in which the instances are finalized. -/
def finalize : Round κ ω :=
  ⟨.finalize, "finalize", "Finalizing", "F", Module.finalize, .ran, .finalized⟩

variable (round : Round κ ω)

/-- Call the hook of an instance. -/
def call (inst : Instance κ ω) : Proc (Env ω) Unit :=
  inst.call round.letter round.phase (Hook.exec (round.hook inst.module))

/-- The call of an instance, announced in the log. -/
def turn (inst : Instance κ ω) : Proc (Manager κ ω × Env ω) Unit := do
  Proc.log .debug (round.announcement ++ " " ++ inst.name)
  Proc.onSnd (round.call inst)

/-- Make a round. -/
def perform : Proc (Manager κ ω × Env ω) Unit := do
  Manager.expect round.needs round.verb
  Manager.callAll round.announcement round.call
  Manager.enter round.leadsTo

/-- The marks of calls that end in given ways, one instance after the other. -/
def marksOf (outcomes : List (Outcome Unit)) : List (Mark κ) :=
  outcomes.zipIdx.map fun (outcome, index) => .called round.phase index outcome

/-- What is seen of a round. -/
def marks (state : Manager κ ω × Env ω) : List (Mark κ) :=
  match Manager.expect round.needs round.verb state with
  | (.ok (), state) => round.marksOf (Proc.outcomes round.turn state.1.instances state)
  | _ => []

/-- The hooks of some instances are executed one after the other, each in the world that
the one before it has left: how they end, how all of it ends, and the world in the end.
The first one that fails is the last one. -/
inductive Relay : List (Instance κ ω) → ω → List (Outcome Unit) → Outcome Unit → ω → Prop
  | over {world : ω} : Relay [] world [] (.ok ()) world
  | fine {inst : Instance κ ω} {rest : List (Instance κ ω)} {env env' : Env ω}
      {outcomes : List (Outcome Unit)} {outcome : Outcome Unit} {last : ω}
      (executed : Hook.exec (round.hook inst.module) env = (.ok (), env'))
      (onward : Relay rest env'.world outcomes outcome last) :
      Relay (inst :: rest) env.world (.ok () :: outcomes) outcome last
  | broken {inst : Instance κ ω} {rest : List (Instance κ ω)} {env env' : Env ω}
      {outcome ended : Outcome Unit}
      (executed : Hook.exec (round.hook inst.module) env = (outcome, env'))
      (failed : outcome ≠ .ok ())
      (named : ended = outcome.mapError fun err => err.inModule inst.name round.phase) :
      Relay (inst :: rest) env.world [ended] ended env'.world

/-- The calls of a round are its turns. -/
theorem callAll_eq (state : Manager κ ω × Env ω) :
    Manager.callAll round.announcement round.call state
      = Proc.each round.turn state.1.instances state := rfl

/-- The rounds are what the manager makes of its instances. -/
theorem perform_init : (init : Round κ ω).perform = Manager.init := rfl

theorem perform_finalize : (finalize : Round κ ω).perform = Manager.finalize := rfl

/-- In its turn the hook of an instance is executed in the world and on the thread of the
round; its error is wrapped, and the world is left as the hook leaves it. -/
theorem exists_turn (inst : Instance κ ω) (state : Manager κ ω × Env ω) :
    ∃ env, env.world = state.2.world ∧ env.journal.thread = state.2.journal.thread ∧
      (round.turn inst state).1 = (Hook.exec (round.hook inst.module) env).1.mapError
        (fun err => err.inModule inst.name round.phase) ∧
      (round.turn inst state).2.2.world = (Hook.exec (round.hook inst.module) env).2.world :=
  let journal := state.2.journal.write .debug (round.announcement ++ " " ++ inst.name)
  ⟨⟨state.2.world, (journal.enter (round.letter ++ ":" ++ inst.name)).2⟩, rfl, rfl, rfl, rfl⟩

/-- The turns of a round execute the hooks of the instances one after the other. -/
theorem relay_each (instances : List (Instance κ ω)) (state : Manager κ ω × Env ω) :
    round.Relay instances state.2.world (Proc.outcomes round.turn instances state)
      (Proc.each round.turn instances state).1
      (Proc.each round.turn instances state).2.2.world := by
  induction instances generalizing state with
  | nil => exact .over
  | cons inst rest ih =>
    obtain ⟨env, world_eq, -, ended, left⟩ := round.exists_turn inst state
    generalize executed : Hook.exec (round.hook inst.module) env = result at ended left
    generalize turned : round.turn inst state = turn at ended left
    obtain ⟨outcome, env'⟩ := result
    obtain ⟨outcome', after⟩ := turn
    dsimp only at ended left
    rw [← world_eq, Proc.outcomes]
    by_cases fine : outcome = .ok ()
    · obtain rfl := fine
      obtain rfl : outcome' = .ok () := ended
      rw [Proc.turns_cons_of_ok turned, Proc.each_cons_of_ok turned, List.map_cons, turned]
      exact .fine executed (left ▸ ih after)
    · have failed : outcome' ≠ .ok () := by
        rw [ended]
        cases outcome with
        | ok value => exact absurd rfl fine
        | _ => simp [Outcome.mapError]
      rw [Proc.turns_cons_of_ne turned failed, Proc.each_cons_of_ne turned failed,
        List.map_singleton, turned]
      dsimp only
      rw [left]
      exact .broken executed fine ended

variable {round}

theorem mem_marksOf {outcomes : List (Outcome Unit)} {mark : Mark κ} :
    mark ∈ round.marksOf outcomes ↔
      ∃ index outcome, outcomes[index]? = some outcome ∧
        mark = .called round.phase index outcome := by
  rw [marksOf, List.mem_map]
  constructor
  · rintro ⟨⟨outcome, index⟩, among, rfl⟩
    exact ⟨index, outcome, List.mem_zipIdx_iff_getElem?.mp among, rfl⟩
  · rintro ⟨index, outcome, found, rfl⟩
    exact ⟨(outcome, index), List.mem_zipIdx_iff_getElem?.mpr found, rfl⟩

/-- The calls of a round leave the manager alone. -/
theorem keeps_turn (inst : Instance κ ω) : Proc.Keeps Prod.fst (round.turn inst) :=
  (Proc.Keeps.log (fun _ _ => rfl) _ _).andThen fun _ _ => rfl

end Round

/-! ## Calls of a manager -/

namespace Manager

/-- A call that leads a manager on in its life. -/
inductive Command (κ ω : Type) [Payload κ] where
  | load (reader : Config.Reader) (registry : Registry κ ω) (geometry : Geometry)
  | init
  | run (scheduler : Scheduler κ ω) (host : Host) (settings : Settings)
  | finalize

/-- A run that asks for several workers is declined if some instances must not run on
several threads and the settings are strict. -/
def Declines (host : Host) (settings : Settings) (manager : Manager κ ω) : Prop :=
  settings.concurrency = .pooled ∧ 2 ≤ settings.workers host.processors ∧
    manager.unsafeNames ≠ [] ∧ settings.strict = true

/-- A run is spread over several workers if the settings ask for it and every instance may run
on several threads. -/
def Spreads (host : Host) (settings : Settings) (manager : Manager κ ω) : Prop :=
  settings.concurrency = .pooled ∧ 2 ≤ settings.workers host.processors ∧
    ∀ inst ∈ manager.instances, inst.module.safety ≠ .notThreadSafe

theorem unsafeNames_eq_nil_iff {manager : Manager κ ω} :
    manager.unsafeNames = [] ↔
      ∀ inst ∈ manager.instances, inst.module.safety ≠ .notThreadSafe := by
  simp [unsafeNames, List.filter_eq_nil_iff]

namespace Command

/-- The state that a call needs. -/
def needs : Command κ ω → ManagerState
  | .load .. => .empty
  | .init => .loaded
  | .run .. => .initialized
  | .finalize => .ran

/-- The round that a call makes. -/
def round? : Command κ ω → Option (Round κ ω)
  | .init => some .init
  | .finalize => some .finalize
  | _ => none

variable [DecidableEq κ]

/-- What a call does. -/
def perform : Command κ ω → Proc (Manager κ ω × Env ω) Unit
  | .load reader registry geometry => Manager.load reader registry geometry
  | .init => Manager.init
  | .run scheduler host settings => do
      let _ ← Manager.runWith scheduler host settings
  | .finalize => Manager.finalize

/-- What is seen of a call that finds the manager in a state.  Of the event loop
anything is seen that the scheduler allows, from its start to its end. -/
inductive Shows : Command κ ω → Manager κ ω × Env ω → List (Mark κ) → Prop
  | load {reader : Config.Reader} {registry : Registry κ ω} {geometry : Geometry}
      {state : Manager κ ω × Env ω} : Shows (.load reader registry geometry) state []
  | init {state : Manager κ ω × Env ω} : Shows .init state (Round.init.marks state)
  | idle {scheduler : Scheduler κ ω} {host : Host} {settings : Settings}
      {state : Manager κ ω × Env ω}
      (unstarted : ∀ start after, outset host settings state ≠ (.ok start, after)) :
      Shows (.run scheduler host settings) state []
  | run {scheduler : Scheduler κ ω} {host : Host} {settings : Settings}
      {state : Manager κ ω × Env ω} {workers : Nat} {plan : RunPlan κ ω} {begun : Manager κ ω}
      {left : Env ω} {roster : List (Nat × Act κ)}
      (started : outset host settings state = (.ok (workers, plan), (begun, left)))
      (seen : Manager.Shows scheduler plan settings.events workers left roster)
      (ended : 1 < workers →
        (scheduler plan settings.events
          (plan.startPool workers plan.noTallies left)).hasEnded = true) :
      Shows (.run scheduler host settings) state
        (.began workers :: ((actsOf roster).map .acted ++ [.ended]))
  | finalize {state : Manager κ ω × Env ω} : Shows .finalize state (Round.finalize.marks state)

end Command

/-! ## What a call can come to -/

/-- Every event is offered to an instance at most once, unless the counter of the events
has started again from zero. -/
def AtMostOnce (workers : Nat) (acts : List (Act κ)) : Prop :=
  (1 < workers → (takenEvents acts).length + workers < 2 ^ 64) →
    ∀ event, (stops event acts).Nodup

/-- What a call can come to: what is seen of it, how it ends, and what it leaves. -/
inductive Effect [DecidableEq κ] (before : Manager κ ω × Env ω) :
    Command κ ω → List (Mark κ) → Outcome Unit → Manager κ ω × Env ω → Prop
  /-- The manager is in the wrong state. -/
  | refused {command : Command κ ω} (wrong : before.1.state ≠ command.needs) (text : String) :
      Effect before command [] (.error (.logic text)) before
  /-- The configuration was not loaded. -/
  | unloaded {reader : Config.Reader} {registry : Registry κ ω} {geometry : Geometry}
      {outcome : Outcome Unit} {after : Manager κ ω × Env ω} (due : before.1.state = .empty)
      (failed : outcome ≠ .ok ()) (still : after.1.state = .empty) :
      Effect before (.load reader registry geometry) [] outcome after
  /-- The configuration was loaded. -/
  | loaded {reader : Config.Reader} {registry : Registry κ ω} {geometry : Geometry}
      {after : Manager κ ω × Env ω} (due : before.1.state = .empty)
      (now : after.1.state = .loaded) :
      Effect before (.load reader registry geometry) [] (.ok ()) after
  /-- A round ends with the first call that fails. -/
  | broken {command : Command κ ω} {round : Round κ ω} {fine : Nat} {outcome : Outcome Unit}
      (makes : command.round? = some round) (due : before.1.state = round.needs)
      (inside : fine < before.1.instances.length) (failed : outcome ≠ .ok ()) (env : Env ω) :
      Effect before command (round.marksOf (List.replicate fine (.ok ()) ++ [outcome])) outcome
        (before.1, env)
  /-- All calls of a round end well. -/
  | completed {command : Command κ ω} {round : Round κ ω} (makes : command.round? = some round)
      (due : before.1.state = round.needs) (env : Env ω) :
      Effect before command
        (round.marksOf (List.replicate before.1.instances.length (.ok ()))) (.ok ())
        ({ before.1 with state := round.leadsTo }, env)
  /-- A run is declined for instances that must not run on several threads. -/
  | declined {scheduler : Scheduler κ ω} {host : Host} {settings : Settings}
      (due : before.1.state = .initialized) (declines : Declines host settings before.1) :
      Effect before (.run scheduler host settings) []
        (.error (.threadUnsafe before.1.unsafeNames)) before
  /-- The event loop was started and has ended somehow. -/
  | ran {scheduler : Scheduler κ ω} {host : Host} {settings : Settings} {workers : Nat}
      {acts : List (Act κ)} {outcome : Outcome Unit} (due : before.1.state = .initialized)
      (accepts : ¬ Declines host settings before.1) (once : AtMostOnce workers acts)
      (env : Env ω) :
      Effect before (.run scheduler host settings)
        (.began workers :: (acts.map .acted ++ [.ended])) outcome
        ({ before.1 with state := .ran }, env)

/-! ## Loading -/

section Loading

/-- A procedure leaves the state of the manager alone, however it ends. -/
abbrev Stays {α : Type} (proc : Proc (Manager κ ω × Env ω) α) : Prop :=
  Proc.Keeps (fun state : Manager κ ω × Env ω => state.1.state) proc

theorem stays_log (level : Level) (text : String) :
    Stays (Proc.log level text : Proc (Manager κ ω × Env ω) Unit) :=
  .log (fun _ _ => rfl) level text

theorem stays_onMessenger {α : Type} (proc : Proc (Messenger κ ω × Env ω) α) :
    Stays (onMessenger proc) :=
  fun _ => rfl

theorem stays_within {α : Type} {proc : Proc (Manager κ ω × Env ω) α} (stays : Stays proc)
    (name : String) : Stays (Proc.within name proc) :=
  .within (fun _ _ => rfl) stays name

variable [DecidableEq κ]

theorem stays_claimPlace (identifier : Identifier) :
    Stays (claimPlace identifier : Proc (Manager κ ω × Env ω) Bool) := by
  unfold claimPlace
  refine Proc.Keeps.get.andThen fun (manager, _) => ?_
  dsimp only
  cases manager.claim identifier with
  | free => exact .done true
  | replaces held =>
    refine .andThen (fun _ => rfl) fun _ => (stays_onMessenger _).andThen fun _ => ?_
    exact (stays_log _ _).andThen fun _ => .andThen (fun _ => rfl) fun _ => .done true
  | dropped held => exact (stays_log _ _).andThen fun _ => .done false
  | ambiguous => exact fun _ => rfl

theorem stays_install (site : Site) (made : Outcome (Module κ ω)) : Stays (install site made) := by
  cases made with
  | ok module => exact (stays_log _ _).andThen fun _ _ => rfl
  | error err => exact (stays_onMessenger _).andThen fun _ _ => rfl
  | panic text => exact fun _ => rfl

theorem stays_construct (descriptor : Descriptor κ ω) (s : Config.Section)
    (geometry : Geometry) (target : Target) : Stays (construct descriptor s geometry target) := by
  refine Proc.Keeps.andThen (fun _ => rfl) fun site => stays_within ?_ _
  exact (stays_onMessenger _).attempt.andThen fun made => stays_install site made

theorem stays_loadTarget (descriptor : Descriptor κ ω) (s : Config.Section)
    (geometry : Geometry) (target : Target) : Stays (loadTarget descriptor s geometry target) := by
  refine (stays_claimPlace _).andThen fun admitted => ?_
  cases admitted with
  | false => exact .done ()
  | true => exact stays_construct descriptor s geometry target

/-- Loading, also where it fails, does not enter another state before its end. -/
theorem stays_loadSection (registry : Registry κ ω) (geometry : Geometry)
    (s : Config.Section) : Stays (loadSection registry geometry s) := by
  refine (Proc.Keeps.ofOutcome _).andThen fun descriptor => (stays_log _ _).andThen fun _ => ?_
  exact (Proc.Keeps.ofOutcome _).andThen fun targets =>
    .each (stays_loadTarget descriptor s geometry) targets

end Loading

/-! ## Every call has an effect -/

section Effects

variable [DecidableEq κ] {before : Manager κ ω × Env ω}

omit [DecidableEq κ] in
theorem expect_of_due {state : ManagerState} {verb : String} (due : before.1.state = state) :
    expect state verb before = (.ok (), before) :=
  expect_eq_ok_iff.mpr ⟨due, rfl⟩

omit [DecidableEq κ] in
theorem expect_of_wrong {state : ManagerState} (wrong : before.1.state ≠ state) (verb : String) :
    ∃ text, expect state verb before = (.error (.logic text), before) :=
  ⟨_, if_neg wrong⟩

theorem effect_load (reader : Config.Reader) (registry : Registry κ ω) (geometry : Geometry) :
    Effect before (.load reader registry geometry) []
      (load reader registry geometry before).1 (load reader registry geometry before).2 := by
  unfold load
  by_cases due : before.1.state = .empty
  · have kept := Proc.Keeps.each (stays_loadSection registry geometry) reader.moduleSections before
    simp only [Proc.bind_apply, Proc.andThen, expect_of_due due]
    generalize Proc.each (loadSection registry geometry) reader.moduleSections before = result
      at kept
    obtain ⟨outcome, mid⟩ := result
    cases outcome with
    | ok value => exact .loaded due rfl
    | error err => exact .unloaded due (by simp) (kept.trans due)
    | panic text => exact .unloaded due (by simp) (kept.trans due)
  · obtain ⟨text, refused⟩ := expect_of_wrong due "load"
    simp only [Proc.bind_apply, Proc.andThen, refused]
    exact .refused due text

omit [DecidableEq κ] in
theorem needs_of_round {command : Command κ ω} {round : Round κ ω}
    (makes : command.round? = some round) : command.needs = round.needs := by
  cases command with
  | init => cases makes; rfl
  | finalize => cases makes; rfl
  | _ => cases makes

theorem effect_round {command : Command κ ω} {round : Round κ ω}
    (makes : command.round? = some round) :
    Effect before command (round.marks before) (round.perform before).1
      (round.perform before).2 := by
  unfold Round.marks Round.perform
  by_cases due : before.1.state = round.needs
  · have kept := Proc.Keeps.each round.keeps_turn before.1.instances before
    have ends := Proc.outcomes_cases round.turn before.1.instances before
    simp only [Proc.bind_apply, Proc.andThen, expect_of_due due, Round.callAll_eq]
    generalize Proc.each round.turn before.1.instances before = result at kept ends
    obtain ⟨outcome, mid, env⟩ := result
    obtain rfl : mid = before.1 := kept
    rcases ends with ⟨fine, all⟩ | ⟨fine, inside, failed, all⟩
    · obtain rfl : outcome = .ok () := fine
      rw [all]
      exact .completed makes due env
    · rw [all]
      cases outcome with
      | ok value => exact absurd rfl failed
      | error err => exact .broken makes due inside failed env
      | panic text => exact .broken makes due inside failed env
  · obtain ⟨text, refused⟩ := expect_of_wrong due round.verb
    simp only [Proc.bind_apply, Proc.andThen, refused]
    exact .refused (by rwa [needs_of_round makes]) text

omit [DecidableEq κ] in
/-- A round that is due executes the hooks of the instances one after the other. -/
theorem relay_of_due {round : Round κ ω} (due : before.1.state = round.needs) :
    ∃ outcomes, round.marks before = round.marksOf outcomes ∧
      round.Relay before.1.instances before.2.world outcomes (round.perform before).1
        (round.perform before).2.2.world := by
  have relay := round.relay_each before.1.instances before
  refine ⟨Proc.outcomes round.turn before.1.instances before, ?_, ?_⟩
  · rw [Round.marks, expect_of_due due]
  · unfold Round.perform
    simp only [Proc.bind_apply, Proc.andThen, expect_of_due due, Round.callAll_eq]
    generalize Proc.each round.turn before.1.instances before = result at relay
    obtain ⟨outcome, after⟩ := result
    cases outcome with
    | ok value => exact relay
    | error err => exact relay
    | panic text => exact relay

omit [DecidableEq κ] in
theorem planWorkers_of_declines {host : Host} {settings : Settings}
    (declines : Declines host settings before.1) :
    planWorkers host settings before
      = (.error (.threadUnsafe before.1.unsafeNames), before) := by
  obtain ⟨pooled, several, unsafe_ones, strict⟩ := declines
  obtain ⟨name, rest, named⟩ := List.exists_cons_of_ne_nil unsafe_ones
  unfold planWorkers
  simp only [Proc.bind_apply, Proc.andThen, Proc.get, pooled, Nat.not_lt.mpr several, if_false,
    named, strict, if_true]
  rfl

omit [DecidableEq κ] in
theorem exists_planWorkers {host : Host} {settings : Settings}
    (accepts : ¬ Declines host settings before.1) :
    ∃ workers env, planWorkers host settings before = (.ok workers, (before.1, env)) ∧
      (Spreads host settings before.1 ∧ workers = settings.workers host.processors ∨
        ¬ Spreads host settings before.1 ∧ workers = 1) := by
  unfold planWorkers
  simp only [Proc.bind_apply, Proc.andThen, Proc.get]
  cases mode : settings.concurrency with
  | singleThreaded =>
    refine ⟨1, before.2, rfl, .inr ⟨fun spreads => ?_, rfl⟩⟩
    cases mode.symm.trans spreads.1
  | pooled =>
    by_cases few : settings.workers host.processors < 2
    · simp only [few, if_true]
      exact ⟨1, _, rfl, .inr ⟨fun spreads => Nat.not_lt.mpr spreads.2.1 few, rfl⟩⟩
    · simp only [few, if_false]
      cases named : before.1.unsafeNames with
      | nil =>
        refine ⟨_, _, rfl, .inl ⟨⟨mode, Nat.le_of_not_lt few, ?_⟩, rfl⟩⟩
        exact unsafeNames_eq_nil_iff.mp named
      | cons name rest =>
        have some_unsafe : before.1.unsafeNames ≠ [] := by
          rw [named]
          exact List.cons_ne_nil _ _
        cases strict : settings.strict with
        | false =>
          refine ⟨1, _, rfl, .inr ⟨fun spreads => some_unsafe ?_, rfl⟩⟩
          exact unsafeNames_eq_nil_iff.mpr spreads.2.2
        | true => exact absurd ⟨mode, Nat.le_of_not_lt few, some_unsafe, strict⟩ accepts

omit [DecidableEq κ] in
/-- A run that was not declined gets under way, on all workers of a pool or on one thread. -/
theorem exists_outset {host : Host} {settings : Settings} (due : before.1.state = .initialized)
    (accepts : ¬ Declines host settings before.1) :
    ∃ workers plan left, outset host settings before
        = (.ok (workers, plan), ({ before.1 with state := .ran }, left)) ∧
      (Spreads host settings before.1 ∧ workers = settings.workers host.processors ∨
        ¬ Spreads host settings before.1 ∧ workers = 1) := by
  obtain ⟨workers, env, planned, decided⟩ := exists_planWorkers accepts
  unfold outset
  simp only [Proc.bind_apply, Proc.andThen, expect_of_due due, planned]
  exact ⟨_, _, _, rfl, decided⟩

omit [DecidableEq κ] in
/-- A run that gets under way was due and not declined. -/
theorem of_outset {host : Host} {settings : Settings} {start : Nat × RunPlan κ ω}
    {after : Manager κ ω × Env ω} (started : outset host settings before = (.ok start, after)) :
    before.1.state = .initialized ∧ ¬ Declines host settings before.1 := by
  obtain ⟨⟨⟩, mid, passed, rest⟩ := Proc.andThen_eq_ok.mp started
  obtain ⟨due, rfl⟩ := expect_eq_ok_iff.mp passed
  obtain ⟨workers, planned, decided, -⟩ := Proc.andThen_eq_ok.mp rest
  refine ⟨due, fun declines => ?_⟩
  rw [planWorkers_of_declines declines] at decided
  cases decided

omit [DecidableEq κ] in
/-- A run that gets under way leaves all but its state of the manager alone. -/
theorem begun_of_outset {host : Host} {settings : Settings} {start : Nat × RunPlan κ ω}
    {begun : Manager κ ω} {left : Env ω}
    (started : outset host settings before = (.ok start, (begun, left))) :
    begun = { before.1 with state := .ran } := by
  obtain ⟨due, accepts⟩ := of_outset started
  obtain ⟨_, _, _, started', -⟩ := exists_outset due accepts
  exact (Prod.mk.inj (Prod.mk.inj (started.symm.trans started')).2).1

omit [DecidableEq κ] in
/-- A run does not get under way in the wrong state. -/
theorem outset_of_wrong {host : Host} {settings : Settings}
    (wrong : before.1.state ≠ .initialized) :
    ∃ text, outset host settings before = (.error (.logic text), before) := by
  obtain ⟨text, refused⟩ := expect_of_wrong wrong "run"
  refine ⟨text, ?_⟩
  unfold outset
  simp only [Proc.bind_apply, Proc.andThen, refused]

omit [DecidableEq κ] in
/-- A run that is declined does not get under way. -/
theorem outset_of_declines {host : Host} {settings : Settings}
    (due : before.1.state = .initialized) (declines : Declines host settings before.1) :
    outset host settings before = (.error (.threadUnsafe before.1.unsafeNames), before) := by
  unfold outset
  simp only [Proc.bind_apply, Proc.andThen, expect_of_due due, planWorkers_of_declines declines]

omit [DecidableEq κ] in
/-- A run gets under way or fails for one of two reasons. -/
theorem outset_cases (host : Host) (settings : Settings) (before : Manager κ ω × Env ω) :
    (∃ workers plan begun, outset host settings before = (.ok (workers, plan), begun)) ∨
      (∃ text, outset host settings before = (.error (.logic text), before)) ∨
      ∃ names, outset host settings before = (.error (.threadUnsafe names), before) := by
  by_cases due : before.1.state = .initialized
  · by_cases declines : Declines host settings before.1
    · exact .inr (.inr ⟨_, outset_of_declines due declines⟩)
    · obtain ⟨workers, plan, left, started, -⟩ := exists_outset due declines
      exact .inl ⟨workers, plan, _, started⟩
  · exact .inr (.inl (outset_of_wrong due))

omit [DecidableEq κ] in
/-- A run that gets under way has all the workers that were asked for, or one. -/
theorem spreads_of_outset {host : Host} {settings : Settings} {workers : Nat}
    {plan : RunPlan κ ω} {after : Manager κ ω × Env ω}
    (started : outset host settings before = (.ok (workers, plan), after)) :
    Spreads host settings before.1 ∧ workers = settings.workers host.processors ∨
      ¬ Spreads host settings before.1 ∧ workers = 1 := by
  obtain ⟨due, accepts⟩ := of_outset started
  obtain ⟨workers', plan', left, started', decided⟩ := exists_outset due accepts
  obtain ⟨rfl, -⟩ := Prod.mk.inj (Outcome.ok.inj (Prod.mk.inj (started.symm.trans started')).1)
  exact decided

omit [DecidableEq κ] in
theorem workers_of_outset {host : Host} {settings : Settings} {workers : Nat}
    {plan : RunPlan κ ω} {after : Manager κ ω × Env ω}
    (started : outset host settings before = (.ok (workers, plan), after)) :
    workers = 1 ∨
      settings.concurrency = .pooled ∧ workers = settings.workers host.processors :=
  (spreads_of_outset started).symm.imp And.right fun both => ⟨both.1.1, both.2⟩

/-- What follows on the outset of a run leaves the manager alone. -/
theorem keeps_processEvents (scheduler : Scheduler κ ω) (plan : RunPlan κ ω)
    (events workers : Nat) : Proc.Keeps Prod.fst (processEvents scheduler plan events workers) :=
  fun _ => rfl

theorem fst_runWith {scheduler : Scheduler κ ω} {host : Host} {settings : Settings}
    {start : Nat × RunPlan κ ω} {begun : Manager κ ω} {left : Env ω}
    (started : outset host settings before = (.ok start, (begun, left))) :
    (runWith scheduler host settings before).2.1 = begun := by
  have rest : Proc.Keeps Prod.fst (do
      let tallies ← processEvents scheduler start.2 settings.events start.1
      Proc.log .info s!"Finished {settings.events} events"
      return RunReport.ofTallies settings.events start.1 start.2.instances tallies
        : Proc (Manager κ ω × Env ω) RunReport) :=
    (keeps_processEvents _ _ _ _).andThen fun _ =>
      (Proc.Keeps.log (fun _ _ => rfl) _ _).andThen fun _ => .done _
  rw [runWith_eq, Proc.bind_apply, Proc.andThen, started]
  exact rest (begun, left)

theorem Shows.atMostOnce {scheduler : Scheduler κ ω} {plan : RunPlan κ ω} {events workers : Nat}
    {env : Env ω} {roster : List (Nat × Act κ)}
    (seen : Shows scheduler plan events workers env roster) :
    AtMostOnce workers (actsOf roster) := by
  intro few event
  cases seen with
  | serial alone =>
    obtain ⟨reached, toured, -⟩ :=
      plan.exists_stops_serialActs event 1 events (plan.noTallies, env)
    rw [RunPlan.actsOf_serialRoster, toured]
    exact List.nodup_range
  | pooled several signed =>
    obtain ⟨reached, toured⟩ :=
      signed.history.exists_stops_eq (Nat.zero_lt_of_lt several) (few several) event
    rw [toured]
    exact List.nodup_range

theorem runWith_of_error {scheduler : Scheduler κ ω} {host : Host} {settings : Settings}
    {err : Error} {after : Manager κ ω × Env ω}
    (failed : outset host settings before = (.error err, after)) :
    runWith scheduler host settings before = (.error err, after) := by
  rw [runWith_eq, Proc.bind_apply, Proc.andThen, failed]

theorem perform_run (scheduler : Scheduler κ ω) (host : Host) (settings : Settings) :
    (Command.run scheduler host settings).perform before
      = ((runWith scheduler host settings before).1.map fun _ => (),
          (runWith scheduler host settings before).2) := by
  rw [Command.perform, Proc.bind_apply, Proc.andThen]
  generalize runWith scheduler host settings before = result
  obtain ⟨outcome, after⟩ := result
  cases outcome <;> rfl

/-- A run that does not get under way was not due or was declined. -/
theorem effect_idle {scheduler : Scheduler κ ω} {host : Host} {settings : Settings}
    (unstarted : ∀ start after, outset host settings before ≠ (.ok start, after)) :
    Effect before (.run scheduler host settings) []
      ((Command.run scheduler host settings).perform before).1
      ((Command.run scheduler host settings).perform before).2 := by
  by_cases due : before.1.state = .initialized
  · by_cases declines : Declines host settings before.1
    · rw [perform_run, runWith_of_error (outset_of_declines due declines)]
      exact .declined due declines
    · obtain ⟨workers, plan, left, started, -⟩ := exists_outset due declines
      exact absurd started (unstarted _ _)
  · obtain ⟨text, failed⟩ := outset_of_wrong due
    rw [perform_run, runWith_of_error failed]
    exact .refused due text

/-- **Every call has an effect.**  Whatever is seen of a call, and however it ends, is one
of the effects that it can have. -/
theorem Command.Shows.effect {command : Command κ ω} {marks : List (Mark κ)}
    (shows : command.Shows before marks) :
    Effect before command marks (command.perform before).1 (command.perform before).2 := by
  cases shows with
  | load => exact effect_load _ _ _
  | init => exact effect_round rfl
  | finalize => exact effect_round rfl
  | idle unstarted => exact effect_idle unstarted
  | @run scheduler host settings _ workers plan begun left roster started seen ended =>
    obtain ⟨due, accepts⟩ := of_outset started
    obtain rfl := begun_of_outset started
    have now : (runWith scheduler host settings before).2.1 = _ := fst_runWith started
    rw [perform_run]
    generalize runWith scheduler host settings before = result at now ⊢
    obtain ⟨outcome, manager, env⟩ := result
    obtain rfl := now
    exact .ran due accepts seen.atMostOnce env

/-- What is seen of a call that makes a round are the hooks of the instances, executed one
after the other. -/
theorem Command.Shows.relayed {command : Command κ ω} {round : Round κ ω}
    {marks : List (Mark κ)} (shows : command.Shows before marks)
    (makes : command.round? = some round) (due : before.1.state = round.needs) :
    ∃ outcomes, marks = round.marksOf outcomes ∧
      round.Relay before.1.instances before.2.world outcomes (command.perform before).1
        (command.perform before).2.2.world := by
  cases shows with
  | load => cases makes
  | idle => cases makes
  | run => cases makes
  | init =>
    obtain rfl := Option.some.inj makes
    exact relay_of_due due
  | finalize =>
    obtain rfl := Option.some.inj makes
    exact relay_of_due due

end Effects

/-! ## Lives -/

/-- A call in the life of a manager, and what is seen of it. -/
structure Episode (κ ω : Type) [Payload κ] where
  command : Command κ ω
  before : Manager κ ω × Env ω
  marks : List (Mark κ)
  outcome : Outcome Unit
  after : Manager κ ω × Env ω

/-- All that is seen of some calls, in order. -/
def lifeMarks (episodes : List (Episode κ ω)) : List (Mark κ) :=
  episodes.flatMap Episode.marks

section Lives

variable [DecidableEq κ]

/-- What is seen of a call that finds the manager in a state. -/
def Command.episode (command : Command κ ω) (before : Manager κ ω × Env ω)
    (marks : List (Mark κ)) : Episode κ ω :=
  ⟨command, before, marks, (command.perform before).1, (command.perform before).2⟩

/-- The calls that were made of a manager since it was empty, and what has become of it.
Between two calls the world and the log may change. -/
inductive Life : List (Episode κ ω) → Manager κ ω → Prop
  | born : Life [] .empty
  | call {episodes : List (Episode κ ω)} {manager : Manager κ ω} {command : Command κ ω}
      {marks : List (Mark κ)} (earlier : Life episodes manager) (env : Env ω)
      (shows : command.Shows (manager, env) marks) :
      Life (episodes ++ [command.episode (manager, env) marks])
        (command.perform (manager, env)).2.1

end Lives

/-! ## The pattern of a life -/

/-- All instances were initialized well, and nothing else was seen. -/
structure Prepared (count : Nat) (marks : List (Mark κ)) : Prop where
  only : ∀ mark ∈ marks, mark.isCallIn .init = true
  all : ∀ index, index < count → .called .init index (.ok ()) ∈ marks

/-- What was seen of a manager with a number of instances that has come to a state. -/
inductive Story (count : Nat) : ManagerState → List (Mark κ) → Prop
  | empty : Story count .empty []
  | loaded {marks : List (Mark κ)} (only : ∀ mark ∈ marks, mark.isCallIn .init = true) :
      Story count .loaded marks
  | initialized {marks : List (Mark κ)} (prepared : Prepared count marks) :
      Story count .initialized marks
  | ran {state : ManagerState} {workers : Nat} {inits finals : List (Mark κ)}
      {acts : List (Act κ)} (late : state = .ran ∨ state = .finalized)
      (prepared : Prepared count inits) (once : AtMostOnce workers acts)
      (closing : ∀ mark ∈ finals, mark.isCallIn .finalize = true) :
      Story count state
        (inits ++ (.began workers :: (acts.map .acted ++ [.ended])) ++ finals)

theorem isCallIn_of_mem_marksOf {round : Round κ ω} {outcomes : List (Outcome Unit)} :
    ∀ mark ∈ (round.marksOf outcomes : List (Mark κ)), mark.isCallIn round.phase = true := by
  intro mark among
  obtain ⟨index, outcome, -, rfl⟩ := Round.mem_marksOf.mp among
  exact decide_eq_true rfl

theorem mem_marksOf_replicate {round : Round κ ω} {count index : Nat} (inside : index < count) :
    (.called round.phase index (.ok ()) : Mark κ)
      ∈ round.marksOf (List.replicate count (.ok ())) :=
  Round.mem_marksOf.mpr ⟨index, .ok (), by rw [List.getElem?_replicate, if_pos inside], rfl⟩

namespace Story

variable {count : Nat} {seen marks : List (Mark κ)}

theorem eq_nil (story : Story count .empty seen) : seen = [] := by
  cases story with
  | empty => rfl
  | ran late => rcases late with late | late <;> cases late

theorem only (story : Story count .loaded seen) : ∀ mark ∈ seen, mark.isCallIn .init = true := by
  cases story with
  | loaded only => exact only
  | ran late => rcases late with late | late <;> cases late

theorem prepared (story : Story count .initialized seen) : Prepared count seen := by
  cases story with
  | initialized prepared => exact prepared
  | ran late => rcases late with late | late <;> cases late

/-- After the event loop only finalizing hooks are called. -/
theorem close {state : ManagerState} (story : Story count .ran seen)
    (late : state = .ran ∨ state = .finalized)
    (closing : ∀ mark ∈ marks, mark.isCallIn .finalize = true) :
    Story count state (seen ++ marks) := by
  cases story with
  | ran _ prepared once closed =>
    rw [List.append_assoc]
    exact .ran late prepared once (List.forall_mem_append.mpr ⟨closed, closing⟩)

/-- The pattern is kept by a round, whether all its calls end well or not. -/
theorem round {command : Command κ ω} {round : Round κ ω} {outcomes : List (Outcome Unit)}
    {state : ManagerState} (story : Story count round.needs seen)
    (makes : command.round? = some round)
    (ends : state = round.needs ∨
      state = round.leadsTo ∧ outcomes = List.replicate count (.ok ())) :
    Story count state (seen ++ round.marksOf outcomes) := by
  have called : ∀ mark ∈ (round.marksOf outcomes : List (Mark κ)),
      mark.isCallIn round.phase = true := isCallIn_of_mem_marksOf
  cases command with
  | load => cases makes
  | run => cases makes
  | init =>
    obtain rfl := Option.some.inj makes
    have only := List.forall_mem_append.mpr ⟨story.only, called⟩
    rcases ends with rfl | ⟨rfl, rfl⟩
    · exact .loaded only
    · refine .initialized ⟨only, fun index inside => List.mem_append_right _ ?_⟩
      exact mem_marksOf_replicate inside
  | finalize =>
    obtain rfl := Option.some.inj makes
    refine story.close ?_ called
    exact ends.imp id fun both => both.1

/-- The pattern is kept by every effect of a call. -/
theorem step [DecidableEq κ] {before after : Manager κ ω × Env ω} {command : Command κ ω}
    {outcome : Outcome Unit} (story : Story before.1.instances.length before.1.state seen)
    (effect : Effect before command marks outcome after) :
    Story after.1.instances.length after.1.state (seen ++ marks) := by
  cases effect with
  | refused wrong text =>
    rw [List.append_nil]
    exact story
  | declined due declines =>
    rw [List.append_nil]
    exact story
  | unloaded due failed still =>
    rw [due] at story
    rw [still, story.eq_nil]
    exact .empty
  | loaded due now =>
    rw [due] at story
    rw [now, story.eq_nil]
    exact .loaded (List.forall_mem_nil _)
  | broken makes due inside failed env =>
    rw [due] at story
    exact story.round makes (.inl due)
  | completed makes due env =>
    rw [due] at story
    exact story.round makes (.inr ⟨rfl, rfl⟩)
  | ran due accepts once env =>
    rw [due] at story
    rw [← List.append_nil (seen ++ _)]
    exact .ran (.inl rfl) story.prepared once (List.forall_mem_nil _)

end Story

/-! ## All lives follow the pattern -/

section Lives

variable [DecidableEq κ] {before after : Manager κ ω × Env ω} {command : Command κ ω}
  {marks : List (Mark κ)} {outcome : Outcome Unit} {episodes : List (Episode κ ω)}
  {manager : Manager κ ω}

namespace Effect

/-- A call leaves the state as it is or goes on to the next one. -/
theorem climbs (effect : Effect before command marks outcome after) :
    after.1.state.rank = before.1.state.rank ∨
      after.1.state.rank = before.1.state.rank + 1 := by
  cases effect with
  | refused => exact .inl rfl
  | unloaded due failed still => exact .inl (by rw [still, due])
  | loaded due now => exact .inr (by rw [now, due]; rfl)
  | broken => exact .inl rfl
  | @completed _ round makes due env =>
    refine .inr ?_
    rw [due]
    cases command with
    | load => cases makes
    | run => cases makes
    | init => obtain rfl := Option.some.inj makes; rfl
    | finalize => obtain rfl := Option.some.inj makes; rfl
  | declined => exact .inl rfl
  | ran due => exact .inr (by rw [due]; rfl)

/-- Instances come and go only while a configuration is loaded. -/
theorem instances_eq (effect : Effect before command marks outcome after)
    (filled : before.1.state ≠ .empty) : after.1.instances = before.1.instances := by
  cases effect with
  | unloaded due => exact absurd due filled
  | loaded due => exact absurd due filled
  | _ => rfl

end Effect

namespace Life

theorem effect (life : Life episodes manager) : ∀ episode ∈ episodes,
    Effect episode.before episode.command episode.marks episode.outcome episode.after := by
  induction life with
  | born => exact List.forall_mem_nil _
  | call earlier env shows ih =>
    refine List.forall_mem_append.mpr ⟨ih, List.forall_mem_singleton.mpr ?_⟩
    exact shows.effect

theorem story (life : Life episodes manager) :
    Story manager.instances.length manager.state (lifeMarks episodes) := by
  induction life with
  | born => exact .empty
  | call earlier env shows ih =>
    rw [lifeMarks, List.flatMap_append, List.flatMap_singleton]
    exact ih.step shows.effect

/-- What is seen of a round are the hooks of the instances, executed one after the other. -/
theorem relayed (life : Life episodes manager) : ∀ episode ∈ episodes, ∀ round,
    episode.command.round? = some round → episode.before.1.state = round.needs →
      ∃ outcomes, episode.marks = round.marksOf outcomes ∧
        round.Relay episode.before.1.instances episode.before.2.world outcomes episode.outcome
          episode.after.2.world := by
  induction life with
  | born => exact List.forall_mem_nil _
  | call earlier env shows ih =>
    refine List.forall_mem_append.mpr ⟨ih, List.forall_mem_singleton.mpr ?_⟩
    exact fun round makes due => shows.relayed makes due

/-- What was reached stays reached, and the instances that were there stay there. -/
theorem reached (life : Life episodes manager) : ∀ episode ∈ episodes,
    episode.after.1.state.rank ≤ manager.state.rank ∧
      (episode.before.1.state ≠ .empty → episode.before.1.instances = manager.instances) := by
  induction life with
  | born => exact List.forall_mem_nil _
  | @call episodes manager command marks earlier env shows ih =>
    refine List.forall_mem_append.mpr ⟨fun episode among => ?_, List.forall_mem_singleton.mpr ?_⟩
    · obtain ⟨below, same⟩ := ih episode among
      have climbs := shows.effect.climbs
      dsimp only at climbs
      refine ⟨by omega, fun filled => ?_⟩
      have risen := (earlier.effect episode among).climbs
      have filled' : manager.state ≠ .empty := by
        rw [ne_eq, ← ManagerState.rank_eq_zero_iff] at filled ⊢
        omega
      exact (same filled).trans (shows.effect.instances_eq filled').symm
    · exact ⟨Nat.le_refl _, fun filled => (shows.effect.instances_eq filled).symm⟩

/-- Calls are made in the order of the states. -/
theorem rising (life : Life episodes manager) : episodes.Pairwise fun earlier later =>
    earlier.after.1.state.rank ≤ later.before.1.state.rank := by
  induction life with
  | born => exact .nil
  | call earlier env shows ih =>
    refine List.pairwise_append.mpr ⟨ih, List.pairwise_singleton _ _, ?_⟩
    intro episode among later same
    rw [List.mem_singleton.mp same]
    exact (earlier.reached episode among).1

end Life

end Lives

/-! ## The order of the phases -/

/-- The phases of a life are in order. -/
structure Ordered (episodes : List (Episode κ ω)) (manager : Manager κ ω) : Prop where
  /-- A call leaves the state as it is or goes on to the next one. -/
  climbs : ∀ episode ∈ episodes,
    episode.after.1.state.rank = episode.before.1.state.rank ∨
      episode.after.1.state.rank = episode.before.1.state.rank + 1
  /-- No state comes again after a later one. -/
  rising : episodes.Pairwise fun earlier later =>
    earlier.after.1.state.rank ≤ later.before.1.state.rank
  /-- Hooks are called of the same instances all along. -/
  crew : ∀ episode ∈ episodes, episode.marks ≠ [] →
    episode.before.1.instances = manager.instances
  /-- A call in the wrong state is a logic error, calls no hook and changes nothing. -/
  refused : ∀ episode ∈ episodes, episode.before.1.state ≠ episode.command.needs →
    (∃ text, episode.outcome = .error (.logic text)) ∧ episode.marks = [] ∧
      episode.after = episode.before
  /-- What is seen of a round that is due are the hooks of the instances, executed one after
  the other up to the first that fails, from the world that is found to the one that is left. -/
  performed : ∀ episode ∈ episodes, ∀ round, episode.command.round? = some round →
    episode.before.1.state = round.needs → ∃ outcomes, episode.marks = round.marksOf outcomes ∧
      round.Relay episode.before.1.instances episode.before.2.world outcomes episode.outcome
        episode.after.2.world
  /-- A run that is declined for instances that must not run on several threads starts no
  event loop and changes nothing. -/
  declined : ∀ episode ∈ episodes, ∀ scheduler host settings,
    episode.command = .run scheduler host settings → episode.before.1.state = .initialized →
      Declines host settings episode.before.1 →
        episode.outcome = .error (.threadUnsafe episode.before.1.unsafeNames) ∧
          episode.marks = [] ∧ episode.after = episode.before
  /-- Any other run in the right state starts the event loop. -/
  accepted : ∀ episode ∈ episodes, ∀ scheduler host settings,
    episode.command = .run scheduler host settings → episode.before.1.state = .initialized →
      ¬ Declines host settings episode.before.1 → ∃ workers, .began workers ∈ episode.marks
  /-- Once it was started, the event loop leaves the manager as one that has run, however
  it has ended. -/
  started : ∀ episode ∈ episodes, ∀ workers, .began workers ∈ episode.marks →
    episode.before.1.state = .initialized ∧ episode.after.1.state = .ran
  /-- The event loop is started at most once. -/
  single : ((lifeMarks episodes).filter Mark.isBegan).length ≤ 1
  /-- Before anything is seen of the event loop, all instances were initialized well. -/
  prepared : ∀ earlier act later, lifeMarks episodes = earlier ++ .acted act :: later →
    ∀ index, index < manager.instances.length → .called .init index (.ok ()) ∈ earlier
  /-- Before a finalizing hook is called, the event loop has ended, and nothing is seen of
  it after that. -/
  closed : ∀ earlier index outcome later,
    lifeMarks episodes = earlier ++ .called .finalize index outcome :: later →
      .ended ∈ earlier ∧ ∀ mark ∈ later, mark.isCallIn .finalize = true
  /-- No instance is run twice for an event. -/
  once : (∀ workers, .began workers ∈ lifeMarks episodes → 1 < workers →
      (takenEvents (loopActs (lifeMarks episodes))).length + workers < 2 ^ 64) →
    ∀ event, (stops event (loopActs (lifeMarks episodes))).Nodup

/-- The part of a list before an element is known where the element can not be in it. -/
theorem exists_append_of_not_mem {α : Type} {first second earlier later : List α} {a : α}
    (same : first ++ second = earlier ++ a :: later) (apart : a ∉ first) :
    ∃ mid, earlier = first ++ mid ∧ second = mid ++ a :: later := by
  rcases List.append_eq_append_iff.mp same with ⟨mid, left, right⟩ | ⟨mid, left, right⟩
  · exact ⟨mid, left, right⟩
  · cases mid with
    | nil => exact ⟨[], by rw [left, List.append_nil, List.append_nil], right.symm⟩
    | cons b rest =>
      obtain ⟨rfl, -⟩ := List.cons.inj right
      exact absurd (left ▸ List.mem_append_right _ List.mem_cons_self) apart

namespace Story

variable {count : Nat} {state : ManagerState} {seen : List (Mark κ)}

theorem loopActs_of_called {marks : List (Mark κ)} {phase : Phase}
    (only : ∀ mark ∈ marks, mark.isCallIn phase = true) :
    loopActs marks = [] ∧ marks.filter Mark.isBegan = [] := by
  constructor
  · refine List.filterMap_eq_nil_iff.mpr fun mark among => ?_
    have called := only mark among
    cases mark with
    | called => rfl
    | _ => cases called
  · refine List.filter_eq_nil_iff.mpr fun mark among began => ?_
    have called := only mark among
    cases mark with
    | began => cases called
    | _ => cases began

/-- In the marks of an event loop it is started once and everything else is seen of it. -/
theorem loopActs_of_loop (workers : Nat) (acts : List (Act κ)) :
    loopActs (.began workers :: (acts.map .acted ++ [.ended])) = acts ∧
      (.began workers :: (acts.map Mark.acted ++ [.ended])).filter Mark.isBegan
        = [.began workers] := by
  constructor
  · simp [loopActs, Mark.act?, List.filterMap_cons, List.filterMap_map, Function.comp_def]
  · simp [Mark.isBegan, List.filter_cons, List.filter_eq_nil_iff]

/-- The event loop of a story, if there was one. -/
theorem loop (story : Story count state seen) :
    (loopActs seen = [] ∧ seen.filter Mark.isBegan = []) ∨
      ∃ workers, seen.filter Mark.isBegan = [.began workers] ∧
        AtMostOnce workers (loopActs seen) := by
  cases story with
  | empty => exact .inl ⟨rfl, rfl⟩
  | loaded only => exact .inl (loopActs_of_called only)
  | initialized prepared => exact .inl (loopActs_of_called prepared.only)
  | @ran _ workers inits finals acts late prepared once closing =>
    obtain ⟨unseen, unbegun⟩ := loopActs_of_called prepared.only
    obtain ⟨unseen', unbegun'⟩ := loopActs_of_called closing
    obtain ⟨seen, begun⟩ := loopActs_of_loop workers acts
    refine .inr ⟨workers, ?_, ?_⟩
    · rw [List.filter_append, List.filter_append, unbegun, unbegun', begun]
      rfl
    · rw [loopActs, List.filterMap_append, List.filterMap_append, ← loopActs, ← loopActs,
        ← loopActs, unseen, unseen', seen, List.append_nil, List.nil_append]
      exact once

/-- Where something is seen of the event loop, all instances were initialized well. -/
theorem prepared_before (story : Story count state seen) {earlier later : List (Mark κ)}
    {act : Act κ} (cut : seen = earlier ++ .acted act :: later) :
    ∀ index, index < count → .called .init index (.ok ()) ∈ earlier := by
  have uncalled {marks : List (Mark κ)} (only : ∀ mark ∈ marks, mark.isCallIn .init = true) :
      .acted act ∉ marks := fun among => by cases only _ among
  have among : .acted act ∈ seen := cut ▸ List.mem_append_right _ List.mem_cons_self
  cases story with
  | empty => cases among
  | loaded only => exact absurd among (uncalled only)
  | initialized prepared => exact absurd among (uncalled prepared.only)
  | ran late prepared once closing =>
    rw [List.append_assoc] at cut
    obtain ⟨mid, rfl, -⟩ := exists_append_of_not_mem cut (uncalled prepared.only)
    exact fun index inside => List.mem_append_left _ (prepared.all index inside)

/-- Where a finalizing hook was called, the event loop has ended and is over. -/
theorem closed_after (story : Story count state seen) {earlier later : List (Mark κ)}
    {index : Nat} {outcome : Outcome Unit}
    (cut : seen = earlier ++ .called .finalize index outcome :: later) :
    .ended ∈ earlier ∧ ∀ mark ∈ later, mark.isCallIn .finalize = true := by
  have uncalled {marks : List (Mark κ)} (only : ∀ mark ∈ marks, mark.isCallIn .init = true) :
      .called .finalize index outcome ∉ marks := fun among => by cases only _ among
  have among : .called .finalize index outcome ∈ seen :=
    cut ▸ List.mem_append_right _ List.mem_cons_self
  cases story with
  | empty => cases among
  | loaded only => exact absurd among (uncalled only)
  | initialized prepared => exact absurd among (uncalled prepared.only)
  | @ran _ workers inits finals acts late prepared once closing =>
    have outside : .called .finalize index outcome
        ∉ inits ++ (.began workers :: (acts.map .acted ++ [.ended])) := by
      simpa [List.mem_append, List.mem_cons] using uncalled prepared.only
    obtain ⟨mid, rfl, finals_eq⟩ := exists_append_of_not_mem cut outside
    refine ⟨by simp, fun mark behind => closing mark ?_⟩
    rw [finals_eq]
    exact List.mem_append_right _ (List.mem_cons_of_mem _ behind)

end Story

namespace Effect

variable [DecidableEq κ] {before after : Manager κ ω × Env ω} {command : Command κ ω}
  {marks : List (Mark κ)} {outcome : Outcome Unit}

/-- Nothing is seen of a manager that is empty. -/
theorem filled (effect : Effect before command marks outcome after) (seen : marks ≠ []) :
    before.1.state ≠ .empty := by
  have needs {round : Round κ ω} (makes : command.round? = some round) :
      round.needs ≠ .empty := by
    rw [← needs_of_round makes]
    cases command with
    | load => cases makes
    | _ => nofun
  cases effect with
  | broken makes due => exact due ▸ needs makes
  | completed makes due => exact due ▸ needs makes
  | ran due => exact due ▸ nofun
  | _ => exact absurd rfl seen

theorem of_wrong (effect : Effect before command marks outcome after)
    (wrong : before.1.state ≠ command.needs) :
    (∃ text, outcome = .error (.logic text)) ∧ marks = [] ∧ after = before := by
  cases effect with
  | refused _ text => exact ⟨⟨text, rfl⟩, rfl, rfl⟩
  | unloaded due => exact absurd due wrong
  | loaded due => exact absurd due wrong
  | broken makes due => exact absurd (due.trans (needs_of_round makes).symm) wrong
  | completed makes due => exact absurd (due.trans (needs_of_round makes).symm) wrong
  | declined due => exact absurd due wrong
  | ran due => exact absurd due wrong

theorem of_declines {scheduler : Scheduler κ ω} {host : Host} {settings : Settings}
    (effect : Effect before (.run scheduler host settings) marks outcome after)
    (due : before.1.state = .initialized) (declines : Declines host settings before.1) :
    outcome = .error (.threadUnsafe before.1.unsafeNames) ∧ marks = [] ∧ after = before := by
  cases effect with
  | refused wrong => exact absurd due wrong
  | broken makes => cases makes
  | completed makes => cases makes
  | declined => exact ⟨rfl, rfl, rfl⟩
  | ran _ accepts => exact absurd declines accepts

theorem of_accepts {scheduler : Scheduler κ ω} {host : Host} {settings : Settings}
    (effect : Effect before (.run scheduler host settings) marks outcome after)
    (due : before.1.state = .initialized) (accepts : ¬ Declines host settings before.1) :
    ∃ workers, .began workers ∈ marks := by
  cases effect with
  | refused wrong => exact absurd due wrong
  | broken makes => cases makes
  | completed makes => cases makes
  | declined _ declines => exact absurd declines accepts
  | @ran _ _ _ workers => exact ⟨workers, List.mem_cons_self⟩

theorem of_began {workers : Nat} (effect : Effect before command marks outcome after)
    (began : .began workers ∈ marks) :
    before.1.state = .initialized ∧ after.1.state = .ran := by
  cases effect with
  | broken => cases isCallIn_of_mem_marksOf _ began
  | completed => cases isCallIn_of_mem_marksOf _ began
  | ran due => exact ⟨due, rfl⟩
  | _ => cases began

end Effect

/-- **The order of the phases.**  Whatever calls are made of a manager, in whatever order,
and whatever comes of them, the phases of its life are in order. -/
theorem Life.ordered [DecidableEq κ] {episodes : List (Episode κ ω)} {manager : Manager κ ω}
    (life : Life episodes manager) : Ordered episodes manager where
  climbs episode among := (life.effect episode among).climbs
  rising := life.rising
  crew episode among seen :=
    (life.reached episode among).2 ((life.effect episode among).filled seen)
  refused episode among wrong := (life.effect episode among).of_wrong wrong
  performed := life.relayed
  declined episode among _ _ _ called due declines :=
    (called ▸ life.effect episode among).of_declines due declines
  accepted episode among _ _ _ called due accepts :=
    (called ▸ life.effect episode among).of_accepts due accepts
  started episode among _ began := (life.effect episode among).of_began began
  single := by
    rcases life.story.loop with ⟨-, none_begun⟩ | ⟨workers, begun, -⟩
    · rw [none_begun]
      exact Nat.zero_le 1
    · rw [begun]
      exact Nat.le_refl 1
  prepared _ _ _ cut := life.story.prepared_before cut
  closed _ _ _ _ cut := life.story.closed_after cut
  once few := by
    rcases life.story.loop with ⟨none_seen, -⟩ | ⟨workers, begun, once⟩
    · rw [none_seen]
      exact fun _ => List.nodup_nil
    · have started : .began workers ∈ (lifeMarks episodes).filter Mark.isBegan := by
        rw [begun]
        exact List.mem_singleton_self _
      exact once (few workers (List.mem_filter.mp started).1)

/-! ## Lives that are led -/

section Leading

variable [DecidableEq κ]

/-- What scheduler and settings of a call have to be like, so that its event loop comes to
an end. -/
def Command.IsFair : Command κ ω → Prop
  | .run scheduler host settings =>
      scheduler.Fair ∧ settings.events + settings.workers host.processors < 2 ^ 64
  | _ => True

/-- Make some calls, one after the other. -/
def lead (commands : List (Command κ ω)) (state : Manager κ ω × Env ω) :
    Manager κ ω × Env ω :=
  commands.foldl (fun state command => (command.perform state).2) state

/-- Something is seen of every call. -/
theorem Command.exists_shows {command : Command κ ω} (fair : command.IsFair)
    (before : Manager κ ω × Env ω) : ∃ marks, command.Shows before marks := by
  cases command with
  | load => exact ⟨_, .load⟩
  | init => exact ⟨_, .init⟩
  | finalize => exact ⟨_, .finalize⟩
  | run scheduler host settings =>
    by_cases started : ∃ start after, outset host settings before = (.ok start, after)
    · obtain ⟨⟨workers, plan⟩, ⟨begun, left⟩, started⟩ := started
      have fits : 1 < workers → settings.events + workers < 2 ^ 64 := by
        intro several
        rcases workers_of_outset started with rfl | ⟨-, rfl⟩
        · exact absurd several (Nat.lt_irrefl 1)
        · exact fair.2
      obtain ⟨roster, seen⟩ := Manager.exists_shows fair.1 fits
      exact ⟨_, .run started seen fun several => fair.1.ends _ _ _ _ _ (fits several)⟩
    · exact ⟨_, .idle fun start after same => started ⟨start, after, same⟩⟩

/-- A life goes on with the calls that are made, one after the other. -/
theorem Life.exists_lead {episodes : List (Episode κ ω)} {manager : Manager κ ω}
    (life : Life episodes manager) (commands : List (Command κ ω))
    (fair : ∀ command ∈ commands, command.IsFair) (env : Env ω) :
    ∃ later, Life (episodes ++ later) (lead commands (manager, env)).1 ∧
      later.map Episode.command = commands := by
  induction commands generalizing episodes manager env with
  | nil => exact ⟨[], by rwa [List.append_nil], rfl⟩
  | cons command rest ih =>
    obtain ⟨first, others⟩ := List.forall_mem_cons.mp fair
    obtain ⟨marks, shows⟩ := Command.exists_shows first (manager, env)
    obtain ⟨later, goes_on, called⟩ :=
      ih (life.call env shows) others (command.perform (manager, env)).2.2
    refine ⟨command.episode (manager, env) marks :: later, ?_, ?_⟩
    · rwa [List.append_assoc, List.singleton_append] at goes_on
    · rw [List.map_cons, called]
      rfl

theorem lead_concat (commands : List (Command κ ω)) (command : Command κ ω)
    (state : Manager κ ω × Env ω) :
    lead (commands ++ [command]) state = (command.perform (lead commands state)).2 :=
  List.foldl_append

/-- A life goes on with one more call of a manager that was led so far. -/
theorem Life.call_lead {episodes : List (Episode κ ω)} {command : Command κ ω}
    {marks : List (Mark κ)} {state : Manager κ ω × Env ω} {commands : List (Command κ ω)}
    (life : Life episodes (lead commands state).1)
    (shows : command.Shows (lead commands state) marks) :
    Life (episodes ++ [command.episode (lead commands state) marks])
      (lead (commands ++ [command]) state).1 := by
  rw [lead_concat]
  exact life.call _ shows

end Leading

/-! ## A life to try things on -/

open Builtin in
/-- Calls that lead a manager through its life, some of them more than once. -/
def stumbling : List (Command PayloadKind Unit) :=
  [.run RunPlan.runToEnd ⟨4, 0, mixedWords⟩ threeOnTwo,
    .load ⟨[⟨"Needy", none, []⟩, ⟨"Patient", none, []⟩]⟩ .patientAndNeedy .empty,
    .finalize, .init, .init, .run RunPlan.runToEnd ⟨4, 0, mixedWords⟩ threeOnTwo,
    .run RunPlan.runToEnd ⟨4, 0, mixedWords⟩ threeOnTwo, .finalize]

/-- The manager is finalized in the end, and its phases were in order. -/
theorem ordered_stumbling :
    (lead stumbling (.empty, ⟨(), .empty⟩)).1.state = .finalized ∧
      ∃ episodes, episodes.map Episode.command = stumbling ∧
        Ordered episodes (lead stumbling (.empty, ⟨(), .empty⟩)).1 := by
  have fair : ∀ command ∈ stumbling, command.IsFair := by
    have few : threeOnTwo.events + threeOnTwo.workers 4 < 18446744073709551616 := by decide
    simp [stumbling, Command.IsFair, fair_runToEnd, few]
  obtain ⟨episodes, life, called⟩ := Life.born.exists_lead stumbling fair ⟨(), .empty⟩
  exact ⟨by decide +kernel, episodes, called, life.ordered⟩

end Manager

end DetectorSim
