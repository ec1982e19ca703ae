import DetectorSim.Proofs.Log
import DetectorSim.Proofs.Module.Gating
import DetectorSim.Proofs.Module.Lifecycle
import DetectorSim.Proofs.Module.Thrift

/-!
# Calls in sections of their own

Code of a module does nothing to the log but write to it, from the thread and in the section
that it was called in, and the same goes for the listeners that it sends messages to.  So
what is written during a call of an instance, or during its construction, is in the section
of the call, and when the call is over every thread is in the section that it was in before,
whether the code has ended well, with an error or in a panic.  An instance that is skipped
enters no section.  Hence no call of a manager, and no run of its events on whatever threads,
leaves a section behind.
-/

set_option autoImplicit false

namespace DetectorSim

/-! ## Code that writes to the log -/

namespace Proc

variable {σ α β : Type} [HasJournal σ]

/-- A procedure writes to the log and does nothing else to it. -/
def Writes (proc : Proc σ α) : Prop :=
  ∀ state, (HasJournal.journal state).Continues (HasJournal.journal (proc state).2)

namespace Writes

theorem done (a : α) : Writes (done a : Proc σ α) :=
  fun _ => .refl _

theorem ofOutcome (outcome : Outcome α) : Writes (ofOutcome outcome : Proc σ α) :=
  fun _ => .refl _

theorem modify {f : σ → σ}
    (writes : ∀ state, (HasJournal.journal state).Continues (HasJournal.journal (f state))) :
    Writes (modify f) :=
  writes

theorem andThen {first : Proc σ α} {next : α → Proc σ β} (writes : Writes first)
    (later : ∀ a, Writes (next a)) : Writes (andThen first next) := by
  intro state
  have here := writes state
  unfold Proc.andThen
  generalize first state = result at here ⊢
  obtain ⟨outcome, after⟩ := result
  cases outcome with
  | ok a => exact here.trans (later a after)
  | error err => exact here
  | panic text => exact here

theorem mapError {proc : Proc σ α} (writes : Writes proc) (f : Error → Error) :
    Writes (mapError f proc) :=
  writes

theorem attempt {proc : Proc σ α} (writes : Writes proc) : Writes (attempt proc) :=
  writes

theorem each_of_mem {f : β → Proc σ Unit} {items : List β} (writes : ∀ b ∈ items, Writes (f b)) :
    Writes (each f items) := by
  induction items with
  | nil => exact done ()
  | cons b rest ih =>
    obtain ⟨first, others⟩ := List.forall_mem_cons.mp writes
    exact first.andThen fun _ => ih others

theorem caught {proc : Proc σ Unit} (writes : Writes proc) : Writes (EventOp.caught proc) := by
  intro state
  have here := writes state
  unfold EventOp.caught
  generalize proc state = result at here ⊢
  obtain ⟨outcome, after⟩ := result
  cases outcome <;> exact here

/-- A routine writes to the log if all operations do that it may ask for. -/
theorem routine {Op : Type} {Reply : Op → Type} {perform : (op : Op) → Proc σ (Reply op)}
    (writes : ∀ op, Writes (perform op)) (routine : Routine Op Reply α) :
    Writes (routine.run perform) := by
  induction routine with
  | done value => exact done value
  | fail err => exact fun _ => .refl _
  | panic text => exact fun _ => .refl _
  | ask op next ih =>
    rw [Routine.run_ask]
    exact (writes op).andThen ih

variable [LawfulJournal σ]

theorem log (level : Level) (text : String) : Writes (log level text : Proc σ Unit) := by
  unfold Proc.log onJournal
  refine .modify fun state => ?_
  rw [LawfulJournal.journal_withJournal]
  exact .write _ level text

/-- What a procedure writes inside a section is written in that section. -/
theorem encloses_within {proc : Proc σ α} (writes : Writes proc) (name : String) (state : σ) :
    (HasJournal.journal state).Encloses name (HasJournal.journal (within name proc state).2) := by
  unfold within
  simp only [LawfulJournal.journal_withJournal]
  have inside := writes
    (HasJournal.withJournal ((HasJournal.journal state).enter name).2 state)
  rw [LawfulJournal.journal_withJournal] at inside
  exact inside.encloses

end Writes

/-- Whatever is done to the sections inside of a section, leaving it takes the thread back to
where it was, as long as it is the same thread. -/
theorem currentOf_within [LawfulJournal σ] {proc : Proc σ α}
    (stays : proc.Keeps fun state => (HasJournal.journal state).thread) (name : String)
    (state : σ) :
    (HasJournal.journal (within name proc state).2).sections.currentOf
        (HasJournal.journal state).thread
      = (HasJournal.journal state).sections.currentOf (HasJournal.journal state).thread := by
  unfold within
  simp only [LawfulJournal.journal_withJournal]
  -- The guard has the section itself, so it does not matter what became of the sections.
  apply Journal.currentOf_leave_enter
  have same := stays (HasJournal.withJournal ((HasJournal.journal state).enter name).2 state)
  simp only [LawfulJournal.journal_withJournal] at same
  exact same

/-- However a procedure ends, it is on the thread that it started on, and every thread is in
the section that it was in. -/
abbrev Restores (proc : Proc σ α) : Prop :=
  proc.Keeps fun state => (HasJournal.journal state).whereabouts

theorem Writes.restores {proc : Proc σ α} (writes : Writes proc) : Restores proc := fun state =>
  (writes state).whereabouts_eq

theorem Restores.onThread [LawfulJournal σ] {proc : Proc σ α} (restores : Restores proc)
    (thread : ThreadId) : Restores (onThread thread proc) := by
  intro state
  have same := restores
    (HasJournal.withJournal { HasJournal.journal state with thread } state)
  simp only [LawfulJournal.journal_withJournal] at same
  simp only [Proc.onThread, LawfulJournal.journal_withJournal]
  have sections_eq := congrArg Prod.snd same
  exact Prod.ext rfl sections_eq

end Proc

section Code

variable {κ ω α : Type} [Payload κ]

theorem HookOp.writes_perform (op : HookOp ω) : op.perform.Writes := by
  cases op with
  | log level text => exact .log level text
  | update f => exact fun _ => .refl _
  | thread => exact fun _ => .refl _

theorem Hook.writes_exec (hook : Hook ω α) : hook.exec.Writes :=
  .routine HookOp.writes_perform hook

namespace Messenger

theorem writes_callListener (delegate : Delegate κ ω) (message : AnyMessage κ) :
    (callListener delegate message).Writes := by
  unfold callListener
  cases delegate.kind with
  | listener callback => exact (Hook.writes_exec _).mapError _
  | single => exact .done ()
  | multi => exact .done ()

theorem writes_serve (message : AnyMessage κ) (delegate : Delegate κ ω) :
    (serve message delegate).Writes := by
  rintro ⟨store, env⟩
  have called := writes_callListener delegate message env
  simp only [serve]
  generalize callListener delegate message env = result at called ⊢
  obtain ⟨outcome, left⟩ := result
  cases outcome with
  | ok value => cases store.deliver delegate message <;> exact called
  | error err => exact called
  | panic text => exact called

variable [DecidableEq κ]

theorem writes_dispatch (messenger : Messenger κ ω) (source : Receiver)
    (message : AnyMessage κ) : (messenger.dispatch source message).Writes := by
  unfold dispatch
  split
  · refine Proc.Writes.andThen (.each_of_mem fun delegate _ => writes_serve message delegate) ?_
    exact fun _ => Proc.Writes.andThen (fun _ => .refl _) fun _ => .log _ _
  · exact .log _ _

theorem writes_bindLogged (receiver : Receiver) (kind : κ) (flags : MessageFlags)
    (delegateKind : DelegateKind κ ω) :
    (bindLogged receiver kind flags delegateKind :
      Proc (Messenger κ ω × Env ω) (SlotRef × DelegateHandle κ)).Writes :=
  (Proc.Writes.log _ _).andThen fun _ _ => .refl _

theorem writes_removeAllLogged (owner : InstanceId) :
    (removeAllLogged owner : Proc (Messenger κ ω × Env ω) Nat).Writes :=
  Proc.Writes.andThen (fun _ => .refl _) fun _ => (Proc.Writes.log _ _).andThen fun _ => .done _

end Messenger

variable [DecidableEq κ]

theorem EventOp.writes_perform (messenger : Messenger κ ω) (receiver : Receiver)
    (op : EventOp κ ω) : (op.perform messenger receiver).Writes := by
  cases op with
  | hook op => exact fun state => op.writes_perform state.env
  | hasReceiver message => exact (Proc.Writes.log _ _).andThen fun _ => .done _
  | dispatch message =>
    have sent : (EventState.onStore (messenger.dispatch receiver message)).Writes :=
      fun state => messenger.writes_dispatch receiver message (state.data.store, state.env)
    exact sent.caught
  | _ => exact fun _ => .refl _

theorem EventCode.writes_exec (messenger : Messenger κ ω) (receiver : Receiver)
    (code : EventCode κ ω α) : (code.exec messenger receiver).Writes :=
  .routine (EventOp.writes_perform messenger receiver) code

theorem FactoryOp.writes_perform (receiver : Receiver) (op : FactoryOp κ ω) :
    (op.perform receiver).Writes := by
  cases op with
  | hook op => exact fun state => op.writes_perform state.2
  | bindSingle kind flags =>
    exact (Messenger.writes_bindLogged receiver kind flags _).andThen fun _ => .done _
  | bindMulti kind flags =>
    exact (Messenger.writes_bindLogged receiver kind flags _).andThen fun _ => .done _
  | listen kind flags callback =>
    exact (Messenger.writes_bindLogged receiver kind flags _).andThen fun _ => .done _

theorem Construction.writes_exec (receiver : Receiver) (code : Construction κ ω α) :
    (code.exec receiver).Writes :=
  .routine (FactoryOp.writes_perform receiver) code

end Code

/-! ## Calls of instances -/

section Calls

variable {κ ω : Type} [Payload κ]

namespace Instance

/-- The calls of an instance are in sections of their own, which they leave as they found
everything, however they end. -/
structure Secludes [DecidableEq κ] (inst : Instance κ ω) : Prop where
  init : ∀ env : Env ω, env.journal.Encloses ("I:" ++ inst.name) (inst.init env).2.journal
  threadInit : ∀ env : Env ω,
    env.journal.Encloses ("I:" ++ inst.name) (inst.threadInit env).2.journal
  /-- An event in which no required input is missing. -/
  run : ∀ (messenger : Messenger κ ω) (state : EventState κ ω),
    messenger.missingRequired inst.receiver.id state.data.store = [] →
      state.env.journal.Encloses ("R:" ++ inst.name) (inst.runEvent messenger state).2.env.journal
  /-- An event that is skipped is noted in the section that the thread is in. -/
  skip : ∀ (messenger : Messenger κ ω) (state : EventState κ ω),
    messenger.missingRequired inst.receiver.id state.data.store ≠ [] →
      (inst.runEvent messenger state).1 = .ok false ∧
        state.env.journal.Continues (inst.runEvent messenger state).2.env.journal
  threadFinalize : ∀ env : Env ω,
    env.journal.Encloses ("F:" ++ inst.name) (inst.threadFinalize env).2.journal
  finalize : ∀ env : Env ω,
    env.journal.Encloses ("F:" ++ inst.name) (inst.finalize env).2.journal

theorem encloses_call {σ α : Type} [HasJournal σ] [LawfulJournal σ] {proc : Proc σ α}
    (inst : Instance κ ω) (writes : proc.Writes) (letter : String) (phase : Phase) (state : σ) :
    (HasJournal.journal state).Encloses (letter ++ ":" ++ inst.name)
      (HasJournal.journal (inst.call letter phase proc state).2) :=
  (writes.mapError _).encloses_within _ state

variable [DecidableEq κ]

theorem encloses_called (inst : Instance κ ω) (messenger : Messenger κ ω)
    (state : EventState κ ω) :
    state.env.journal.Encloses ("R:" ++ inst.name) (inst.called messenger state).2.env.journal := by
  have encloses := encloses_call
    inst (EventCode.writes_exec messenger inst.receiver inst.module.run) "R" .run state
  unfold called
  rw [Proc.bind_apply, Proc.andThen]
  generalize inst.call "R" .run _ state = result at encloses ⊢
  obtain ⟨outcome, after⟩ := result
  cases outcome <;> exact encloses

theorem secludes (inst : Instance κ ω) : inst.Secludes where
  init := encloses_call inst (Hook.writes_exec _) "I" .init
  threadInit := encloses_call inst (Hook.writes_exec _) "I" .threadInit
  run messenger state none_missing := by
    rw [runEvent_of_missing_eq_nil none_missing]
    exact inst.encloses_called messenger state
  skip messenger state missing := by
    obtain ⟨text, skipped⟩ := exists_of_missing_ne_nil missing
    rw [skipped]
    exact ⟨rfl, .write _ _ text⟩
  threadFinalize := encloses_call inst (Hook.writes_exec _) "F" .threadFinalize
  finalize := encloses_call inst (Hook.writes_exec _) "F" .finalize

end Instance

namespace Manager

variable [DecidableEq κ]

omit [DecidableEq κ] in
theorem writes_onMessenger {α : Type} {proc : Proc (Messenger κ ω × Env ω) α}
    (writes : proc.Writes) : (onMessenger proc).Writes := fun state =>
  writes (state.1.messenger, state.2)

theorem writes_install (site : Site) (made : Outcome (Module κ ω)) :
    (install site made).Writes := by
  cases made with
  | ok module => exact (Proc.Writes.log _ _).andThen fun _ _ => .refl _
  | error err =>
    exact (writes_onMessenger (Messenger.writes_removeAllLogged _)).andThen fun _ _ => .refl _
  | panic text => exact .ofOutcome _

/-- A construction is in a section of its own, however the factory ends. -/
theorem encloses_construct (descriptor : Descriptor κ ω) (s : Config.Section)
    (geometry : Geometry) (target : Target) (state : Manager κ ω × Env ω) :
    state.2.journal.Encloses ("C:" ++ target.identifier.display)
      (construct descriptor s geometry target state).2.2.journal := by
  have made (site : Site) : (do
      let made ← Proc.attempt
        (onMessenger ((factoryCode descriptor s geometry site).exec site.receiver))
      install site made : Proc (Manager κ ω × Env ω) Unit).Writes :=
    (writes_onMessenger (Construction.writes_exec _ _)).attempt.andThen fun made =>
      writes_install site made
  exact (made (state.1.nextSite target)).encloses_within _
    ({ state.1 with nextId := state.1.nextId + 1 }, state.2)

/-! ## Loading -/

theorem writes_claimPlace (identifier : Identifier) :
    (claimPlace identifier : Proc (Manager κ ω × Env ω) Bool).Writes := by
  unfold claimPlace
  refine Proc.Writes.andThen (fun _ => .refl _) fun (manager, _) => ?_
  dsimp only
  cases manager.claim identifier with
  | free => exact .done _
  | replaces held =>
    refine Proc.Writes.andThen (fun _ => .refl _) fun _ => ?_
    refine (writes_onMessenger (Messenger.writes_removeAllLogged _)).andThen fun removed => ?_
    refine (Proc.Writes.log _ _).andThen fun _ => ?_
    refine Proc.Writes.andThen (.modify fun state => ?_) fun _ => .done _
    exact Hook.writes_exec held.module.release state.2
  | dropped held => exact (Proc.Writes.log _ _).andThen fun _ => .done _
  | ambiguous => exact .ofOutcome _

theorem restores_loadTarget (descriptor : Descriptor κ ω) (s : Config.Section)
    (geometry : Geometry) (target : Target) :
    (loadTarget descriptor s geometry target).Restores := by
  refine (writes_claimPlace _).restores.andThen fun admitted => ?_
  cases admitted with
  | false => exact .done ()
  | true => exact fun state => (encloses_construct _ _ _ _ state).whereabouts_eq

theorem restores_loadSection (registry : Registry κ ω) (geometry : Geometry)
    (s : Config.Section) : (loadSection registry geometry s).Restores := by
  refine (Proc.Keeps.ofOutcome _).andThen fun descriptor =>
    (Proc.Writes.log _ _).restores.andThen fun _ => ?_
  exact (Proc.Keeps.ofOutcome _).andThen fun targets =>
    .each (restores_loadTarget descriptor s geometry) targets

omit [DecidableEq κ] in
theorem restores_expect (state : ManagerState) (verb : String) :
    (expect state verb : Proc (Manager κ ω × Env ω) Unit).Restores := by
  rintro ⟨manager, env⟩
  simp only [expect]
  split <;> rfl

theorem restores_load (reader : Config.Reader) (registry : Registry κ ω) (geometry : Geometry) :
    (load reader registry geometry).Restores := by
  refine (restores_expect _ _).andThen fun _ =>
    (Proc.Keeps.each (restores_loadSection registry geometry) _).andThen fun _ => ?_
  exact Proc.Keeps.get.andThen fun _ => (Proc.Writes.log _ _).restores.andThen fun _ _ => rfl

/-! ## Initializing and finalizing -/

omit [DecidableEq κ] in
theorem restores_callAll (announcement : String) {call : Instance κ ω → Proc (Env ω) Unit}
    (restores : ∀ inst, (call inst).Restores) : (callAll announcement call).Restores := by
  unfold callAll
  refine Proc.Keeps.get.andThen fun (manager, _) => ?_
  refine Proc.Keeps.each (fun inst => ?_) manager.instances
  exact (Proc.Writes.log _ _).restores.andThen fun _ state => restores inst state.2

theorem restores_init : (init : Proc (Manager κ ω × Env ω) Unit).Restores := by
  refine (restores_expect _ _).andThen fun _ =>
    (restores_callAll _ fun inst env => ?_).andThen fun _ _ => rfl
  exact (inst.secludes.init env).whereabouts_eq

theorem restores_finalize : (finalize : Proc (Manager κ ω × Env ω) Unit).Restores := by
  refine (restores_expect _ _).andThen fun _ =>
    (restores_callAll _ fun inst env => ?_).andThen fun _ _ => rfl
  exact (inst.secludes.finalize env).whereabouts_eq

end Manager

/-! ## Runs -/

theorem Instance.restores_runEvent [DecidableEq κ] (inst : Instance κ ω)
    (messenger : Messenger κ ω) : (inst.runEvent messenger).Restores := by
  intro state
  by_cases missing : messenger.missingRequired inst.receiver.id state.data.store = []
  · exact (inst.secludes.run messenger state missing).whereabouts_eq
  · exact (inst.secludes.skip messenger state missing).2.whereabouts_eq

theorem Instance.restores_offer [DecidableEq κ] (inst : Instance κ ω)
    (messenger : Messenger κ ω) (index : Nat) : (inst.offer messenger index).Restores := by
  rintro ⟨tallies, state⟩
  have same := inst.restores_runEvent messenger state
  simp only [offer]
  generalize inst.runEvent messenger state = result at same ⊢
  obtain ⟨outcome, after⟩ := result
  cases outcome <;> exact same

/-- What a procedure restores on a thread it restores for the pool. -/
theorem Pool.whereabouts_perform {α : Type} {proc : Proc (Env ω) α} (restores : proc.Restores)
    (pool : Pool κ ω) (thread : ThreadId) :
    (pool.perform thread proc).2.env.journal.whereabouts = pool.env.journal.whereabouts :=
  restores.onThread thread pool.env

theorem Pool.whereabouts_note (pool : Pool κ ω) (thread : ThreadId) (level : Level)
    (text : String) :
    (pool.note thread level text).env.journal.whereabouts = pool.env.journal.whereabouts :=
  pool.whereabouts_perform (Proc.Writes.log level text).restores thread

namespace RunPlan

variable {plan : RunPlan κ ω} {events : Nat} {pool : Pool κ ω} {worker : Worker κ}

section Serial

variable [DecidableEq κ]

theorem restores_visit (plan : RunPlan κ ω) (index : Nat) (instances : List (Instance κ ω)) :
    (plan.visit index instances).Restores := by
  induction instances generalizing index with
  | nil => exact fun _ => rfl
  | cons inst rest ih =>
    rw [visit_cons]
    exact (inst.restores_offer plan.messenger index).andThen fun _ => ih (index + 1)

theorem restores_processEvent (plan : RunPlan κ ω) (event : Nat) :
    (plan.processEvent event).Restores := fun state =>
  plan.restores_visit 0 plan.instances (plan.opened event state)

theorem restores_processFrom (plan : RunPlan κ ω) (event count : Nat) :
    (plan.processFrom event count).Restores := by
  induction count generalizing event with
  | zero => exact fun _ => rfl
  | succ count ih =>
    rw [processFrom_succ]
    exact (plan.restores_processEvent event).andThen fun _ => ih (event + 1)

end Serial

/-! ### Steps of a pool -/

theorem whereabouts_start (plan : RunPlan κ ω) (pool : Pool κ ω) (worker : Worker κ)
    (index : Nat) :
    (plan.start pool worker index).1.env.journal.whereabouts = pool.env.journal.whereabouts := by
  unfold start
  cases plan.instances[index]? with
  | none => rfl
  | some inst =>
    have restores : inst.threadInit.Restores := fun env =>
      (inst.encloses_call (Hook.writes_exec _) "I" .threadInit env).whereabouts_eq
    have same := pool.whereabouts_perform restores worker.thread
    dsimp only
    generalize pool.perform worker.thread inst.threadInit = result at same ⊢
    obtain ⟨outcome, after⟩ := result
    cases outcome <;> exact same

theorem whereabouts_finish (plan : RunPlan κ ω) (pool : Pool κ ω) (worker : Worker κ)
    (result : Except Error Unit) (index : Nat) :
    (plan.finish pool worker result index).1.env.journal.whereabouts
      = pool.env.journal.whereabouts := by
  unfold finish
  cases plan.instances[index]? with
  | none => cases result <;> rfl
  | some inst =>
    have restores : inst.threadFinalize.Restores := fun env =>
      (inst.encloses_call (Hook.writes_exec _) "F" .threadFinalize env).whereabouts_eq
    have same := pool.whereabouts_perform restores worker.thread
    dsimp only
    generalize pool.perform worker.thread inst.threadFinalize = ended at same ⊢
    obtain ⟨outcome, after⟩ := ended
    cases outcome with
    | error err => cases result <;> exact same
    | _ => exact same

theorem whereabouts_keepFailure (pool : Pool κ ω) (thread : ThreadId) (err : Error) :
    (pool.keepFailure thread err).env.journal.whereabouts = pool.env.journal.whereabouts := by
  unfold Pool.keepFailure
  cases pool.failure with
  | none => exact pool.whereabouts_note thread .error _
  | some kept => rfl

variable [DecidableEq κ]

theorem whereabouts_visitAt (plan : RunPlan κ ω) (pool : Pool κ ω) (worker : Worker κ)
    (event : Nat) (data : EventData κ) (index : Nat) (inst : Instance κ ω) :
    (plan.visitAt pool worker event data index inst).1.env.journal.whereabouts
      = pool.env.journal.whereabouts :=
  (inst.restores_offer plan.messenger index).onThread worker.thread (pool.tallies, ⟨data, pool.env⟩)

/-- No step of a worker leaves a section behind. -/
theorem Advance.whereabouts_eq {choice : Choice} {old new : Stage κ} {middle : Pool κ ω}
    (advance : plan.Advance events pool choice worker old middle new) :
    middle.env.journal.whereabouts = pool.env.journal.whereabouts := by
  cases advance with
  | started => exact plan.whereabouts_start pool worker _
  | claimed =>
    unfold claim
    dsimp only
    split
    · rfl
    · exact Pool.whereabouts_note _ _ _ _
  | visited => exact plan.whereabouts_visitAt pool worker _ _ _ _
  | @left _ _ _ outcome => cases outcome <;> rfl
  | @unwound _ what => cases what <;> rfl
  | closed => exact pool.whereabouts_note _ _ _
  | finished => exact plan.whereabouts_finish pool worker _ _
  | failed => exact whereabouts_keepFailure pool _ _
  | released =>
    unfold release
    split <;> rfl
  | _ => rfl

theorem Reaches.whereabouts_eq {first : Pool κ ω} (reached : plan.Reaches events first pool) :
    pool.env.journal.whereabouts = first.env.journal.whereabouts := by
  induction reached with
  | refl => rfl
  | tail choice before step ih =>
    obtain ⟨worker, middle, after, -, advanced, rfl⟩ := exists_of_step? step
    exact (advance_of_advance? advanced).whereabouts_eq.trans ih

end RunPlan

/-! ### The life of a manager -/

namespace Manager

variable [DecidableEq κ]

omit [DecidableEq κ] in
theorem restores_outset (host : Host) (settings : Settings) :
    (outset host settings : Proc (Manager κ ω × Env ω) (Nat × RunPlan κ ω)).Restores := by
  have planned : (planWorkers host settings : Proc (Manager κ ω × Env ω) Nat).Restores := by
    rintro ⟨manager, env⟩
    unfold planWorkers
    simp only [Proc.bind_apply, Proc.andThen, Proc.get]
    cases settings.concurrency with
    | singleThreaded => rfl
    | pooled =>
      by_cases few : settings.workers host.processors < 2
      · simp only [few, if_true]
        rfl
      · simp only [few, if_false]
        cases manager.unsafeNames with
        | nil => rfl
        | cons name rest => cases settings.strict <;> rfl
  refine (restores_expect _ _).andThen fun _ => planned.andThen fun workers => ?_
  exact (Proc.Writes.log _ _).restores.andThen fun _ => .andThen (fun _ => rfl) fun _ _ => rfl

theorem restores_processEvents {scheduler : Scheduler κ ω} (fair : scheduler.Fair)
    {events workers : Nat} (fits : 1 < workers → events + workers < 2 ^ 64)
    (plan : RunPlan κ ω) : (processEvents scheduler plan events workers).Restores := by
  rintro ⟨manager, env⟩
  unfold processEvents
  by_cases several : 1 < workers
  · simp only [if_pos several]
    exact (fair.reaches plan events workers _ env (fits several)).whereabouts_eq
  · simp only [if_neg several]
    exact plan.restores_processFrom 1 events (plan.noTallies, env)

theorem restores_runWith {scheduler : Scheduler κ ω} {host : Host} {settings : Settings}
    (fair : scheduler.Fair)
    (fits : settings.events + settings.workers host.processors < 2 ^ 64) :
    (runWith scheduler host settings).Restores := by
  rw [runWith_eq]
  refine (restores_outset host settings).andThen_of_ok fun {_ start after} started => ?_
  obtain ⟨workers, plan⟩ := start
  -- Only a pool needs the events to fit.
  have few : 1 < workers → settings.events + workers < 2 ^ 64 := by
    intro several
    rcases workers_of_outset started with rfl | ⟨-, rfl⟩
    · exact absurd several (Nat.lt_irrefl 1)
    · exact fits
  have processed := restores_processEvents fair few plan
  exact processed.andThen (fun _ => (Proc.Writes.log _ _).restores.andThen fun _ => .done _) after

/-- No call of a manager leaves a section behind. -/
theorem restores_perform {command : Command κ ω} (fair : command.IsFair) :
    command.perform.Restores := by
  cases command with
  | load reader registry geometry => exact restores_load reader registry geometry
  | init => exact restores_init
  | finalize => exact restores_finalize
  | run scheduler host settings =>
    exact (restores_runWith fair.1 fair.2).andThen fun _ => .done ()

theorem whereabouts_lead {commands : List (Command κ ω)}
    (fair : ∀ command ∈ commands, command.IsFair) (state : Manager κ ω × Env ω) :
    (lead commands state).2.journal.whereabouts = state.2.journal.whereabouts := by
  induction commands generalizing state with
  | nil => rfl
  | cons command rest ih =>
    obtain ⟨first, others⟩ := List.forall_mem_cons.mp fair
    exact (ih others _).trans (restores_perform first state)

/-- **Nested sections.**  While a thread gives its guards up from the innermost one outwards,
it is at every moment in the section of the innermost guard that it holds, or in the one that
it started in.  A call of an instance and a construction are in sections of their own, and
leave every thread in the section that it was in, however they end; a skipped event does too,
without a section of its own.  Code that enters sections itself does not get a thread out of
the section that it was called from, even if it leaves some of them open. -/
theorem nested_and_secluded :
    (∀ (sections : Sections) {thread : ThreadId} {moves : List Holdings.Move},
      Holdings.WellNested thread moves → ∀ earlier, earlier <+: moves →
        let holdings := (Holdings.start sections).follow earlier
        holdings.sections.currentOf thread
          = Holdings.innermost (sections.currentOf thread) (holdings.held thread)) ∧
    (∀ inst : Instance κ ω, inst.Secludes) ∧
    (∀ (descriptor : Descriptor κ ω) (s : Config.Section) (geometry : Geometry)
      (target : Target) (state : Manager κ ω × Env ω),
      state.2.journal.Encloses ("C:" ++ target.identifier.display)
        (construct descriptor s geometry target state).2.2.journal) ∧
    ∀ {α : Type} {proc : Proc (Env ω) α}, (proc.Keeps fun env => env.journal.thread) →
      ∀ (name : String) (env : Env ω),
        (Proc.within name proc env).2.journal.sections.currentOf env.journal.thread
          = env.journal.sections.currentOf env.journal.thread := by
  refine ⟨fun sections thread moves wellNested earlier part => ?_, Instance.secludes,
    encloses_construct, Proc.currentOf_within⟩
  exact Holdings.currentOf_follow sections fun place among => wellNested place (part.subset among)

end Manager

end Calls

/-! ## Calls that go wrong -/

open Builtin

/-- Two threads in sections at the same time, one of them in two. -/
def Holdings.overlapping : List Holdings.Move :=
  [.enter 1 "R:Display:left", .enter 0 "I:Display:left", .enter 1 "inside", .leave 0 0,
    .leave 1 0]

/-- A module that fails to start and panics in its runs. -/
def Module.clumsy : Module PayloadKind Unit :=
  { (idle : Module PayloadKind Unit) with
    init := do
      Hook.log .info "setting off"
      .fail (.runtime "slipped")
    run := do
      EventCode.log .info "going on"
      .panic "fell" }

/-- The display that is clumsy. -/
def Instance.clumsy : Instance PayloadKind Unit :=
  { leftDisplay with module := .clumsy }

/-- Its construction fails once something is bound. -/
def Descriptor.clumsy : Descriptor PayloadKind Unit where
  name := "Display"
  factory := .unique fun _ _ _ => do
    let _ ← Construction.bindSingle .hits .requiredInput
    .fail (.runtime "dropped")

/-- Enter a section and forget about it. -/
def Proc.forgetful : Proc (Env Unit) Unit :=
  modify fun env => { env with journal := (env.journal.enter "inside").2 }

/-- A log whose thread is in a section already. -/
def Journal.busy : Journal :=
  (Journal.empty.enter "main").2

/-- Whatever goes wrong, the thread ends up in the section that it was in. -/
theorem nested_and_secluded_clumsy :
    let env : Env Unit := ⟨(), .busy⟩
    let event : EventState PayloadKind Unit := ⟨Messenger.demandedState.data, env⟩
    let begun := Instance.clumsy.init env
    let ran := Instance.clumsy.runEvent .empty event
    let passed := Instance.clumsy.runEvent Messenger.demanding event
    let made := Manager.construct .clumsy ⟨"Display", none, []⟩ .empty (.unique "Display")
      (.empty, env)
    ((Holdings.start .none).follow Holdings.overlapping).sections.currentOf 1
        = "R:Display:left" ∧
      (begun.1 = .error (.inModule "Display:left" .init (.runtime "slipped")) ∧
        begun.2.journal.sections.currentOf 0 = "main") ∧
      (ran.1 = .panic "fell" ∧ ran.2.env.journal.sections.currentOf 0 = "main") ∧
      (passed.1 = .ok false ∧ passed.2.env.journal.sections = env.journal.sections) ∧
      (made.1 = .error (.inModule "Display" .construction (.runtime "dropped")) ∧
        made.2.2.journal.sections.currentOf 0 = "main") ∧
      (Proc.within "R:Display:left" .forgetful env).2.journal.sections.currentOf 0 = "main" := by
  intro env event begun ran passed made
  obtain ⟨nested, secluded, constructed, forgotten⟩ :=
    Manager.nested_and_secluded (κ := PayloadKind) (ω := Unit)
  have wellNested : Holdings.WellNested 1 Holdings.overlapping := by
    simp [Holdings.WellNested, Holdings.overlapping]
  have inside := secluded .clumsy
  refine ⟨nested .none wellNested _ List.prefix_rfl, ⟨by decide +kernel, ?_⟩,
    ⟨by decide +kernel, ?_⟩, ?_, ⟨by decide +kernel, ?_⟩, ?_⟩
  · exact (inside.init env).restored 0
  · exact (inside.run .empty event rfl).restored 0
  · obtain ⟨skipped, goes_on⟩ := inside.skip Messenger.demanding event (by decide +kernel)
    exact ⟨skipped, goes_on.sections_eq⟩
  · exact (constructed .clumsy _ _ _ (.empty, env)).restored 0
  · exact forgotten (fun _ => rfl) _ env

end DetectorSim
