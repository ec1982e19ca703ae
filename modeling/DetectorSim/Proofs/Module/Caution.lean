import DetectorSim.Proofs.Module.Lifecycle
import DetectorSim.Proofs.Module.Raising
import DetectorSim.Proofs.Pool.Arrival

/-!
# Instances that must not run on several threads

A run uses a pool only if it is asked for, if there are several workers, and if every
instance may run on several threads; and then it uses all the workers.  Otherwise it is a run
on one thread, or it is declined.  A run that is declined has done nothing, so the manager can
be run with other settings.

A run is declined before the first event.  An error that comes later is one of a call of an
instance, and such errors are wrapped, so the two can be told apart.
-/

set_option autoImplicit false

namespace DetectorSim

namespace Manager

variable {κ ω : Type} [Payload κ]

theorem Spreads.not_declines {host : Host} {settings : Settings} {manager : Manager κ ω}
    (spreads : Spreads host settings manager) : ¬ Declines host settings manager :=
  fun declines => declines.2.2.1 (unsafeNames_eq_nil_iff.mpr spreads.2.2)

variable [DecidableEq κ]

/-! ## What a run does with its events -/

/-- A run gets under way with a number of workers and a plan for the instances of the manager,
ends as a procedure does with the events of this plan, and reports what this has counted. -/
def Conducts (scheduler : Scheduler κ ω) (host : Host) (settings : Settings)
    (before : Manager κ ω × Env ω) (workers : Nat)
    (proc : RunPlan κ ω → Proc (List Tally × Env ω) Unit) : Prop :=
  ∃ plan left,
    outset host settings before
        = (.ok (workers, plan), ({ before.1 with state := .ran }, left)) ∧
      plan.instances = before.1.instances ∧ plan.messenger = before.1.messenger ∧
      (runWith scheduler host settings before).1
        = (proc plan (plan.noTallies, left)).1.map fun _ =>
            RunReport.ofTallies settings.events workers plan.instances
              (proc plan (plan.noTallies, left)).2.1

section Runs

variable {scheduler : Scheduler κ ω} {host : Host} {settings : Settings}
  {before : Manager κ ω × Env ω} {plan : RunPlan κ ω} {events workers : Nat} {env : Env ω}
  {roster : List (Nat × Act κ)}

/-- A run does with its events what the number of its workers calls for. -/
theorem conducts_of_outset {left : Env ω}
    (started : outset host settings before
      = (.ok (workers, plan), ({ before.1 with state := .ran }, left)))
    {proc : RunPlan κ ω → Proc (List Tally × Env ω) Unit}
    (loop : ∀ plan : RunPlan κ ω,
      (if 1 < workers then plan.runPooled (scheduler plan settings.events) workers
        else plan.runSerial settings.events) = proc plan) :
    Conducts scheduler host settings before workers proc := by
  obtain ⟨instances_eq, messenger_eq⟩ := plan_of_outset started
  refine ⟨plan, left, started, instances_eq, messenger_eq, ?_⟩
  rw [fst_runWith_of_outset started, processEvents]
  simp only [loop plan]
  generalize proc plan (plan.noTallies, left) = result
  obtain ⟨outcome, tallies, env⟩ := result
  cases outcome <;> rfl

/-- A report has the number of workers with which the run got under way. -/
theorem Conducts.workers_eq {proc : RunPlan κ ω → Proc (List Tally × Env ω) Unit}
    {report : RunReport} {after : Manager κ ω × Env ω}
    (conducts : Conducts scheduler host settings before workers proc)
    (ran : runWith scheduler host settings before = (.ok report, after)) :
    report.workers = workers := by
  obtain ⟨plan, left, -, -, -, ended⟩ := conducts
  rw [ran] at ended
  obtain ⟨⟨⟩, -, rfl⟩ := Outcome.map_eq_ok_iff.mp ended.symm
  rfl

/-- On one thread everything is done by the same worker. -/
theorem Shows.worker_eq_zero (shows : Shows scheduler plan events workers env roster)
    (alone : ¬ 1 < workers) {worker : Nat} {act : Act κ} (signed : (worker, act) ∈ roster) :
    worker = 0 := by
  cases shows with
  | serial =>
    obtain ⟨_, -, same⟩ := List.mem_map.mp signed
    exact (congrArg Prod.fst same).symm
  | pooled several => exact absurd several alone

/-- The error that the processing of events ends with names who has failed. -/
theorem Shows.isWrapped (shows : Shows scheduler plan events workers env roster)
    {manager : Manager κ ω} {after : Manager κ ω × Env ω} {err : Error}
    (failed : processEvents scheduler plan events workers (manager, env) = (.error err, after)) :
    err.IsWrapped := by
  rcases shows.cases_of_error failed with ⟨visit, made, ended⟩ | ⟨inst, -, env, ended⟩
  · obtain ⟨inst, state, -, visit_eq⟩ := (shows.hosts visit made).makes
    rw [visit_eq] at ended
    obtain ⟨cause, -, rfl⟩ := Instance.answers_of_runEvent ended
    exact trivial
  · have wrapped {phase : Phase} (answers : inst.Answers plan.messenger phase err) :
        err.IsWrapped := by
      obtain ⟨cause, -, rfl⟩ := answers
      exact trivial
    rcases ended with opening | closing
    · have answers : inst.Answers plan.messenger .threadInit err :=
        Instance.answers_of_call rfl opening
      exact wrapped answers
    · have answers : inst.Answers plan.messenger .threadFinalize err :=
        Instance.answers_of_call rfl closing
      exact wrapped answers

end Runs

/-! ## Runs that are cautious -/

/-- A scheduler is genuine if it lets workers only make steps that they can make. -/
def Scheduler.Genuine (scheduler : Scheduler κ ω) : Prop :=
  ∀ (plan : RunPlan κ ω) (events workers : Nat) (tallies : List Tally) (env : Env ω),
    plan.Reaches events (plan.startPool workers tallies env)
      (scheduler plan events (plan.startPool workers tallies env))

/-- Letting the first worker go on that can is genuine. -/
theorem genuine_runToEnd : Scheduler.Genuine (RunPlan.runToEnd : Scheduler κ ω) :=
  fun _ _ _ _ _ => RunPlan.reaches_drive (.refl _) _

/-- A run that is under way shows something under a genuine scheduler. -/
theorem Scheduler.Genuine.exists_shows {scheduler : Scheduler κ ω} (genuine : scheduler.Genuine)
    (plan : RunPlan κ ω) (events workers : Nat) (env : Env ω) :
    ∃ roster, Shows scheduler plan events workers env roster := by
  by_cases several : 1 < workers
  · obtain ⟨roster, signed⟩ :=
      RunPlan.exists_roster_of_reaches (genuine plan events workers plan.noTallies env)
    exact ⟨roster, .pooled several signed⟩
  · exact ⟨_, .serial several⟩

/-- What a run takes care of for instances that must not run on several threads. -/
structure Cautious (scheduler : Scheduler κ ω) (host : Host) (settings : Settings)
    (before : Manager κ ω × Env ω) : Prop where
  /-- Where all instances may run on several threads, a pool of exactly the number of workers
  that was asked for processes the events. -/
  spread : Spreads host settings before.1 →
    Conducts scheduler host settings before (settings.workers host.processors) fun plan =>
      plan.runPooled (scheduler plan settings.events) (settings.workers host.processors)
  /-- In all other runs that are not declined the events are processed on one thread. -/
  alone : ¬ Spreads host settings before.1 → ¬ Declines host settings before.1 →
    Conducts scheduler host settings before 1 fun plan => plan.runSerial settings.events
  /-- The report tells which of the two it was. -/
  reported : ∀ report after, runWith scheduler host settings before = (.ok report, after) →
    Spreads host settings before.1 ∧ report.workers = settings.workers host.processors ∨
      ¬ Spreads host settings before.1 ∧ report.workers = 1
  /-- The calls of an instance that must not run on several threads are all made by the same
  worker, which makes one after the other. -/
  apart : ∀ workers plan begun left,
    outset host settings before = (.ok (workers, plan), (begun, left)) →
      (∃ roster, Shows scheduler plan settings.events workers left roster) ∧
        ∀ roster, Shows scheduler plan settings.events workers left roster →
          ∀ inst index, before.1.instances[index]? = some inst →
            inst.module.safety = .notThreadSafe → ∀ one other visit later,
              (one, .offered visit) ∈ roster → (other, .offered later) ∈ roster →
                visit.index = index → later.index = index → one = other
  /-- A run fails because of such instances exactly if several workers are asked for and the
  settings are strict. -/
  declined_iff : (∃ names, (runWith scheduler host settings before).1
      = .error (.threadUnsafe names)) ↔ Declines host settings before.1
  /-- The error names these instances in the order in which they run, and nothing has changed,
  not even the log. -/
  declined : Declines host settings before.1 → runWith scheduler host settings before
    = (.error (.threadUnsafe ((before.1.instances.filter fun inst =>
        inst.module.safety = .notThreadSafe).map Instance.name)), before)
  /-- No hook was called. -/
  silent : Declines host settings before.1 →
    ∀ marks, (Command.run scheduler host settings).Shows before marks → marks = []
  /-- After that, a run with settings that are not declined gets under way. -/
  again : Declines host settings before.1 → ∀ host' settings',
    ¬ Declines host' settings' before.1 → ∃ workers plan begun,
      outset host' settings' (runWith scheduler host settings before).2
        = (.ok (workers, plan), begun)

section Caution

variable {scheduler : Scheduler κ ω} {host : Host} {settings : Settings}
  {before : Manager κ ω × Env ω}

theorem conducts_pooled (due : before.1.state = .initialized)
    (spreads : Spreads host settings before.1) :
    Conducts scheduler host settings before (settings.workers host.processors) fun plan =>
      plan.runPooled (scheduler plan settings.events) (settings.workers host.processors) := by
  obtain ⟨workers, plan, left, started, ⟨-, rfl⟩ | ⟨otherwise, -⟩⟩ :=
    exists_outset due spreads.not_declines
  · exact conducts_of_outset started fun plan => if_pos spreads.2.1
  · exact absurd spreads otherwise

theorem conducts_serial (due : before.1.state = .initialized)
    (single : ¬ Spreads host settings before.1) (accepts : ¬ Declines host settings before.1) :
    Conducts scheduler host settings before 1 fun plan => plan.runSerial settings.events := by
  obtain ⟨workers, plan, left, started, ⟨spreads, -⟩ | ⟨-, rfl⟩⟩ := exists_outset due accepts
  · exact absurd spreads single
  · exact conducts_of_outset started fun plan => if_neg (Nat.lt_irrefl 1)

/-- A run that gets under way does not end because of instances that must not run on several
threads. -/
theorem declines_of_threadUnsafe (genuine : scheduler.Genuine)
    (due : before.1.state = .initialized) {names : List String}
    (failed : (runWith scheduler host settings before).1 = .error (.threadUnsafe names)) :
    Declines host settings before.1 := by
  by_contra accepts
  obtain ⟨workers, plan, left, started, -⟩ := exists_outset due accepts
  obtain ⟨roster, shows⟩ := genuine.exists_shows plan settings.events workers left
  have ended := Outcome.map_eq_error_iff.mp ((fst_runWith_of_outset started).symm.trans failed)
  exact shows.isWrapped (Proc.eq_of_fst_eq ended)

/-- In a run that gets under way nobody shares an instance that must not run on several
threads. -/
theorem Shows.worker_eq {workers : Nat} {plan : RunPlan κ ω} {begun : Manager κ ω} {left : Env ω}
    {roster : List (Nat × Act κ)}
    (started : outset host settings before = (.ok (workers, plan), (begun, left)))
    (shows : Shows scheduler plan settings.events workers left roster) {inst : Instance κ ω}
    (listed : inst ∈ before.1.instances) (careful : inst.module.safety = .notThreadSafe)
    {one other : Nat} {act later : Act κ} (first : (one, act) ∈ roster)
    (second : (other, later) ∈ roster) : one = other := by
  rcases spreads_of_outset started with ⟨spreads, -⟩ | ⟨-, rfl⟩
  · exact absurd careful (spreads.2.2 inst listed)
  · have single : ¬ 1 < 1 := Nat.lt_irrefl 1
    rw [shows.worker_eq_zero single first, shows.worker_eq_zero single second]

/-- **Caution.**  However a manager that is initialized is run, on whatever machine and with
whatever settings, instances that must not run on several threads are taken care of. -/
theorem cautious_of_initialized (genuine : scheduler.Genuine) (host : Host)
    (settings : Settings) (due : before.1.state = .initialized) :
    Cautious scheduler host settings before := by
  have declined (declines : Declines host settings before.1) :
      runWith scheduler host settings before
        = (.error (.threadUnsafe before.1.unsafeNames), before) :=
    runWith_of_error (outset_of_declines due declines)
  refine ⟨conducts_pooled due, conducts_serial due, ?_, ?_, ⟨?_, ?_⟩, declined, ?_, ?_⟩
  · intro report after ran
    by_cases spreads : Spreads host settings before.1
    · exact .inl ⟨spreads, (conducts_pooled due spreads).workers_eq ran⟩
    · refine .inr ⟨spreads, (conducts_serial due spreads fun declines => ?_).workers_eq ran⟩
      cases ran.symm.trans (declined declines)
  · intro workers plan begun left started
    refine ⟨genuine.exists_shows plan settings.events workers left, ?_⟩
    intro roster shows inst index found careful one other visit later first second _ _
    exact shows.worker_eq started (List.mem_of_getElem? found) careful first second
  · rintro ⟨names, failed⟩
    exact declines_of_threadUnsafe genuine due failed
  · exact fun declines => ⟨_, congrArg Prod.fst (declined declines)⟩
  · intro declines marks shows
    exact (shows.effect.of_declines due declines).2.1
  · intro declines host' settings' accepts
    rw [declined declines]
    obtain ⟨workers, plan, left, started, -⟩ := exists_outset due accepts
    exact ⟨workers, plan, _, started⟩

end Caution

end Manager

/-! ## Someone who works alone -/

open Builtin Config

/-- A module type that does nothing, and that only on one thread. -/
def Descriptor.hermit : Descriptor PayloadKind Unit :=
  ⟨"Hermit", .unique fun _ _ _ => .done .idle⟩

/-- The registry that has this type and a patient one. -/
def Registry.hermitAndPatient : Registry PayloadKind Unit :=
  ⟨⟨[("Hermit", .hermit), ("Patient", .patient)]⟩, .empty⟩

namespace Manager

/-- A manager that has such an instance, loaded and initialized. -/
def secluded : Manager PayloadKind Unit × Env Unit :=
  ((do
    load ⟨[⟨"Patient", none, []⟩, ⟨"Hermit", none, []⟩]⟩ .hermitAndPatient .empty
    init : Proc (Manager PayloadKind Unit × Env Unit) Unit) (empty, ⟨(), .empty⟩)).2

/-- Two workers for three events, or nothing. -/
def strictlyOnTwo : Settings :=
  { threeOnTwo with strict := true }

/-- The run that insists on two workers is declined, and the next one is on one thread. -/
theorem cautious_secluded :
    secluded.1.state = .initialized ∧
      (run ⟨4, 0, mixedWords⟩ strictlyOnTwo secluded).1 = .error (.threadUnsafe ["Hermit"]) ∧
      (run ⟨4, 0, mixedWords⟩ threeOnTwo (run ⟨4, 0, mixedWords⟩ strictlyOnTwo secluded).2).1
        = .ok ⟨3, 1, [⟨"Patient", ⟨3, 0⟩⟩, ⟨"Hermit", ⟨3, 0⟩⟩]⟩ ∧
      Cautious RunPlan.runToEnd ⟨4, 0, mixedWords⟩ strictlyOnTwo secluded := by
  have due : secluded.1.state = .initialized := by decide +kernel
  exact ⟨due, by decide +kernel, by decide +kernel,
    cautious_of_initialized genuine_runToEnd ⟨4, 0, mixedWords⟩ strictlyOnTwo due⟩

end Manager

end DetectorSim
