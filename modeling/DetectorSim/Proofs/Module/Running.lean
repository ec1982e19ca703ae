import DetectorSim.Module.Manager
import DetectorSim.Proofs.Pool.Census
import DetectorSim.Proofs.Procedure

/-!
# Runs of a manager

A manager that was initialized decides on the number of workers, makes a plan and
lets all events be processed, on one thread or on a pool.  When this has succeeded,
the run was thorough: every event went through all instances exactly once, and the
report has counted right.
-/

set_option autoImplicit false

namespace DetectorSim

variable {κ ω : Type} [Payload κ] [DecidableEq κ]

/-! ## Calls of instances -/

/-- All required inputs are there and the code of an instance ends well. -/
def Instance.Runs (inst : Instance κ ω) (messenger : Messenger κ ω)
    (state : EventState κ ω) : Prop :=
  messenger.missingRequired inst.receiver.id state.data.store = [] ∧
    (inst.call "R" .run (EventCode.exec messenger inst.receiver inst.module.run) state).1
      = .ok ()

/-- An instance counts as run exactly if its code was called and has ended well. -/
theorem Instance.runEvent_eq_ok_true_iff (inst : Instance κ ω) (messenger : Messenger κ ω)
    (state : EventState κ ω) :
    (inst.runEvent messenger state).1 = .ok true ↔ inst.Runs messenger state := by
  unfold runEvent Runs
  cases missing : messenger.missingRequired inst.receiver.id state.data.store with
  | nil =>
    simp only [Proc.bind_apply, Proc.andThen, Proc.pure_apply, true_and]
    generalize inst.call "R" .run _ state = result
    obtain ⟨outcome, after⟩ := result
    cases outcome <;> simp
  | cons kind rest =>
    constructor
    · intro ran
      cases ran
    · rintro ⟨none_missing, -⟩
      cases none_missing

/-! ## Thorough runs -/

namespace RunPlan

/-- What a run that has succeeded has done, and what its report says: every event was
taken by one worker, which offered it to all instances in the order of the list, no
other event was offered to an instance, and the report names the instances in this
order and says for each how often its code was called and ended well, and in how many
of the remaining events it was skipped. -/
structure Thorough (plan : RunPlan κ ω) (events : Nat) (roster : List (Nat × Act κ))
    (report : RunReport) : Prop where
  taken_eq : takenEvents (actsOf roster) = List.range' 1 events
  claimed : ∀ {event}, 1 ≤ event → event ≤ events → ∃! worker, (worker, .took event) ∈ roster
  processed : ∀ {worker visit}, (worker, .offered visit) ∈ roster →
    1 ≤ visit.event ∧ visit.event ≤ events ∧ (worker, .took visit.event) ∈ roster
  stops_eq : ∀ {event}, 1 ≤ event → event ≤ events →
    stops event (actsOf roster) = List.range plan.instances.length
  ran_iff : ∀ visit ∈ visits (actsOf roster), ∃ inst state,
    plan.instances[visit.index]? = some inst ∧
      visit = inst.visitBy plan.messenger visit.event visit.index state ∧
      (visit.outcome = .ok true ↔ inst.Runs plan.messenger state)
  events_eq : report.events = events
  names_eq : report.modules.map InstanceReport.module = plan.instances.map Instance.name
  counted : ∀ {index entry}, report.modules[index]? = some entry →
    entry.tally.runs = turnout true index (visits (actsOf roster)) ∧
      entry.tally.skipped = turnout false index (visits (actsOf roster)) ∧
      entry.tally.runs + entry.tally.skipped = events

variable {plan : RunPlan κ ω} {events : Nat} {roster : List (Nat × Act κ)}

theorem Complete.processed (complete : plan.Complete events roster) {worker : Nat}
    {visit : Visit κ} (offered : (worker, .offered visit) ∈ roster) :
    1 ≤ visit.event ∧ visit.event ≤ events ∧ (worker, .took visit.event) ∈ roster := by
  have claimed := complete.tended offered
  have taken := mem_takenEvents.mpr (mem_actsOf.mpr ⟨worker, claimed⟩)
  rw [complete.taken_eq, List.mem_range'_1] at taken
  exact ⟨taken.1, by omega, claimed⟩

/-- In a complete roster every instance has as many visits as there are events. -/
theorem Complete.length_visitsAt (complete : plan.Complete events roster) {index : Nat}
    (inside : index < plan.instances.length) :
    (visitsAt index (visits (actsOf roster))).length = events := by
  have within : ∀ visit ∈ visits (actsOf roster), 1 ≤ visit.event ∧ visit.event ≤ events := by
    intro visit made
    obtain ⟨worker, offered⟩ := mem_actsOf.mp (mem_visits.mp made)
    obtain ⟨least, most, -⟩ := complete.processed offered
    exact ⟨least, most⟩
  have perm := event_visitsAt_perm complete.stops_eq within inside
  have size := perm.length_eq
  rwa [List.length_map, List.length_range'] at size

omit [DecidableEq κ] in
/-- What the report says of each instance, if it has counted some visits. -/
theorem getElem?_modules (plan : RunPlan κ ω) (events workers index : Nat)
    (made : List (Visit κ)) :
    (RunReport.ofTallies events workers plan.instances
        (countVisits plan.noTallies made)).modules[index]?
      = plan.instances[index]?.map fun inst =>
          ⟨inst.name, ⟨turnout true index made, turnout false index made⟩⟩ := by
  rw [RunReport.ofTallies, List.getElem?_zipWith, getElem?_countVisits, noTallies,
    List.getElem?_map]
  cases plan.instances[index]? with
  | none => rfl
  | some inst => simp [Tally.zero]

/-- A complete roster and its counts make a thorough run. -/
theorem Complete.thorough (complete : plan.Complete events roster) (workers : Nat) :
    plan.Thorough events roster (.ofTallies events workers plan.instances
      (countVisits plan.noTallies (visits (actsOf roster)))) := by
  refine ⟨complete.taken_eq, ?_, complete.processed, complete.stops_eq, ?_, rfl, ?_, ?_⟩
  · intro event least most
    apply claimant_unique
    · rw [complete.taken_eq]
      exact List.nodup_range'
    · rw [complete.taken_eq, List.mem_range'_1]
      omega
  · intro visit made
    obtain ⟨inst, state, found, same⟩ := complete.makes visit made
    refine ⟨inst, state, found, same, ?_⟩
    rw [same]
    exact inst.runEvent_eq_ok_true_iff plan.messenger state
  · apply List.ext_getElem?
    intro index
    rw [List.getElem?_map, getElem?_modules, List.getElem?_map, Option.map_map]
    rfl
  · intro index entry found
    rw [getElem?_modules] at found
    obtain ⟨inst, there, rfl⟩ := Option.map_eq_some_iff.mp found
    refine ⟨rfl, rfl, ?_⟩
    rw [turnout_add complete.fine]
    exact complete.length_visitsAt (List.getElem?_eq_some_iff.mp there).1

end RunPlan

/-! ## Schedulers -/

namespace Manager

/-- A scheduler is fair if it lets every pool that starts come to its end, by steps
that the workers can make. -/
structure Scheduler.Fair (scheduler : Scheduler κ ω) : Prop where
  reaches : ∀ (plan : RunPlan κ ω) (events workers : Nat) (tallies : List Tally) (env : Env ω),
    events + workers < 2 ^ 64 →
      plan.Reaches events (plan.startPool workers tallies env)
        (scheduler plan events (plan.startPool workers tallies env))
  ends : ∀ (plan : RunPlan κ ω) (events workers : Nat) (tallies : List Tally) (env : Env ω),
    events + workers < 2 ^ 64 →
      (scheduler plan events (plan.startPool workers tallies env)).hasEnded = true

/-- Letting the first worker go on that can is fair. -/
theorem fair_runToEnd : Scheduler.Fair (RunPlan.runToEnd : Scheduler κ ω) where
  reaches _ _ _ _ _ _ := RunPlan.reaches_drive (.refl _) _
  ends _ _ _ _ _ fits := RunPlan.hasEnded_runToEnd fits

open Classical in
/-- Every run of a pool that comes to its end is one that some fair scheduler
chooses. -/
theorem exists_fair_of_reaches {plan : RunPlan κ ω} {events : Nat} {first pool : Pool κ ω}
    (reached : plan.Reaches events first pool) (ended : pool.hasEnded = true) :
    ∃ scheduler : Scheduler κ ω, scheduler.Fair ∧ scheduler plan events first = pool := by
  refine ⟨fun plan' events' first' =>
    if plan' = plan ∧ events' = events ∧ first' = first then pool
    else plan'.runToEnd events' first', ⟨?_, ?_⟩, if_pos ⟨rfl, rfl, rfl⟩⟩
  · intro plan' events' workers tallies env fits
    split
    · next same =>
      obtain ⟨rfl, rfl, rfl⟩ := same
      exact reached
    · exact fair_runToEnd.reaches plan' events' workers tallies env fits
  · intro plan' events' workers tallies env fits
    split
    · exact ended
    · exact fair_runToEnd.ends plan' events' workers tallies env fits

/-! ## Runs -/

/-- What comes before the first event: the number of workers and the plan. -/
def outset (host : Host) (settings : Settings) :
    Proc (Manager κ ω × Env ω) (Nat × RunPlan κ ω) := do
  expect .initialized "run"
  let workers ← planWorkers host settings
  let seed := settings.seed.getD host.entropy
  let noun := if workers = 1 then "worker" else "workers"
  Proc.log .info
    s!"Running {settings.events} events with {workers} {noun} (random seed {seed})"
  enter .ran
  let (manager, _) ← Proc.get
  return (workers, ⟨manager.instances, manager.messenger, host.source, UInt64.ofNat seed⟩)

/-- A run processes the events of its plan and reports what was counted. -/
theorem runWith_eq (scheduler : Scheduler κ ω) (host : Host) (settings : Settings) :
    runWith scheduler host settings = do
      let (workers, plan) ← outset host settings
      let tallies ← processEvents scheduler plan settings.events workers
      Proc.log .info s!"Finished {settings.events} events"
      return RunReport.ofTallies settings.events workers plan.instances tallies := by
  unfold runWith outset
  simp only [bind_assoc, pure_bind]

omit [DecidableEq κ] in
/-- A step of its life goes on exactly if the manager is in the state for it. -/
theorem expect_eq_ok_iff {state : ManagerState} {verb : String}
    {before after : Manager κ ω × Env ω} :
    expect state verb before = (.ok (), after) ↔ before.1.state = state ∧ after = before := by
  obtain ⟨manager, env⟩ := before
  unfold expect
  by_cases same : manager.state = state
  · simp [same, eq_comm]
  · simp [same]

omit [DecidableEq κ] in
/-- Deciding on the number of workers leaves the manager as it is. -/
theorem fst_planWorkers (host : Host) (settings : Settings) (manager : Manager κ ω)
    (env : Env ω) : (planWorkers host settings (manager, env)).2.1 = manager := by
  unfold planWorkers
  simp only [Proc.bind_apply, Proc.andThen, Proc.get]
  cases settings.concurrency with
  | singleThreaded => rfl
  | pooled =>
    by_cases few : settings.workers host.processors < 2
    · simp only [few, if_true]
      rfl
    · simp only [few, if_false]
      cases manager.unsafeNames with
      | nil => rfl
      | cons name rest => cases settings.strict <;> rfl

omit [DecidableEq κ] in
/-- The plan of a run is for the instances of the manager in their order, and for its
messenger. -/
theorem plan_of_outset {host : Host} {settings : Settings} {manager begun : Manager κ ω}
    {env left : Env ω} {workers : Nat} {plan : RunPlan κ ω}
    (started : outset host settings (manager, env) = (.ok (workers, plan), (begun, left))) :
    plan.instances = manager.instances ∧ plan.messenger = manager.messenger := by
  obtain ⟨⟨⟩, mid, passed, started⟩ := Proc.andThen_eq_ok.mp started
  obtain ⟨-, rfl⟩ := expect_eq_ok_iff.mp passed
  obtain ⟨decided, ⟨manager', env'⟩, planned, started⟩ := Proc.andThen_eq_ok.mp started
  have same := fst_planWorkers host settings manager env
  rw [planned] at same
  cases started
  exact ⟨congrArg instances same, congrArg messenger same⟩

/-- Once it is under way, a run ends as the processing of its events does. -/
theorem fst_runWith_of_outset {scheduler : Scheduler κ ω} {host : Host} {settings : Settings}
    {before begun : Manager κ ω × Env ω} {workers : Nat} {plan : RunPlan κ ω}
    (started : outset host settings before = (.ok (workers, plan), begun)) :
    (runWith scheduler host settings before).1
      = (processEvents scheduler plan settings.events workers begun).1.map
          (RunReport.ofTallies settings.events workers plan.instances) := by
  rw [runWith_eq, Proc.bind_apply, Proc.andThen, started]
  simp only [Proc.bind_apply, Proc.andThen]
  generalize processEvents scheduler plan settings.events workers begun = result
  obtain ⟨outcome, after⟩ := result
  cases outcome <;> rfl

/-- The report of a run is made from the tallies of its events. -/
theorem exists_tallies_of_run {scheduler : Scheduler κ ω} {host : Host} {settings : Settings}
    {before begun : Manager κ ω × Env ω} {workers : Nat} {plan : RunPlan κ ω} {report : RunReport}
    {after : Manager κ ω × Env ω}
    (started : outset host settings before = (.ok (workers, plan), begun))
    (ran : runWith scheduler host settings before = (.ok report, after)) :
    ∃ tallies, (processEvents scheduler plan settings.events workers begun).1 = .ok tallies ∧
      report = RunReport.ofTallies settings.events workers plan.instances tallies := by
  have ends : (runWith scheduler host settings before).1 = _ := fst_runWith_of_outset started
  rw [ran] at ends
  obtain ⟨tallies, processed, same⟩ := Outcome.map_eq_ok_iff.mp ends.symm
  exact ⟨tallies, processed, same.symm⟩

/-- The rosters of a run that starts from an environment. -/
inductive Shows (scheduler : Scheduler κ ω) (plan : RunPlan κ ω) (events workers : Nat)
    (env : Env ω) : List (Nat × Act κ) → Prop where
  | serial (alone : ¬ 1 < workers) : Shows scheduler plan events workers env
      (plan.serialRoster events (plan.noTallies, env))
  | pooled {roster : List (Nat × Act κ)} (several : 1 < workers)
      (signed : plan.Roster events (plan.startPool workers plan.noTallies env) roster
        (scheduler plan events (plan.startPool workers plan.noTallies env))) :
      Shows scheduler plan events workers env roster

section Runs

variable {scheduler : Scheduler κ ω} {plan : RunPlan κ ω} {events workers : Nat}
  {manager after : Manager κ ω} {env left : Env ω} {tallies : List Tally}

theorem exists_shows (fair : scheduler.Fair)
    (fits : 1 < workers → events + workers < 2 ^ 64) :
    ∃ roster, Shows scheduler plan events workers env roster := by
  by_cases several : 1 < workers
  · obtain ⟨roster, signed⟩ := RunPlan.exists_roster_of_reaches
      (fair.reaches plan events workers plan.noTallies env (fits several))
    exact ⟨roster, .pooled several signed⟩
  · exact ⟨_, .serial several⟩

theorem of_processEvents (processed : processEvents scheduler plan events workers
      (manager, env) = (.ok tallies, (after, left))) {proc : Proc (List Tally × Env ω) Unit}
    (same : (if 1 < workers then plan.runPooled (scheduler plan events) workers
      else plan.runSerial events) = proc) :
    (proc (plan.noTallies, env)).1 = .ok () ∧ (proc (plan.noTallies, env)).2.1 = tallies := by
  unfold processEvents at processed
  simp only [same] at processed
  generalize proc (plan.noTallies, env) = result at processed ⊢
  obtain ⟨outcome, counted, env'⟩ := result
  cases outcome with
  | ok value =>
    cases processed
    exact ⟨rfl, rfl⟩
  | error err => cases processed
  | panic text => cases processed

/-- If all events were processed well, what is shown of it is complete, and all
visits were counted. -/
theorem Shows.complete {roster : List (Nat × Act κ)}
    (shows : Shows scheduler plan events workers env roster) (fair : scheduler.Fair)
    (fits : 1 < workers → events + workers < 2 ^ 64)
    (processed : processEvents scheduler plan events workers (manager, env)
      = (.ok tallies, (after, left))) :
    plan.Complete events roster ∧
      tallies = countVisits plan.noTallies (visits (actsOf roster)) := by
  cases shows with
  | serial alone =>
    obtain ⟨succeeded, rfl⟩ := of_processEvents processed (if_neg alone)
    exact ⟨RunPlan.complete_serialRoster succeeded, RunPlan.tallies_runSerial succeeded⟩
  | pooled several signed =>
    obtain ⟨succeeded, rfl⟩ := of_processEvents processed (if_pos several)
    have ended := fair.ends plan events workers plan.noTallies env (fits several)
    exact ⟨signed.complete (Nat.zero_lt_of_lt several) (fits several) ended succeeded,
      signed.history.counted.1⟩

end Runs

/-- **Every event once.**  When the run of a manager has succeeded, on one thread or
on a pool whatever the scheduler decides, then what was to be seen of it is a thorough
run of the instances of the manager. -/
theorem thorough_of_run {scheduler : Scheduler κ ω} {host : Host} {settings : Settings}
    {manager : Manager κ ω} {env : Env ω} {report : RunReport} {after : Manager κ ω × Env ω}
    (fair : scheduler.Fair)
    (fits : 1 < report.workers → settings.events + report.workers < 2 ^ 64)
    (ran : runWith scheduler host settings (manager, env) = (.ok report, after)) :
    ∃ plan begun left,
      outset host settings (manager, env) = (.ok (report.workers, plan), (begun, left)) ∧
        plan.instances = manager.instances ∧
        (∃ roster, Shows scheduler plan settings.events report.workers left roster) ∧
        ∀ roster, Shows scheduler plan settings.events report.workers left roster →
          plan.Thorough settings.events roster report := by
  rw [runWith_eq] at ran
  obtain ⟨⟨workers, plan⟩, ⟨begun, left⟩, started, ran⟩ := Proc.andThen_eq_ok.mp ran
  obtain ⟨tallies, ⟨done, behind⟩, processed, ran⟩ := Proc.andThen_eq_ok.mp ran
  obtain ⟨⟨⟩, noted, -, ran⟩ := Proc.andThen_eq_ok.mp ran
  cases ran
  refine ⟨plan, begun, left, started, (plan_of_outset started).1, exists_shows fair fits, ?_⟩
  intro roster shows
  obtain ⟨complete, rfl⟩ := shows.complete fair fits processed
  exact complete.thorough workers

end Manager

/-! ## A run to try things on -/

open Builtin Config

/-- A module type that does nothing, event after event. -/
def Descriptor.patient : Descriptor PayloadKind Unit :=
  ⟨"Patient", .unique fun _ _ _ => .done { Module.idle with safety := .sequential }⟩

/-- A module type that does nothing either, but wants hits for it. -/
def Descriptor.needy : Descriptor PayloadKind Unit :=
  ⟨"Needy", .unique fun _ _ _ => do
    let _ ← Construction.bindSingle PayloadKind.hits .requiredInput
    return { Module.idle with safety := .threadSafe }⟩

/-- The registry that has these types. -/
def Registry.patientAndNeedy : Registry PayloadKind Unit :=
  ⟨⟨[("Patient", .patient), ("Needy", .needy)]⟩, .empty⟩

namespace Manager

/-- A manager that was loaded and initialized. -/
def prepared : Manager PayloadKind Unit × Env Unit :=
  ((do
    load ⟨[⟨"Needy", none, []⟩, ⟨"Patient", none, []⟩]⟩ .patientAndNeedy .empty
    init : Proc (Manager PayloadKind Unit × Env Unit) Unit) (empty, ⟨(), .empty⟩)).2

/-- Two workers for three events. -/
def threeOnTwo : Settings :=
  { Settings.standard with events := 3, concurrency := .pooled, poolSize := some 2 }

/-- The patient one runs three times, and the needy one is skipped three times. -/
theorem thorough_run_prepared :
    (run ⟨4, 0, mixedWords⟩ threeOnTwo (prepared.1, prepared.2)).1
        = .ok ⟨3, 2, [⟨"Needy", ⟨0, 3⟩⟩, ⟨"Patient", ⟨3, 0⟩⟩]⟩ ∧
      ∃ (plan : RunPlan PayloadKind Unit) (roster : List (Nat × Act PayloadKind)),
        plan.instances = prepared.1.instances ∧
          plan.Thorough 3 roster ⟨3, 2, [⟨"Needy", ⟨0, 3⟩⟩, ⟨"Patient", ⟨3, 0⟩⟩]⟩ := by
  have succeeded : (run ⟨4, 0, mixedWords⟩ threeOnTwo (prepared.1, prepared.2)).1
      = .ok ⟨3, 2, [⟨"Needy", ⟨0, 3⟩⟩, ⟨"Patient", ⟨3, 0⟩⟩]⟩ := by decide +kernel
  have ran := Proc.eq_of_fst_eq succeeded
  rw [run] at ran
  obtain ⟨plan, begun, left, -, instances_eq, ⟨roster, shows⟩, thorough⟩ :=
    thorough_of_run fair_runToEnd (fun _ => by decide) ran
  exact ⟨succeeded, plan, roster, instances_eq, thorough roster shows⟩

end Manager

end DetectorSim
