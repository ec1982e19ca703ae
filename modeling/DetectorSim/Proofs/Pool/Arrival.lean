import DetectorSim.Proofs.Module.Running

/-!
# What an event is like when it comes to an instance

An event starts with an empty store and goes from one instance to the next as long as
each of them ends well.  That is so on one thread and on a pool alike, whatever else
goes on in the meantime, and also in a run that fails in the end.  So what is shown of
an event on its way by induction over the instances holds in every visit of every run.
-/

set_option autoImplicit false

namespace DetectorSim

variable {κ ω : Type} [Payload κ] [DecidableEq κ]

/-! ## Calls that fail -/

omit [DecidableEq κ] in
/-- A call that ends with an error is a visit or a hook of a thread. -/
theorem error_mem_calls_iff {acts : List (Act κ)} {err : Error} :
    .error err ∈ calls acts ↔ (∃ visit ∈ visits acts, visit.outcome = .error err) ∨
      ∃ phase index, .hooked phase index (.error err) ∈ acts := by
  rw [calls, List.mem_filterMap]
  constructor
  · rintro ⟨act, done, called⟩
    cases act with
    | hooked phase index outcome =>
      obtain rfl := Option.some.inj called
      exact .inr ⟨phase, index, done⟩
    | offered visit =>
      exact .inl ⟨visit, mem_visits.mpr done,
        Outcome.map_eq_error_iff.mp (Option.some.inj called)⟩
    | _ => cases called
  · rintro (⟨visit, made, ended⟩ | ⟨phase, index, done⟩)
    · refine ⟨.offered visit, mem_visits.mp made, congrArg some ?_⟩
      rw [ended]
      rfl
    · exact ⟨_, done, rfl⟩

/-! ## Arriving at an instance -/

namespace RunPlan

/-- What an event may be like when it comes to the instance with an index: all instances
before it have ended well, in whatever environment each of them was. -/
inductive Arrives (plan : RunPlan κ ω) (event : Nat) : Nat → EventData κ → Prop where
  | start : Arrives plan event 0 (plan.startEvent event)
  | next {index : Nat} {inst : Instance κ ω} {state : EventState κ ω} {ran : Bool}
      (before : Arrives plan event index state.data)
      (found : plan.instances[index]? = some inst)
      (ended : (inst.runEvent plan.messenger state).1 = .ok ran) :
      Arrives plan event (index + 1) (inst.runEvent plan.messenger state).2.data

/-- A visit of an event that came there from the start. -/
structure Hosts (plan : RunPlan κ ω) (visit : Visit κ) : Prop where
  arrives : plan.Arrives visit.event visit.index visit.before
  makes : plan.Makes visit

variable {plan : RunPlan κ ω} {events event index : Nat} {data : EventData κ}
  {visit : Visit κ}

/-- An event goes on after a visit that was fine. -/
theorem Hosts.goes_on (hosts : plan.Hosts visit) (fine : visit.isFine) :
    plan.Arrives visit.event (visit.index + 1) visit.after := by
  obtain ⟨inst, state, found, visit_eq⟩ := hosts.makes
  have arrives := hosts.arrives
  unfold Visit.isFine at fine
  rw [visit_eq] at arrives fine ⊢
  cases ended : (inst.runEvent plan.messenger state).1 with
  | ok ran => exact .next arrives found ended
  | error err =>
    rw [Instance.visitBy, ended] at fine
    cases fine
  | panic text =>
    rw [Instance.visitBy, ended] at fine
    cases fine

end RunPlan

/-! ## On a pool -/

/-- What a worker carries came there from the start.  It goes on from an instance only if
that has ended well. -/
def Stage.IsBound (plan : RunPlan κ ω) : Stage κ → Prop
  | .arriving event data index => plan.Arrives event index data
  | .running event data index => plan.Arrives event index data
  | .leaving event data index outcome => outcome = .ok () → plan.Arrives event (index + 1) data
  | _ => True

namespace RunPlan

variable {plan : RunPlan κ ω} {events workers : Nat}

theorem isBound_of_flight? {stage : Stage κ} (still : stage.flight? = none) :
    stage.IsBound plan := by
  cases stage with
  | arriving => cases still
  | running => cases still
  | leaving => cases still
  | _ => trivial

section Steps

variable {pool next : Pool κ ω} {old new : Stage κ} {act : Option (Act κ)}

/-- The visit of a step is of what the worker carried. -/
theorem Course.hosts (course : Course plan events pool next.next next.gates old new act)
    (bound : old.IsBound plan) {visit : Visit κ} (visited : act.bind Act.visit? = some visit)
    (makes : plan.Makes visit) : plan.Hosts visit := by
  cases course with
  | aside _ _ _ _ _ _ apart =>
    rw [(Act.unseen_of_isApart apart).2.1] at visited
    cases visited
  | ran event_eq index_eq before_eq =>
    obtain rfl := Option.some.inj visited
    subst event_eq index_eq before_eq
    exact ⟨bound, makes⟩
  | _ => cases visited

/-- A step leaves what the worker carries on its way. -/
theorem Course.isBound (course : Course plan events pool next.next next.gates old new act)
    (bound : old.IsBound plan) (makes : ∀ visit ∈ act.bind Act.visit?, plan.Makes visit) :
    new.IsBound plan := by
  cases course with
  | aside _ _ still => exact isBound_of_flight? still
  | took => exact .start
  | entered => exact bound
  | @ran event index data visit event_eq index_eq before_eq =>
    subst event_eq index_eq before_eq
    intro fine
    have hosts : plan.Hosts visit := ⟨bound, makes visit rfl⟩
    exact hosts.goes_on fine
  | passed => exact bound rfl
  | dropped _ still => exact isBound_of_flight? still
  | _ => trivial

end Steps

variable {tallies : List Tally} {env : Env ω} {acts : List (Act κ)} {pool : Pool κ ω}

/-- In every run of a pool each event that is offered to an instance came there from the
start, and so did each one that is still on its way. -/
theorem History.hosts
    (history : plan.History events (plan.startPool workers tallies env) acts pool) :
    (∀ i stage, pool.stage? i = some stage → stage.IsBound plan) ∧
      ∀ visit ∈ visits acts, plan.Hosts visit := by
  induction history with
  | start =>
    refine ⟨?_, nofun⟩
    intro i stage was
    rw [stage?_startPool was]
    trivial
  | @step acts pool next worker choice before found step ih =>
    obtain ⟨bound, hosted⟩ := ih
    obtain ⟨new, moved, course⟩ := course_of_step? plan events pool worker found step
    have was := bound _ _ moved.was
    have makes : ∀ visit ∈ (plan.act? events pool worker).bind Act.visit?, plan.Makes visit := by
      intro visit visited
      apply (before.step choice found step).counted.2 visit
      rw [visits_of_visit visited]
      exact List.mem_append_right _ List.mem_cons_self
    constructor
    · intro i stage now
      rcases moved.cases_stage now with ⟨-, rfl⟩ | ⟨-, stayed⟩
      · exact course.isBound was makes
      · exact bound i stage stayed
    · intro visit made
      rw [visits_append, List.mem_append, Option.mem_toList] at made
      rcases made with earlier | now
      · exact hosted visit earlier
      · exact course.hosts was now (makes visit now)

/-- A hook of a thread was called for the instance with an index, and has ended as it does in
some environment. -/
def Hooks (plan : RunPlan κ ω) (phase : Phase) (index : Nat) (outcome : Outcome Unit) : Prop :=
  ∃ inst env, plan.instances[index]? = some inst ∧
    (phase = .threadInit ∧ outcome = (inst.threadInit env).1 ∨
      phase = .threadFinalize ∧ outcome = (inst.threadFinalize env).1)

theorem hooks_of_act? {events : Nat} {worker : Worker κ} {phase : Phase} {index : Nat}
    {outcome : Outcome Unit}
    (seen : plan.act? events pool worker = some (.hooked phase index outcome)) :
    plan.Hooks phase index outcome := by
  have performed := performs_of_act? seen
  generalize worker.stage = stage at performed
  cases performed with
  | started found => exact ⟨_, _, found, .inl ⟨rfl, rfl⟩⟩
  | finished found => exact ⟨_, _, found, .inr ⟨rfl, rfl⟩⟩

/-- All hooks of threads that were seen in a run of a pool were called. -/
theorem History.hooks {first : Pool κ ω} (history : plan.History events first acts pool)
    {phase : Phase} {index : Nat} {outcome : Outcome Unit}
    (seen : .hooked phase index outcome ∈ acts) : plan.Hooks phase index outcome := by
  induction history with
  | start => cases seen
  | step choice before found step ih =>
    rw [List.mem_append, Option.mem_toList] at seen
    exact seen.elim ih hooks_of_act?

/-! ## On one thread -/

section Serial

variable (plan)

theorem hosts_visitsOf {event index : Nat} {instances : List (Instance κ ω)}
    {state : List Tally × EventState κ ω} (placed : plan.instances.drop index = instances)
    (arrives : plan.Arrives event index state.2.data) :
    ∀ visit ∈ plan.visitsOf event index instances state, plan.Hosts visit := by
  induction instances generalizing index state with
  | nil => nofun
  | cons inst rest ih =>
    have found : plan.instances[index]? = some inst := by
      rw [← List.head?_drop, placed]
      rfl
    have hosts : plan.Hosts (inst.visitBy plan.messenger event index state.2) :=
      ⟨arrives, inst, state.2, found, rfl⟩
    obtain ⟨tallies, state⟩ := state
    intro visit made
    rw [visitsOf, List.mem_cons] at made
    rcases made with rfl | later
    · exact hosts
    · rw [inst.offer_eq plan.messenger event index tallies state] at later
      cases ended : (inst.visitBy plan.messenger event index state).outcome with
      | ok ran =>
        simp only [ended, Outcome.map] at later
        refine ih ?_ (.next arrives found ended) visit later
        rw [← List.drop_drop, placed]
        rfl
      | error err => simp [ended, Outcome.map] at later
      | panic text => simp [ended, Outcome.map] at later

/-- On one thread, too, each event that is offered to an instance came there from the
start. -/
theorem hosts_visitsFrom (event count : Nat) (state : List Tally × Env ω) :
    ∀ visit ∈ plan.visitsFrom event count state, plan.Hosts visit := by
  induction count generalizing event state with
  | zero => nofun
  | succ count ih =>
    intro visit made
    rw [visitsFrom, List.mem_append] at made
    rcases made with first | later
    · exact plan.hosts_visitsOf rfl .start visit first
    · generalize plan.processEvent event state = result at later
      obtain ⟨outcome, after⟩ := result
      cases outcome with
      | ok value => exact ih (event + 1) after visit later
      | error err => cases later
      | panic text => cases later

/-- On one thread no hooks of threads are called. -/
theorem hooked_notMem_serialActs (phase : Phase) (index : Nat) (outcome : Outcome Unit)
    (event count : Nat) (state : List Tally × Env ω) :
    .hooked phase index outcome ∉ plan.serialActs event count state := by
  induction count generalizing event state with
  | zero => exact List.not_mem_nil
  | succ count ih =>
    intro seen
    rw [serialActs, List.mem_cons, List.mem_append] at seen
    rcases seen with same | here | later
    · cases same
    · obtain ⟨visit, -, same⟩ := List.mem_map.mp here
      cases same
    · split at later
      · exact ih _ _ later
      · cases later

theorem exists_of_visit_error {event index : Nat} {instances : List (Instance κ ω)}
    {state : List Tally × EventState κ ω} {err : Error}
    (failed : (plan.visit index instances state).1 = .error err) :
    ∃ visit ∈ plan.visitsOf event index instances state, visit.outcome = .error err := by
  induction instances generalizing index state with
  | nil => cases failed
  | cons inst rest ih =>
    obtain ⟨tallies, state⟩ := state
    rw [RunPlan.visit] at failed
    rw [visitsOf]
    rw [inst.offer_eq plan.messenger event index tallies state] at failed ⊢
    cases ended : (inst.visitBy plan.messenger event index state).outcome with
    | ok ran =>
      simp only [ended, Outcome.map] at failed ⊢
      obtain ⟨visit, made, outcome_eq⟩ := ih failed
      exact ⟨visit, List.mem_cons_of_mem _ made, outcome_eq⟩
    | error cause =>
      simp only [ended, Outcome.map] at failed
      obtain rfl := Outcome.error.inj failed
      exact ⟨_, List.mem_cons_self, ended⟩
    | panic text =>
      simp only [ended, Outcome.map] at failed
      cases failed

/-- An error of a run on one thread is that of a visit. -/
theorem exists_of_processFrom_error {event count : Nat} {state : List Tally × Env ω}
    {err : Error} (failed : (plan.processFrom event count state).1 = .error err) :
    ∃ visit ∈ plan.visitsFrom event count state, visit.outcome = .error err := by
  induction count generalizing event state with
  | zero => cases failed
  | succ count ih =>
    rw [processFrom] at failed
    rw [visitsFrom]
    have here : ∀ cause, (plan.processEvent event state).1 = .error cause →
        (plan.visit 0 plan.instances (state.1, plan.arrival event state.2)).1 = .error cause :=
      fun _ same => same
    generalize plan.processEvent event state = result at failed here ⊢
    obtain ⟨outcome, after⟩ := result
    cases outcome with
    | ok value =>
      obtain ⟨visit, made, outcome_eq⟩ := ih failed
      exact ⟨visit, List.mem_append_right _ made, outcome_eq⟩
    | error cause =>
      obtain rfl := Outcome.error.inj failed
      obtain ⟨visit, made, outcome_eq⟩ := plan.exists_of_visit_error (here cause rfl)
      exact ⟨visit, List.mem_append_left _ made, outcome_eq⟩
    | panic text => cases failed

end Serial

end RunPlan

/-! ## In all runs -/

namespace Manager

variable {scheduler : Scheduler κ ω} {plan : RunPlan κ ω} {events workers : Nat} {env : Env ω}
  {roster : List (Nat × Act κ)}

/-- Every visit that is to be seen is of an event that came there from the start. -/
theorem Shows.hosts (shows : Shows scheduler plan events workers env roster) :
    ∀ visit ∈ visits (actsOf roster), plan.Hosts visit := by
  cases shows with
  | serial alone =>
    rw [RunPlan.actsOf_serialRoster, RunPlan.visits_serialActs]
    exact plan.hosts_visitsFrom _ _ _
  | pooled several signed => exact signed.history.hosts.2

/-- Every hook of a thread that is to be seen was called. -/
theorem Shows.hooks (shows : Shows scheduler plan events workers env roster) {phase : Phase}
    {index : Nat} {outcome : Outcome Unit} (seen : .hooked phase index outcome ∈ actsOf roster) :
    plan.Hooks phase index outcome := by
  cases shows with
  | serial alone =>
    rw [RunPlan.actsOf_serialRoster] at seen
    exact absurd seen (plan.hooked_notMem_serialActs phase index outcome _ _ _)
  | pooled several signed => exact signed.history.hooks seen

/-- The error that the processing of events ends with is one that a call has ended with. -/
theorem Shows.error_mem_calls {manager : Manager κ ω} {after : Manager κ ω × Env ω}
    {err : Error} (shows : Shows scheduler plan events workers env roster)
    (failed : processEvents scheduler plan events workers (manager, env) = (.error err, after)) :
    .error err ∈ calls (actsOf roster) := by
  unfold processEvents at failed
  cases shows with
  | serial alone =>
    simp only [if_neg alone] at failed
    have ended := Outcome.map_eq_error_iff.mp (congrArg Prod.fst failed)
    obtain ⟨visit, made, outcome_eq⟩ := plan.exists_of_processFrom_error ended
    rw [RunPlan.actsOf_serialRoster, error_mem_calls_iff, RunPlan.visits_serialActs]
    exact .inl ⟨visit, made, outcome_eq⟩
  | pooled several signed =>
    simp only [if_pos several] at failed
    have ended := Outcome.map_eq_error_iff.mp (congrArg Prod.fst failed)
    obtain ⟨calm, kept⟩ := Pool.outcome_eq_error_iff.mp ended
    have honest := signed.history.honest
    have contained : ¬ containedTexts (actsOf roster) ≠ [] := by
      rw [honest.panicked_eq, List.head?_eq_none_iff] at calm
      exact not_not_intro calm
    exact (honest.kept kept).resolve_right contained

/-- So it is that of a visit or of a hook of a thread. -/
theorem Shows.cases_of_error {manager : Manager κ ω} {after : Manager κ ω × Env ω}
    {err : Error} (shows : Shows scheduler plan events workers env roster)
    (failed : processEvents scheduler plan events workers (manager, env) = (.error err, after)) :
    (∃ visit ∈ visits (actsOf roster), visit.outcome = .error err) ∨
      ∃ inst ∈ plan.instances, ∃ env,
        (inst.threadInit env).1 = .error err ∨ (inst.threadFinalize env).1 = .error err := by
  rcases error_mem_calls_iff.mp (shows.error_mem_calls failed) with visited | ⟨phase, index, seen⟩
  · exact .inl visited
  · obtain ⟨inst, env, found, ended⟩ := shows.hooks seen
    exact .inr ⟨inst, List.mem_of_getElem? found, env,
      ended.imp (fun opening => opening.2.symm) fun closing => closing.2.symm⟩

end Manager

end DetectorSim
