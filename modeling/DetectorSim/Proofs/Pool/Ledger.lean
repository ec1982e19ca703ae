import Mathlib.Data.List.Nodup
import DetectorSim.Proofs.Pool.Independence

/-!
# The ledger of a run on one thread

On one thread every event is offered to every instance, one after the other.
The ledger says for each event and each instance what the event is like when it
comes there.  It goes on where the run ends with a failure, as if the event had
simply been offered to the next instance, so a run of a pool can be held against
it at any time.
-/

set_option autoImplicit false

namespace DetectorSim

variable {κ ω : Type} [Payload κ] {σ : Nat → Type}

/-! ## Counting visits -/

namespace Visit

/-- The instance ran or was skipped. -/
def isFine (visit : Visit κ) : Prop :=
  visit.outcome.map (fun _ => ()) = .ok ()

/-- Count a visit, if the instance ran or was skipped. -/
def enter (tallies : List Tally) (visit : Visit κ) : List Tally :=
  match visit.outcome with
  | .ok ran => tallies.modify visit.index fun tally => tally.count ran
  | _ => tallies

/-- The order of two visits does not matter for the counts. -/
theorem enter_comm (tallies : List Tally) (first second : Visit κ) :
    second.enter (first.enter tallies) = first.enter (second.enter tallies) := by
  unfold enter
  cases first.outcome with
  | ok ran =>
    cases second.outcome with
    | ok ran' =>
      by_cases same : first.index = second.index
      · simp only [same, List.modify_modify_eq]
        congr 1
        funext tally
        cases ran <;> cases ran' <;> rfl
      · exact List.modify_modify_ne _ _ _ same
    | error err => rfl
    | panic text => rfl
  | error err => rfl
  | panic text => rfl

end Visit

/-- The counts after some visits. -/
def countVisits (tallies : List Tally) (made : List (Visit κ)) : List Tally :=
  made.foldl (fun tallies visit => visit.enter tallies) tallies

theorem countVisits_append (tallies : List Tally) (first second : List (Visit κ)) :
    countVisits tallies (first ++ second) = countVisits (countVisits tallies first) second :=
  List.foldl_append

/-- The order of visits does not matter for the counts. -/
theorem countVisits_perm {first second : List (Visit κ)} (perm : first.Perm second)
    (tallies : List Tally) : countVisits tallies first = countVisits tallies second :=
  perm.foldl_eq' (fun visit _ visit' _ tallies => Visit.enter_comm tallies visit visit') tallies

/-- Offering an event is visiting the instance and counting the visit. -/
theorem Instance.offer_eq [DecidableEq κ] (inst : Instance κ ω) (messenger : Messenger κ ω)
    (event index : Nat) (tallies : List Tally) (state : EventState κ ω) :
    inst.offer messenger index (tallies, state)
      = ((inst.visitBy messenger event index state).outcome.map fun _ => (),
          ((inst.visitBy messenger event index state).enter tallies,
            (inst.runEvent messenger state).2)) := by
  simp only [offer, Visit.enter, visitBy]
  generalize inst.runEvent messenger state = result
  obtain ⟨outcome, after⟩ := result
  cases outcome <;> rfl

namespace RunPlan

variable [DecidableEq κ]

/-! ## Visits on one thread -/

section Trace

variable (plan : RunPlan κ ω)

/-- An event on its way to the first instance. -/
def arrival (event : Nat) (env : Env ω) : EventState κ ω :=
  ⟨plan.startEvent event,
    { env with journal := env.journal.write .debug s!"Running event {event}" }⟩

/-- What is seen while an event is offered to some instances, the first of which
has a given index. -/
def visitsOf (event : Nat) :
    Nat → List (Instance κ ω) → List Tally × EventState κ ω → List (Visit κ)
  | _, [], _ => []
  | index, inst :: rest, state =>
      inst.visitBy plan.messenger event index state.2 ::
        match inst.offer plan.messenger index state with
        | (.ok (), state) => visitsOf event (index + 1) rest state
        | _ => []

/-- What is seen while a number of events are processed from a given one on. -/
def visitsFrom : Nat → Nat → List Tally × Env ω → List (Visit κ)
  | _, 0, _ => []
  | event, count + 1, state =>
      plan.visitsOf event 0 plan.instances (state.1, plan.arrival event state.2) ++
        match plan.processEvent event state with
        | (.ok (), state) => visitsFrom (event + 1) count state
        | _ => []

/-- What is seen of a run on one thread. -/
def serialVisits (events : Nat) (state : List Tally × Env ω) : List (Visit κ) :=
  plan.visitsFrom 1 events state

end Trace

/-! ## The ledger -/

section Ledger

variable (plan : RunPlan κ ω)

/-- An event after it was offered to some instances, whatever came of it. -/
def pass (instances : List (Instance κ ω)) (state : EventState κ ω) : EventState κ ω :=
  instances.foldl (fun state inst => (inst.runEvent plan.messenger state).2) state

/-- What would be seen while an event is offered to some instances, whatever comes
of it. -/
def foresee (event : Nat) :
    Nat → List (Instance κ ω) → EventState κ ω → List (Visit κ)
  | _, [], _ => []
  | index, inst :: rest, state =>
      inst.visitBy plan.messenger event index state ::
        foresee event (index + 1) rest (inst.runEvent plan.messenger state).2

/-- The environment after a number of events. -/
def ledgerEnv (env : Env ω) : Nat → Env ω
  | 0 => env
  | count + 1 =>
      (plan.pass plan.instances (plan.arrival (count + 1) (ledgerEnv env count))).env

/-- An event when it comes to the instance with an index. -/
def ledger (env : Env ω) (event index : Nat) : EventState κ ω :=
  plan.pass (plan.instances.take index)
    (plan.arrival event (plan.ledgerEnv env (event - 1)))

/-- The visits of an event at all instances. -/
def forecast (env : Env ω) (event : Nat) : List (Visit κ) :=
  plan.foresee event 0 plan.instances (plan.arrival event (plan.ledgerEnv env (event - 1)))

end Ledger

section Forecast

variable {plan : RunPlan κ ω} {env : Env ω} {event index : Nat}

theorem ledger_succ {inst : Instance κ ω} (found : plan.instances[index]? = some inst) :
    plan.ledger env event (index + 1)
      = (inst.runEvent plan.messenger (plan.ledger env event index)).2 := by
  unfold ledger pass
  rw [List.take_add_one, found, List.foldl_append]
  rfl

/-- After the last instance the ledger goes on with the next event. -/
theorem ledgerEnv_eq {count : Nat} :
    plan.ledgerEnv env (count + 1)
      = (plan.ledger env (count + 1) plan.instances.length).env := by
  unfold ledger
  rw [List.take_length]
  rfl

/-- The visits that are foreseen, one by one. -/
theorem getElem?_foresee {first : Nat} {instances : List (Instance κ ω)}
    {state : EventState κ ω} (i : Nat) :
    (plan.foresee event first instances state)[i]?
      = instances[i]?.map fun inst =>
          inst.visitBy plan.messenger event (first + i) (plan.pass (instances.take i) state) := by
  induction instances generalizing first state i with
  | nil => rfl
  | cons inst rest ih =>
    cases i with
    | zero => rfl
    | succ i =>
      rw [foresee, List.getElem?_cons_succ, ih, List.getElem?_cons_succ, List.take_succ_cons,
        Nat.add_right_comm]
      rfl

/-- The forecast for an instance is the visit of the event that the ledger has. -/
theorem getElem?_forecast :
    (plan.forecast env event)[index]?
      = plan.instances[index]?.map fun inst =>
          inst.visitBy plan.messenger event index (plan.ledger env event index) := by
  unfold forecast
  rw [getElem?_foresee, Nat.zero_add]
  rfl

theorem length_forecast : (plan.forecast env event).length = plan.instances.length := by
  apply Nat.le_antisymm
  · rw [← List.getElem?_eq_none_iff, getElem?_forecast, List.getElem?_eq_none (Nat.le_refl _)]
    rfl
  · rw [← List.getElem?_eq_none_iff]
    have beyond : (plan.forecast env event)[(plan.forecast env event).length]? = none :=
      List.getElem?_eq_none (Nat.le_refl _)
    rw [getElem?_forecast] at beyond
    exact Option.map_eq_none_iff.mp beyond

/-- A visit in the forecast of an event stands in the place of its instance. -/
theorem mem_forecast {visit : Visit κ} :
    visit ∈ plan.forecast env event
      ↔ visit.event = event ∧ (plan.forecast env event)[visit.index]? = some visit := by
  refine ⟨fun foreseen => ?_, fun ⟨_, placed⟩ => List.mem_of_getElem? placed⟩
  obtain ⟨i, found⟩ := List.mem_iff_getElem?.mp foreseen
  have visited := found
  rw [getElem?_forecast] at visited
  obtain ⟨inst, -, rfl⟩ := Option.map_eq_some_iff.mp visited
  exact ⟨rfl, found⟩

theorem nodup_forecast : (plan.forecast env event).Nodup := by
  rw [List.nodup_iff_getElem?_ne_getElem?]
  intro i j lt bound same
  have inside : i < (plan.forecast env event).length := Nat.lt_trans lt bound
  rw [getElem?_forecast, getElem?_forecast] at same
  rw [length_forecast] at inside bound
  rw [List.getElem?_eq_getElem inside, List.getElem?_eq_getElem bound] at same
  exact absurd (congrArg Visit.index (Option.some.inj same)) (Nat.ne_of_lt lt)

/-- No visit is in the forecasts of two events, and none is there twice. -/
theorem nodup_forecasts {first count : Nat} :
    ((List.range' first count).flatMap (plan.forecast env)).Nodup := by
  refine List.nodup_flatMap.mpr ⟨fun event _ => nodup_forecast, ?_⟩
  refine List.Pairwise.imp (fun {event other} apart => ?_) List.nodup_range'
  intro visit foreseen foreseen'
  exact apart ((mem_forecast.mp foreseen).1.symm.trans (mem_forecast.mp foreseen').1)

end Forecast

/-! ## The run on one thread keeps to the ledger -/

section Serial

variable {plan : RunPlan κ ω} {event index : Nat}

/-- If everything that is foreseen for an event goes well, it is what happens. -/
theorem visit_of_fine {instances : List (Instance κ ω)} {state : EventState κ ω}
    (fine : ∀ visit ∈ plan.foresee event index instances state, visit.isFine)
    (tallies : List Tally) :
    plan.visit index instances (tallies, state)
        = (.ok (), (countVisits tallies (plan.foresee event index instances state),
            plan.pass instances state)) ∧
      plan.visitsOf event index instances (tallies, state)
        = plan.foresee event index instances state := by
  induction instances generalizing index tallies state with
  | nil => exact ⟨rfl, rfl⟩
  | cons inst rest ih =>
    rw [foresee, List.forall_mem_cons] at fine
    obtain ⟨now, later⟩ := fine
    obtain ⟨result_eq, seen_eq⟩ :=
      ih later ((inst.visitBy plan.messenger event index state).enter tallies)
    unfold Visit.isFine at now
    simp only [visit, visitsOf, foresee, inst.offer_eq plan.messenger event, now]
    exact ⟨result_eq, congrArg _ seen_eq⟩

/-- If an event goes well, so does everything that is foreseen for it. -/
theorem fine_of_visit {instances : List (Instance κ ω)} {state : EventState κ ω}
    {tallies : List Tally}
    (succeeded : (plan.visit index instances (tallies, state)).1 = .ok ()) :
    ∀ visit ∈ plan.foresee event index instances state, visit.isFine := by
  induction instances generalizing index tallies state with
  | nil => exact nofun
  | cons inst rest ih =>
    simp only [visit, inst.offer_eq plan.messenger event] at succeeded
    rw [foresee, List.forall_mem_cons]
    cases now : (inst.visitBy plan.messenger event index state).outcome.map fun _ => () with
    | ok value =>
      rw [now] at succeeded
      exact ⟨now, ih succeeded⟩
    | error err =>
      rw [now] at succeeded
      cases succeeded
    | panic text =>
      rw [now] at succeeded
      cases succeeded

/-- If the forecast of the next event is good, it comes true. -/
theorem processEvent_of_fine {env : Env ω} {count : Nat}
    (fine : ∀ visit ∈ plan.forecast env (count + 1), visit.isFine) (tallies : List Tally) :
    plan.processEvent (count + 1) (tallies, plan.ledgerEnv env count)
        = (.ok (), (countVisits tallies (plan.forecast env (count + 1)),
            plan.ledgerEnv env (count + 1))) ∧
      plan.visitsOf (count + 1) 0 plan.instances
          (tallies, plan.arrival (count + 1) (plan.ledgerEnv env count))
        = plan.forecast env (count + 1) := by
  obtain ⟨result_eq, seen_eq⟩ := visit_of_fine fine tallies
  refine ⟨?_, seen_eq⟩
  unfold processEvent
  unfold arrival at result_eq
  simp only
  rw [Nat.add_sub_cancel] at result_eq
  rw [result_eq]
  rfl

/-- If the forecasts are good, they come true. -/
theorem processFrom_of_fine {env : Env ω} {done count : Nat}
    (fine : ∀ visit ∈ (List.range' (done + 1) count).flatMap (plan.forecast env),
      visit.isFine) (tallies : List Tally) :
    plan.processFrom (done + 1) count (tallies, plan.ledgerEnv env done)
        = (.ok (), (countVisits tallies
            ((List.range' (done + 1) count).flatMap (plan.forecast env)),
            plan.ledgerEnv env (done + count))) ∧
      plan.visitsFrom (done + 1) count (tallies, plan.ledgerEnv env done)
        = (List.range' (done + 1) count).flatMap (plan.forecast env) := by
  induction count generalizing done tallies with
  | zero => exact ⟨rfl, rfl⟩
  | succ count ih =>
    rw [List.range'_succ, List.flatMap_cons, List.forall_mem_append] at fine
    obtain ⟨now, later⟩ := fine
    obtain ⟨event_eq, event_seen⟩ := processEvent_of_fine now tallies
    obtain ⟨result_eq, seen_eq⟩ :=
      ih later (countVisits tallies (plan.forecast env (done + 1)))
    rw [processFrom, visitsFrom, List.range'_succ, List.flatMap_cons, event_seen]
    simp only [event_eq, result_eq, seen_eq]
    have after : done + 1 + count = done + (count + 1) := Nat.add_right_comm done 1 count
    rw [countVisits_append, after]
    exact ⟨rfl, trivial⟩

/-- If a number of events go well, their forecasts are good. -/
theorem fine_of_processFrom {env : Env ω} {done count : Nat} {tallies : List Tally}
    (succeeded :
      (plan.processFrom (done + 1) count (tallies, plan.ledgerEnv env done)).1 = .ok ()) :
    ∀ visit ∈ (List.range' (done + 1) count).flatMap (plan.forecast env), visit.isFine := by
  induction count generalizing done tallies with
  | zero => exact nofun
  | succ count ih =>
    have now : ∀ visit ∈ plan.forecast env (done + 1), visit.isFine := by
      have went : (plan.visit 0 plan.instances
          (tallies, plan.arrival (done + 1) (plan.ledgerEnv env done))).1 = .ok () := by
        unfold processFrom processEvent at succeeded
        unfold arrival
        simp only at succeeded
        generalize plan.visit 0 plan.instances _ = result at succeeded ⊢
        obtain ⟨outcome, after⟩ := result
        cases outcome with
        | ok value => rfl
        | error err => cases succeeded
        | panic text => cases succeeded
      exact fine_of_visit went
    rw [List.range'_succ, List.flatMap_cons, List.forall_mem_append]
    rw [processFrom, (processEvent_of_fine now tallies).1] at succeeded
    exact ⟨now, ih succeeded⟩

/-- If all forecasts are good, they are the run on one thread. -/
theorem runSerial_of_fine {env : Env ω} {events : Nat}
    (fine : ∀ visit ∈ (List.range' 1 events).flatMap (plan.forecast env), visit.isFine)
    (tallies : List Tally) :
    plan.runSerial events (tallies, env)
        = (.ok (), (countVisits tallies ((List.range' 1 events).flatMap (plan.forecast env)),
            plan.ledgerEnv env events)) ∧
      plan.serialVisits events (tallies, env)
        = (List.range' 1 events).flatMap (plan.forecast env) := by
  obtain ⟨result_eq, seen_eq⟩ := @processFrom_of_fine _ _ _ _ plan env 0 events fine tallies
  rw [Nat.zero_add, Nat.zero_add] at result_eq
  exact ⟨result_eq, seen_eq⟩

/-- The run on one thread succeeds exactly if all forecasts are good. -/
theorem runSerial_ok_iff {env : Env ω} {events : Nat} {tallies : List Tally} :
    (plan.runSerial events (tallies, env)).1 = .ok () ↔
      ∀ visit ∈ (List.range' 1 events).flatMap (plan.forecast env), visit.isFine := by
  constructor
  · intro succeeded
    exact @fine_of_processFrom _ _ _ _ plan env 0 events tallies succeeded
  · intro fine
    rw [(runSerial_of_fine fine tallies).1]

end Serial

/-! ## The own states of instances in the ledger -/

namespace Independent

variable {own : (i : Nat) → ω → σ i} {plan : RunPlan κ ω} {env : Env ω} {event j : Nat}

/-- While an event goes on, the own state of an instance stays as it is if the
event does not come through there. -/
theorem own_ledger_eq (independent : plan.Independent own) {first last : Nat}
    (le : first ≤ last) (apart : ∀ index, first ≤ index → index < last → index ≠ j) :
    own j (plan.ledger env event last).env.world
      = own j (plan.ledger env event first).env.world := by
  induction le with
  | refl => rfl
  | @step last le ih =>
    rw [← ih fun index ge lt => apart index ge (Nat.lt_succ_of_lt lt)]
    cases found : plan.instances[last]? with
    | none =>
      unfold ledger
      rw [List.take_add_one, found, Option.toList_none, List.append_nil]
    | some inst =>
      rw [ledger_succ found]
      have same : (plan.ledger env event last).Agrees own last (plan.ledger env event last) :=
        ⟨rfl, rfl⟩
      obtain ⟨-, -, -, frames⟩ := inst.runEvent_agrees independent.listeners
        (independent.confined found) same
      exact frames j (apart last le (Nat.lt_succ_self last)).symm

/-- Up to an instance its own state is that after the event before. -/
theorem own_ledger (independent : plan.Independent own) :
    own j (plan.ledger env event j).env.world
      = own j (plan.ledgerEnv env (event - 1)).world :=
  independent.own_ledger_eq (Nat.zero_le j) fun _ _ lt => Nat.ne_of_lt lt

/-- What belongs to no instance stays as it is. -/
theorem own_beyond (independent : plan.Independent own) (count : Nat)
    (beyond : plan.instances.length ≤ j) :
    own j (plan.ledgerEnv env count).world = own j env.world := by
  induction count with
  | zero => rfl
  | succ count ih =>
    rw [ledgerEnv_eq, ← ih]
    exact independent.own_ledger_eq (Nat.zero_le _) fun _ _ lt =>
      Nat.ne_of_lt (Nat.lt_of_lt_of_le lt beyond)

/-- From an instance on its own state is that after the event. -/
theorem own_ledgerEnv (independent : plan.Independent own) {count : Nat}
    (inside : j < plan.instances.length) :
    own j (plan.ledgerEnv env (count + 1)).world
      = own j (plan.ledger env (count + 1) (j + 1)).env.world := by
  rw [ledgerEnv_eq]
  exact independent.own_ledger_eq inside fun _ ge _ => (Nat.ne_of_lt ge).symm

end Independent

end RunPlan

end DetectorSim
