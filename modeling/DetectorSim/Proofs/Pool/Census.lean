import DetectorSim.Proofs.Keyed
import DetectorSim.Proofs.Pool.Loyalty
import DetectorSim.Proofs.Pool.Roster
import DetectorSim.Run.Report

/-!
# The census of a run

Whoever looks at a run that has succeeded finds every event taken once and every
instance visited once in every event, in the order of the list, and the report has
counted these visits.  This holds on one thread and on a pool of workers alike:
both leave a roster that is complete.
-/

set_option autoImplicit false

namespace DetectorSim

variable {κ ω : Type} [Payload κ]

/-! ## Counts at one instance -/

/-- How often the instance with an index ran, or how often it was skipped. -/
def turnout (ran : Bool) (index : Nat) (made : List (Visit κ)) : Nat :=
  (visitsAt index made).countP fun visit => visit.outcome = .ok ran

theorem turnout_cons (ran : Bool) (index : Nat) (visit : Visit κ) (rest : List (Visit κ)) :
    turnout ran index (visit :: rest) = turnout ran index rest
      + if visit.index = index ∧ visit.outcome = .ok ran then 1 else 0 := by
  unfold turnout visitsAt
  by_cases here : visit.index = index
  · rw [List.filter_cons_of_pos (by simpa using here), List.countP_cons]
    simp [here]
  · rw [List.filter_cons_of_neg (by simpa using here), if_neg fun both => here both.1]
    rfl

theorem getElem?_enter (tallies : List Tally) (visit : Visit κ) (index : Nat) :
    (visit.enter tallies)[index]? = tallies[index]?.map fun tally =>
      ⟨tally.runs + (if visit.index = index ∧ visit.outcome = .ok true then 1 else 0),
        tally.skipped + if visit.index = index ∧ visit.outcome = .ok false then 1 else 0⟩ := by
  unfold Visit.enter
  cases ended : visit.outcome with
  | ok ran =>
    simp only [List.getElem?_modify]
    by_cases here : visit.index = index <;> cases ran <;> simp [here, Tally.count]
  | error err => simp
  | panic text => simp

/-- The counts of visits, instance by instance. -/
theorem getElem?_countVisits (tallies : List Tally) (made : List (Visit κ)) (index : Nat) :
    (countVisits tallies made)[index]? = tallies[index]?.map fun tally =>
      ⟨tally.runs + turnout true index made, tally.skipped + turnout false index made⟩ := by
  induction made generalizing tallies with
  | nil => exact Option.map_id'.symm
  | cons visit rest ih =>
    rw [countVisits, List.foldl_cons, ← countVisits, ih, getElem?_enter, Option.map_map,
      turnout_cons, turnout_cons]
    congr 1
    funext tally
    simp only [Function.comp, Nat.add_assoc, Nat.add_comm (turnout _ _ _)]

/-- If all visits are fine, each one ran or was skipped. -/
theorem turnout_add {made : List (Visit κ)} (fine : ∀ visit ∈ made, visit.isFine)
    (index : Nat) :
    turnout true index made + turnout false index made = (visitsAt index made).length := by
  rw [turnout, turnout, List.length_eq_countP_add_countP fun visit => visit.outcome = .ok true]
  congr 1
  refine List.countP_congr fun visit among => ?_
  have ended := fine visit (List.mem_filter.mp among).1
  unfold Visit.isFine at ended
  cases outcome : visit.outcome with
  | ok ran => cases ran <;> simp
  | error err =>
    rw [outcome] at ended
    cases ended
  | panic text =>
    rw [outcome] at ended
    cases ended

/-- How often an event was at an instance, seen from either of them. -/
theorem count_stops (acts : List (Act κ)) (event index : Nat) :
    (stops event acts).count index
      = ((visitsAt index (visits acts)).map Visit.event).count event := by
  simp only [stops, visitsAt, List.count, List.countP_map, List.countP_filter]
  congr 1
  funext visit
  exact Bool.and_comm _ _

/-- Where every event has been at all instances and no other event was there, every
instance has seen each event once. -/
theorem event_visitsAt_perm {acts : List (Act κ)} {events count : Nat}
    (tours : ∀ {event}, 1 ≤ event → event ≤ events → stops event acts = List.range count)
    (within : ∀ visit ∈ visits acts, 1 ≤ visit.event ∧ visit.event ≤ events) {index : Nat}
    (inside : index < count) :
    ((visitsAt index (visits acts)).map Visit.event).Perm (List.range' 1 events) := by
  refine List.perm_iff_count.mpr fun event => ?_
  by_cases among : 1 ≤ event ∧ event ≤ events
  · rw [← count_stops, tours among.1 among.2]
    rw [List.count_eq_one_of_mem List.nodup_range (List.mem_range.mpr inside),
      List.count_eq_one_of_mem List.nodup_range' (List.mem_range'_1.mpr (by omega))]
  · rw [List.count_eq_zero_of_not_mem, List.count_eq_zero_of_not_mem]
    · rw [List.mem_range'_1]
      omega
    · intro seen
      obtain ⟨visit, made, rfl⟩ := List.mem_map.mp seen
      exact among (within visit (List.mem_filter.mp made).1)

namespace RunPlan

variable [DecidableEq κ] {plan : RunPlan κ ω} {events workers : Nat}

/-! ## Counting in a pool -/

/-- An instance of the plan makes a visit. -/
def Makes (plan : RunPlan κ ω) (visit : Visit κ) : Prop :=
  ∃ inst state, plan.instances[visit.index]? = some inst ∧
    visit = inst.visitBy plan.messenger visit.event visit.index state

/-- What a step does to the counts. -/
inductive Entry (plan : RunPlan κ ω) (pool next : Pool κ ω) : Option (Act κ) → Prop where
  /-- No event is offered to an instance. -/
  | none {act : Option (Act κ)} (unvisited : act.bind Act.visit? = none)
      (tallies_eq : next.tallies = pool.tallies) : Entry plan pool next act
  /-- An event is offered to an instance. -/
  | one {visit : Visit κ} (makes : plan.Makes visit)
      (tallies_eq : next.tallies = visit.enter pool.tallies) :
      Entry plan pool next (some (.offered visit))

section Steps

variable {pool : Pool κ ω} {worker : Worker κ}

theorem entry_start {index : Nat} (stage : worker.stage = .starting index) :
    Entry plan pool (plan.start pool worker index).1 (plan.act? events pool worker) := by
  simp only [start, act?, stage]
  cases plan.instances[index]? with
  | none => exact .none rfl rfl
  | some inst =>
    have tallies_eq : (pool.perform worker.thread inst.threadInit).2.tallies = pool.tallies := rfl
    simp only [Option.map_some]
    generalize pool.perform worker.thread inst.threadInit = result at tallies_eq ⊢
    obtain ⟨outcome, after⟩ := result
    cases outcome <;> exact .none rfl tallies_eq

theorem entry_finish {result : Except Error Unit} {index : Nat}
    (stage : worker.stage = .finishing result index) :
    Entry plan pool (plan.finish pool worker result index).1
      (plan.act? events pool worker) := by
  simp only [finish, act?, stage]
  cases plan.instances[index]? with
  | none => cases result <;> exact .none rfl rfl
  | some inst =>
    have tallies_eq : (pool.perform worker.thread inst.threadFinalize).2.tallies
        = pool.tallies := rfl
    simp only [Option.map_some]
    generalize pool.perform worker.thread inst.threadFinalize = performed at tallies_eq ⊢
    obtain ⟨outcome, after⟩ := performed
    cases outcome <;> cases result <;> exact .none rfl tallies_eq

theorem entry_arrive {event index : Nat} {data : EventData κ}
    (stage : worker.stage = .arriving event data index) :
    Entry plan pool pool (plan.act? events pool worker) := by
  simp only [act?, stage]
  split
  · split <;> exact .none rfl rfl
  · split <;> exact .none rfl rfl

theorem entry_visitAt {event index : Nat} {data : EventData κ} {inst : Instance κ ω}
    (stage : worker.stage = .running event data index)
    (found : plan.instances[index]? = some inst) :
    Entry plan pool (plan.visitAt pool worker event data index inst).1
      (plan.act? events pool worker) := by
  simp only [act?, stage, found, Option.map_some]
  refine .one ⟨inst, _, found, rfl⟩ ?_
  simp only [visitAt, Proc.onThread, inst.offer_eq plan.messenger event]
  rfl

/-- Every step of a worker enters its visit, if it makes one. -/
theorem entry_of_advance? {choice : Choice} {middle : Pool κ ω} {after : Worker κ}
    (advanced : plan.advance? events pool choice worker = some (middle, after)) :
    Entry plan pool middle (plan.act? events pool worker) := by
  have advance := advance_of_advance? advanced
  generalize stage : worker.stage = old at advance
  generalize after.stage = new at advance
  cases advance with
  | started => exact entry_start stage
  | claimed =>
    simp only [claim, act?, stage]
    split <;> exact .none rfl rfl
  | arrived inside arrived => exact entry_arrive stage
  | completed => exact entry_arrive stage
  | overflowed => exact entry_arrive stage
  | visited found => exact entry_visitAt stage found
  | @left event index data outcome =>
    simp only [act?, stage]
    cases outcome <;> exact .none rfl rfl
  | @unwound text what =>
    simp only [act?, stage]
    cases what <;> exact .none rfl rfl
  | finished => exact entry_finish stage
  | failed =>
    simp only [act?, stage, Pool.keepFailure]
    split <;> exact .none rfl rfl
  | released =>
    simp only [act?, stage, release]
    split <;> exact .none rfl rfl
  | _ =>
    simp only [act?, stage]
    exact .none rfl rfl

end Steps

/-- In every run the counts are those of the visits, and instances of the plan make
them. -/
theorem History.counted {first pool : Pool κ ω} {acts : List (Act κ)}
    (history : plan.History events first acts pool) :
    pool.tallies = countVisits first.tallies (visits acts) ∧
      ∀ visit ∈ visits acts, plan.Makes visit := by
  induction history with
  | start => exact ⟨rfl, nofun⟩
  | step choice before found step ih =>
    obtain ⟨tallies_eq, made⟩ := ih
    obtain ⟨same, middle, after, found', advanced, rfl⟩ := exists_of_step? step
    obtain rfl := Option.some.inj (found.symm.trans found')
    have entry := entry_of_advance? advanced
    generalize plan.act? events _ _ = act at entry ⊢
    cases entry with
    | none unvisited kept =>
      rw [visits_of_unvisited unvisited]
      exact ⟨kept.trans tallies_eq, made⟩
    | @one visit makes entered =>
      rw [visits_of_visit rfl, countVisits_append, ← tallies_eq]
      refine ⟨entered, fun other among => ?_⟩
      rcases List.mem_append.mp among with earlier | now
      · exact made other earlier
      · rwa [List.mem_singleton.mp now]

/-! ## Complete rosters -/

/-- All events from one to `events` were taken one after the other, each was at all
instances in the order of the list, nobody else offered it to an instance than who
took it, and no instance has failed. -/
structure Complete (plan : RunPlan κ ω) (events : Nat) (roster : List (Nat × Act κ)) :
    Prop where
  taken_eq : takenEvents (actsOf roster) = List.range' 1 events
  tended : ∀ {worker visit}, (worker, .offered visit) ∈ roster →
    (worker, .took visit.event) ∈ roster
  stops_eq : ∀ {event}, 1 ≤ event → event ≤ events →
    stops event (actsOf roster) = List.range plan.instances.length
  makes : ∀ visit ∈ visits (actsOf roster), plan.Makes visit
  fine : ∀ visit ∈ visits (actsOf roster), visit.isFine

/-- When a run on a pool has succeeded, its roster is complete. -/
theorem Roster.complete {tallies : List Tally} {env : Env ω} {roster : List (Nat × Act κ)}
    {pool : Pool κ ω} (some_worker : 0 < workers) (fits : events + workers < 2 ^ 64)
    (signed : plan.Roster events (plan.startPool workers tallies env) roster pool)
    (ended : pool.hasEnded = true) (succeeded : pool.outcome = .ok ()) :
    plan.Complete events roster := by
  have history := signed.history
  have calm := (history.outcome_ok_iff ended).mp succeeded
  have ascending := (history.orderly fits).1
  rw [history.length_takenEvents some_worker fits ended calm] at ascending
  exact ⟨ascending, signed.tended.offered, history.stops_eq some_worker fits ended calm,
    history.counted.2, fun visit made => isFine_of_isCalm calm made⟩

/-! ## The roster of a run on one thread -/

/-- What is done on one thread while a number of events are processed from a given
one on. -/
def serialActs (plan : RunPlan κ ω) : Nat → Nat → List Tally × Env ω → List (Act κ)
  | _, 0, _ => []
  | event, count + 1, state =>
      .took event ::
        ((plan.visitsOf event 0 plan.instances (state.1, plan.arrival event state.2)).map
            .offered ++
          match plan.processEvent event state with
          | (.ok (), state) => plan.serialActs (event + 1) count state
          | _ => [])

/-- The roster of a run on one thread, which is that of its only worker. -/
def serialRoster (plan : RunPlan κ ω) (events : Nat) (state : List Tally × Env ω) :
    List (Nat × Act κ) :=
  (plan.serialActs 1 events state).map fun act => (0, act)

theorem actsOf_serialRoster (events : Nat) (state : List Tally × Env ω) :
    actsOf (plan.serialRoster events state) = plan.serialActs 1 events state := by
  rw [actsOf, serialRoster, List.map_map]
  exact List.map_id _

omit [DecidableEq κ] in
theorem visits_took_offered (event : Nat) (made : List (Visit κ)) (rest : List (Act κ)) :
    visits (.took event :: (made.map .offered ++ rest)) = made ++ visits rest := by
  simp [visits, Act.visit?, List.filterMap_cons, List.filterMap_map, Function.comp_def]

omit [DecidableEq κ] in
theorem takenEvents_took_offered (event : Nat) (made : List (Visit κ)) (rest : List (Act κ)) :
    takenEvents (.took event :: (made.map .offered ++ rest)) = event :: takenEvents rest := by
  simp [takenEvents, Act.taken?, List.filterMap_map, Function.comp_def]

/-- On one thread the visits are those that are seen. -/
theorem visits_serialActs (event count : Nat) (state : List Tally × Env ω) :
    visits (plan.serialActs event count state) = plan.visitsFrom event count state := by
  induction count generalizing event state with
  | zero => rfl
  | succ count ih =>
    rw [serialActs, visitsFrom, visits_took_offered]
    generalize plan.processEvent event state = result
    obtain ⟨outcome, after⟩ := result
    cases outcome with
    | ok value => exact congrArg _ (ih _ _)
    | error err => rfl
    | panic text => rfl

/-- On one thread the events are taken one after the other. -/
theorem takenEvents_serialActs {event count : Nat} {state : List Tally × Env ω}
    (succeeded : (plan.processFrom event count state).1 = .ok ()) :
    takenEvents (plan.serialActs event count state) = List.range' event count := by
  induction count generalizing event state with
  | zero => rfl
  | succ count ih =>
    rw [processFrom] at succeeded
    rw [serialActs, takenEvents_took_offered, List.range'_succ]
    generalize plan.processEvent event state = result at succeeded ⊢
    obtain ⟨outcome, after⟩ := result
    cases outcome with
    | ok value => exact congrArg _ (ih succeeded)
    | error err => cases succeeded
    | panic text => cases succeeded

/-- The forecast of an event leads to all instances in order. -/
theorem map_index_forecast (env : Env ω) (event : Nat) :
    (plan.forecast env event).map Visit.index = List.range plan.instances.length := by
  apply List.ext_getElem?
  intro i
  rw [List.getElem?_map, getElem?_forecast, Option.map_map]
  by_cases inside : i < plan.instances.length
  · rw [List.getElem?_eq_getElem inside, List.getElem?_range inside]
    rfl
  · rw [List.getElem?_eq_none (Nat.le_of_not_lt inside),
      List.getElem?_eq_none (by rw [List.length_range]; exact Nat.le_of_not_lt inside)]
    rfl

/-- The forecast of an event is made of visits of this event. -/
theorem makes_of_mem_forecast {env : Env ω} {event : Nat} {visit : Visit κ}
    (foreseen : visit ∈ plan.forecast env event) : plan.Makes visit := by
  obtain ⟨rfl, placed⟩ := mem_forecast.mp foreseen
  rw [getElem?_forecast] at placed
  obtain ⟨inst, found, same⟩ := Option.map_eq_some_iff.mp placed
  exact ⟨inst, _, found, same.symm⟩

/-- When a run on one thread has succeeded, its visits are those of the forecasts. -/
theorem visits_serialRoster {tallies : List Tally} {env : Env ω}
    (succeeded : (plan.runSerial events (tallies, env)).1 = .ok ()) :
    visits (actsOf (plan.serialRoster events (tallies, env)))
      = (List.range' 1 events).flatMap (plan.forecast env) := by
  rw [actsOf_serialRoster, visits_serialActs]
  exact (runSerial_of_fine (runSerial_ok_iff.mp succeeded) tallies).2

/-- When a run on one thread has succeeded, its roster is complete. -/
theorem complete_serialRoster {tallies : List Tally} {env : Env ω}
    (succeeded : (plan.runSerial events (tallies, env)).1 = .ok ()) :
    plan.Complete events (plan.serialRoster events (tallies, env)) := by
  have visits_eq := visits_serialRoster succeeded
  have taken_eq : takenEvents (actsOf (plan.serialRoster events (tallies, env)))
      = List.range' 1 events := by
    rw [actsOf_serialRoster]
    exact takenEvents_serialActs succeeded
  have alone {worker : Nat} {act : Act κ}
      (signed : (worker, act) ∈ plan.serialRoster events (tallies, env)) : worker = 0 := by
    obtain ⟨_, -, same⟩ := List.mem_map.mp signed
    exact (congrArg Prod.fst same).symm
  refine ⟨taken_eq, ?_, ?_, ?_, ?_⟩
  · intro worker visit offered
    have made := mem_visits.mpr (mem_actsOf.mpr ⟨worker, offered⟩)
    rw [visits_eq] at made
    obtain ⟨event, within, foreseen⟩ := List.mem_flatMap.mp made
    rw [← taken_eq] at within
    obtain ⟨other, taken⟩ := mem_actsOf.mp (mem_takenEvents.mp within)
    rwa [(mem_forecast.mp foreseen).1, alone offered, ← alone taken]
  · intro event least most
    have among : event ∈ List.range' 1 events := List.mem_range'_1.mpr (by omega)
    have own : ∀ other, ∀ visit ∈ plan.forecast env other, visit.event = other :=
      fun other visit foreseen => (mem_forecast.mp foreseen).1
    rw [stops, visits_eq, List.filter_flatMap_key own fun number => number = event,
      List.filter_key_eq_singleton (by rw [List.map_id']; exact List.nodup_range') among,
      List.flatMap_singleton, map_index_forecast]
  · intro visit made
    rw [visits_eq] at made
    obtain ⟨event, -, foreseen⟩ := List.mem_flatMap.mp made
    exact makes_of_mem_forecast foreseen
  · rw [visits_eq]
    exact runSerial_ok_iff.mp succeeded

/-- When a run on one thread has succeeded, it has counted its visits. -/
theorem tallies_runSerial {tallies : List Tally} {env : Env ω}
    (succeeded : (plan.runSerial events (tallies, env)).1 = .ok ()) :
    (plan.runSerial events (tallies, env)).2.1
      = countVisits tallies (visits (actsOf (plan.serialRoster events (tallies, env)))) := by
  rw [visits_serialRoster succeeded,
    (runSerial_of_fine (runSerial_ok_iff.mp succeeded) tallies).1]

end RunPlan

end DetectorSim
