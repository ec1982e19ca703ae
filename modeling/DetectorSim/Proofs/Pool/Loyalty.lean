import DetectorSim.Proofs.Pool.Ledger
import DetectorSim.Proofs.Pool.Turns
import DetectorSim.Proofs.Pool.Failure

/-!
# Pools that keep to the ledger

Whatever the scheduler decides, a visit is the one that the ledger has for its
event and its instance.  An event carries along what the ledger says, for nobody
else can change it; an instance that must see the events in order has at its gate
the own state that the ledger says, for it has seen all events before; and what
the workers do in between is nothing to either of them.
-/

set_option autoImplicit false

namespace DetectorSim

variable {κ ω : Type} [Payload κ] {σ : Nat → Type}

/-! ## Visits at an instance -/

/-- The visits at the instance with an index, in order. -/
def visitsAt (index : Nat) (made : List (Visit κ)) : List (Visit κ) :=
  made.filter fun visit => visit.index = index

/-- The events that ran, in order. -/
def runners (trace : List (Nat × Passage)) : List Nat :=
  (trace.filter fun passage => passage.2 = .runs).map Prod.fst

@[simp] theorem runners_append (trace rest : List (Nat × Passage)) :
    runners (trace ++ rest) = runners trace ++ runners rest := by
  simp [runners]

@[simp] theorem runners_passagesUpTo (count : Nat) :
    runners (passagesUpTo count) = List.range' 1 count := by
  induction count with
  | zero => rfl
  | succ count ih =>
    rw [passagesUpTo_succ, runners_append, ih, List.range'_concat, Nat.one_mul,
      Nat.add_comm 1]
    rfl

/-- The events that ran at an instance are those of its visits. -/
theorem runners_passages (index : Nat) (acts : List (Act κ)) :
    runners (passages index acts) = (visitsAt index (visits acts)).map Visit.event := by
  unfold runners passages visitsAt visits
  rw [List.filter_filterMap, List.map_filterMap, List.filter_filterMap, List.map_filterMap]
  congr 1
  funext act
  cases act with
  | entered event place => by_cases here : place = index <;> simp [Act.passage?, Act.visit?, here]
  | offered visit =>
    by_cases here : visit.index = index <;>
      simp [Act.passage?, Act.visit?, Option.filter, here]
  | left event place => by_cases here : place = index <;> simp [Act.passage?, Act.visit?, here]
  | _ => rfl

/-- Unless a hook has failed, all visits are fine. -/
theorem isFine_of_isCalm {acts : List (Act κ)} (calm : isCalm acts) {visit : Visit κ}
    (made : visit ∈ visits acts) : visit.isFine :=
  calm _ (List.mem_filterMap.mpr ⟨_, mem_visits.mp made, rfl⟩)

namespace Recorded

variable {events taken index : Nat} {pool : Pool κ ω} {acts : List (Act κ)} {gate : Gate}

/-- At a gate the visits are those of the first events. -/
theorem event_visitsAt (recorded : Recorded index acts pool gate)
    (orderly : Orderly events taken pool) (found : pool.gate? index = some gate) :
    ∃ count, (visitsAt index (visits acts)).map Visit.event = List.range' 1 count := by
  obtain ⟨count, -, ⟨rest, trace⟩, -⟩ := recorded.granted_eq orderly found
  have split := congrArg runners trace
  rw [runners_append, runners_passages, runners_passagesUpTo] at split
  obtain ⟨ran, -, ran_eq, -⟩ := List.range'_eq_append_iff.mp split.symm
  exact ⟨ran, ran_eq⟩

/-- The event that is about to run at a gate comes after those that did. -/
theorem event_of_running (recorded : Recorded index acts pool gate)
    (orderly : Orderly events taken pool) (found : pool.gate? index = some gate) {i event : Nat}
    {data : EventData κ} (was : pool.stage? i = some (.running event data index)) :
    event = (visitsAt index (visits acts)).length + 1 := by
  have bounds := orderly.turn found
  obtain ⟨flight, carries, turn, -⟩ := orderly.event_of_inside found was rfl
  have carried : pool.flight? i = some ⟨event, 3 * index + 1⟩ := Pool.flight?_of_stage? was
  obtain rfl := Option.some.inj (carries.symm.trans carried)
  have none_ran : runners (Stage.running event data index : Stage κ).begun = [] := rfl
  have trace := congrArg runners (recorded.held was rfl)
  rw [runners_append, runners_passages, runners_passagesUpTo, none_ran,
    List.append_nil] at trace
  have size := congrArg List.length trace
  rw [List.length_map, List.length_range'] at size
  simp only at turn
  omega

end Recorded

/-! ## What a step does to the instances -/

namespace RunPlan

/-- What a step does to the counts and to the own states of the instances. -/
inductive Deed [DecidableEq κ] (plan : RunPlan κ ω) (own : (i : Nat) → ω → σ i)
    (pool next : Pool κ ω) : Stage κ → Option (Act κ) → Prop where
  /-- No event is offered to an instance.  If a hook is called it ends well. -/
  | idle {old : Stage κ} {act : Option (Act κ)} (unvisited : act.bind Act.visit? = none)
      (fine : ∀ outcome ∈ act.bind Act.hook?, outcome = .ok ())
      (tallies_eq : next.tallies = pool.tallies)
      (kept : ∀ j, own j next.env.world = own j pool.env.world) : Deed plan own pool next old act
  /-- An event is offered to an instance. -/
  | offer {event index : Nat} {data : EventData κ} {inst : Instance κ ω}
      {state : EventState κ ω} (found : plan.instances[index]? = some inst)
      (data_eq : state.data = data) (world_eq : state.env.world = pool.env.world)
      (tallies_eq : next.tallies
        = (inst.visitBy plan.messenger event index state).enter pool.tallies)
      (after_eq : next.env.world = (inst.runEvent plan.messenger state).2.env.world) :
      Deed plan own pool next (.running event data index)
        (some (.offered (inst.visitBy plan.messenger event index state)))

section Steps

variable {plan : RunPlan κ ω} {own : (i : Nat) → ω → σ i} {events : Nat} {pool : Pool κ ω}
  {worker : Worker κ}

/-- Calling a steady hook on a thread ends well and changes nobody's own state. -/
theorem perform_steady {hook : Hook ω Unit} (steady : hook.Steady own (.ok ()))
    (inst : Instance κ ω) (letter : String) (phase : Phase) (pool : Pool κ ω)
    (thread : ThreadId) :
    (pool.perform thread (inst.call letter phase hook.exec)).1 = .ok () ∧
      (pool.perform thread (inst.call letter phase hook.exec)).2.tallies = pool.tallies ∧
      ∀ j, own j (pool.perform thread (inst.call letter phase hook.exec)).2.env.world
        = own j pool.env.world := by
  simp only [Pool.perform, Proc.onThread, Instance.call, Proc.within, Proc.mapError,
    steady.ends]
  exact ⟨rfl, trivial, steady.keeps _⟩

variable [DecidableEq κ]

/-- Where the counts and the world stay the same, nothing is done to the
instances. -/
theorem Deed.of_eq {next : Pool κ ω} {old : Stage κ} {act : Option (Act κ)}
    (unvisited : act.bind Act.visit? = none) (uncalled : act.bind Act.hook? = none)
    (tallies_eq : next.tallies = pool.tallies) (world_eq : next.env.world = pool.env.world) :
    Deed plan own pool next old act := by
  refine .idle unvisited ?_ tallies_eq fun j => by rw [world_eq]
  rw [uncalled]
  exact nofun

theorem deed_start (independent : plan.Independent own) {index : Nat}
    (stage : worker.stage = .starting index) :
    Deed plan own pool (plan.start pool worker index).1 (.starting index)
      (plan.act? events pool worker) := by
  simp only [start, act?, stage]
  cases found : plan.instances[index]? with
  | none => exact .of_eq rfl rfl rfl rfl
  | some inst =>
    obtain ⟨ends, tallies_eq, kept⟩ := perform_steady
      (independent.threadInit inst (List.mem_of_getElem? found)) inst "I" .threadInit pool
      worker.thread
    rw [← Instance.threadInit] at ends tallies_eq kept
    simp only [Option.map_some, ends]
    generalize pool.perform worker.thread inst.threadInit = result at ends tallies_eq kept
    obtain ⟨outcome, after⟩ := result
    obtain rfl : outcome = .ok () := ends
    refine .idle rfl ?_ tallies_eq kept
    intro outcome called
    exact (Option.some.inj called).symm

theorem deed_finish (independent : plan.Independent own) {result : Except Error Unit}
    {index : Nat} (stage : worker.stage = .finishing result index) :
    Deed plan own pool (plan.finish pool worker result index).1 (.finishing result index)
      (plan.act? events pool worker) := by
  simp only [finish, act?, stage]
  cases found : plan.instances[index]? with
  | none => cases result <;> exact .of_eq rfl rfl rfl rfl
  | some inst =>
    obtain ⟨ends, tallies_eq, kept⟩ := perform_steady
      (independent.threadFinalize inst (List.mem_of_getElem? found)) inst "F" .threadFinalize
      pool worker.thread
    rw [← Instance.threadFinalize] at ends tallies_eq kept
    simp only [Option.map_some, ends]
    generalize pool.perform worker.thread inst.threadFinalize = performed
      at ends tallies_eq kept
    obtain ⟨outcome, after⟩ := performed
    obtain rfl : outcome = .ok () := ends
    refine .idle rfl ?_ tallies_eq kept
    intro outcome called
    exact (Option.some.inj called).symm

theorem deed_arrive {event index : Nat} {data : EventData κ}
    (stage : worker.stage = .arriving event data index) :
    Deed plan own pool pool (.arriving event data index) (plan.act? events pool worker) := by
  simp only [act?, stage]
  split
  · split <;> exact .of_eq rfl rfl rfl rfl
  · split <;> exact .of_eq rfl rfl rfl rfl

theorem deed_visitAt {event index : Nat} {data : EventData κ} {inst : Instance κ ω}
    (stage : worker.stage = .running event data index)
    (found : plan.instances[index]? = some inst) :
    Deed plan own pool (plan.visitAt pool worker event data index inst).1
      (.running event data index) (plan.act? events pool worker) := by
  simp only [act?, stage, found, Option.map_some, visitOf]
  refine .offer found rfl rfl ?_ ?_
  · simp only [visitAt, Proc.onThread, inst.offer_eq plan.messenger event]
    rfl
  · simp only [visitAt, Proc.onThread, inst.offer_eq plan.messenger event]
    rfl

/-- Every step of a worker does as much to the instances. -/
theorem deed_of_advance? (independent : plan.Independent own) {choice : Choice}
    {middle : Pool κ ω} {after : Worker κ}
    (advanced : plan.advance? events pool choice worker = some (middle, after)) :
    Deed plan own pool middle worker.stage (plan.act? events pool worker) := by
  have advance := advance_of_advance? advanced
  generalize stage : worker.stage = old at advance ⊢
  generalize after.stage = new at advance
  cases advance with
  | started => exact deed_start independent stage
  | claimed =>
    simp only [claim, act?, stage]
    split <;> exact .of_eq rfl rfl rfl rfl
  | arrived inside arrived => exact deed_arrive stage
  | completed => exact deed_arrive stage
  | overflowed => exact deed_arrive stage
  | visited found => exact deed_visitAt stage found
  | @left event index data outcome =>
    simp only [act?, stage]
    cases outcome <;> exact .of_eq rfl rfl rfl rfl
  | @unwound text what =>
    simp only [act?, stage]
    cases what <;> exact .of_eq rfl rfl rfl rfl
  | finished => exact deed_finish independent stage
  | failed =>
    simp only [act?, stage, Pool.keepFailure]
    split <;> exact .of_eq rfl rfl rfl rfl
  | released =>
    simp only [act?, stage, release]
    split <;> exact .of_eq rfl rfl rfl rfl
  | _ =>
    simp only [act?, stage]
    exact .of_eq rfl rfl rfl rfl

/-- Every step of a pool does as much to the instances. -/
theorem deed_of_step? (independent : plan.Independent own) {choice : Choice}
    {next : Pool κ ω} (found : pool.workers[choice.worker]? = some worker)
    (step : plan.step? events pool choice = some next) :
    Deed plan own pool next worker.stage (plan.act? events pool worker) := by
  obtain ⟨same, middle, after, found', advanced, rfl⟩ := exists_of_step? step
  obtain rfl : worker = same := Option.some.inj (found.symm.trans found')
  have deed := deed_of_advance? independent advanced
  generalize worker.stage = old at deed ⊢
  generalize plan.act? events pool worker = act at deed ⊢
  cases deed with
  | idle unvisited fine tallies_eq kept => exact .idle unvisited fine tallies_eq kept
  | offer found data_eq world_eq tallies_eq after_eq =>
    exact .offer found data_eq world_eq tallies_eq after_eq

end Steps

end RunPlan

/-! ## What an event carries along -/

/-- An event on its way, with the number of instances that it was offered to. -/
structure Cargo (κ : Type) [Payload κ] where
  event : Nat
  offers : Nat
  data : EventData κ

namespace Stage

/-- What the event of a worker carries along. -/
def cargo? : Stage κ → Option (Cargo κ)
  | .arriving event data index => some ⟨event, index, data⟩
  | .running event data index => some ⟨event, index, data⟩
  | .leaving event data index _ => some ⟨event, index + 1, data⟩
  | _ => none

theorem cargo?_of_flight? {stage : Stage κ} (still : stage.flight? = none) :
    stage.cargo? = none := by
  cases stage with
  | arriving => cases still
  | running => cases still
  | leaving => cases still
  | _ => rfl

end Stage

/-- What an event carries along is what it had before, but for an event that was
just taken or just offered to an instance. -/
theorem RunPlan.Course.cargo_cases {plan : RunPlan κ ω} {events : Nat} {pool next : Pool κ ω}
    {old new : Stage κ} {act : Option (Act κ)}
    (course : RunPlan.Course plan events pool next.next next.gates old new act)
    {cargo : Cargo κ} (carries : new.cargo? = some cargo) :
    old.cargo? = some cargo ∨ cargo = ⟨pool.next, 0, plan.startEvent pool.next⟩ ∨
      ∃ visit, act.bind Act.visit? = some visit ∧
        cargo = ⟨visit.event, visit.index + 1, visit.after⟩ := by
  cases course with
  | aside _ _ still =>
    rw [Stage.cargo?_of_flight? still] at carries
    cases carries
  | took => exact .inr (.inl (Option.some.inj carries).symm)
  | entered => exact .inl carries
  | ran event_eq index_eq =>
    subst event_eq index_eq
    exact .inr (.inr ⟨_, rfl, (Option.some.inj carries).symm⟩)
  | passed => exact .inl carries
  | dropped _ still =>
    rw [Stage.cargo?_of_flight? still] at carries
    cases carries
  | _ => cases carries

/-! ## Keeping to the ledger -/

/-- A pool keeps to the ledger: so do all visits so far, what the events in flight
carry along, the own states of the instances that must see the events in order,
what belongs to no instance, and the counts; and no hook fails but in a visit. -/
structure Loyal [DecidableEq κ] (plan : RunPlan κ ω) (own : (i : Nat) → ω → σ i)
    (tallies : List Tally) (env : Env ω) (acts : List (Act κ)) (pool : Pool κ ω) : Prop where
  foreseen : ∀ {visit}, visit ∈ visits acts → 1 ≤ visit.event ∧
    (plan.forecast env visit.event)[visit.index]? = some visit
  carries : ∀ {i stage cargo}, pool.stage? i = some stage → stage.cargo? = some cargo →
    cargo.data = (plan.ledger env cargo.event cargo.offers).data
  owns : ∀ {index}, plan.isGated index → own index pool.env.world
    = own index (plan.ledgerEnv env (visitsAt index (visits acts)).length).world
  beyond : ∀ {j}, plan.instances.length ≤ j → own j pool.env.world = own j env.world
  tallies_eq : pool.tallies = countVisits tallies (visits acts)
  called : ∀ {outcome}, outcome ∈ hookCalls acts → outcome = .ok () ∨
    ∃ visit ∈ visits acts, outcome = visit.outcome.map fun _ => ()

namespace Loyal

variable [DecidableEq κ] {plan : RunPlan κ ω} {own : (i : Nat) → ω → σ i}
  {tallies : List Tally} {env : Env ω} {events taken i : Nat} {pool next : Pool κ ω}
  {old new : Stage κ} {acts : List (Act κ)} {act : Option (Act κ)}

/-- A step in which no event is offered to an instance. -/
theorem keep (loyal : Loyal plan own tallies env acts pool)
    (moved : pool.Replaces next i old new)
    (course : RunPlan.Course plan events pool next.next next.gates old new act)
    (unvisited : act.bind Act.visit? = none)
    (fine : ∀ outcome ∈ act.bind Act.hook?, outcome = .ok ())
    (tallies_eq : next.tallies = pool.tallies)
    (kept : ∀ j, own j next.env.world = own j pool.env.world) :
    Loyal plan own tallies env (acts ++ act.toList) next := by
  have visits_eq : visits (acts ++ act.toList) = visits acts := visits_of_unvisited unvisited
  refine ⟨?_, ?_, ?_, ?_, ?_, ?_⟩
  · rw [visits_eq]
    exact loyal.foreseen
  · intro j stage cargo was carries
    rcases moved.cases_stage was with ⟨-, rfl⟩ | ⟨-, was⟩
    · rcases course.cargo_cases carries with carried | rfl | ⟨visit, visited, -⟩
      · exact loyal.carries moved.was carried
      · rfl
      · rw [unvisited] at visited
        cases visited
    · exact loyal.carries was carries
  · intro index gated
    rw [visits_eq, kept index]
    exact loyal.owns gated
  · intro j outside
    rw [kept j]
    exact loyal.beyond outside
  · rw [visits_eq, tallies_eq]
    exact loyal.tallies_eq
  · intro outcome called
    rw [hookCalls_append, List.mem_append, Option.mem_toList] at called
    rw [visits_eq]
    rcases called with earlier | now
    · exact loyal.called earlier
    · exact .inl (fine outcome now)

/-- An event that is about to be offered to an instance looks to it like the one
in the ledger. -/
theorem agrees (loyal : Loyal plan own tallies env acts pool)
    (independent : plan.Independent own) {event index : Nat} {data : EventData κ}
    (was : pool.stage? i = some (.running event data index))
    (turn : plan.isGated index → event = (visitsAt index (visits acts)).length + 1)
    {inst : Instance κ ω} (found : plan.instances[index]? = some inst)
    {state : EventState κ ω} (data_eq : state.data = data)
    (world_eq : state.env.world = pool.env.world) :
    state.Agrees own index (plan.ledger env event index) := by
  refine ⟨data_eq.trans (loyal.carries was rfl), ?_⟩
  cases safety : inst.module.safety with
  | notThreadSafe => exact absurd safety (independent.safe inst (List.mem_of_getElem? found))
  | threadSafe => exact independent.stateless found safety _ _
  | sequential =>
    have gated : plan.isGated index := ⟨inst, found, safety⟩
    rw [world_eq, loyal.owns gated, independent.own_ledger, turn gated, Nat.add_sub_cancel]

/-- An event that is offered to an instance makes its visit in the ledger, and leaves
what it carries along and the own state of the instance as the ledger says. -/
theorem foreseen_visit (loyal : Loyal plan own tallies env acts pool)
    (independent : plan.Independent own) {event index : Nat} {data : EventData κ}
    (was : pool.stage? i = some (.running event data index)) (least : 1 ≤ event)
    (turn : plan.isGated index → event = (visitsAt index (visits acts)).length + 1)
    {inst : Instance κ ω} (found : plan.instances[index]? = some inst)
    {state : EventState κ ω} (data_eq : state.data = data)
    (world_eq : state.env.world = pool.env.world) :
    (plan.forecast env event)[index]? = some (inst.visitBy plan.messenger event index state) ∧
      (inst.visitBy plan.messenger event index state).after
        = (plan.ledger env event (index + 1)).data ∧
      own index (inst.runEvent plan.messenger state).2.env.world
        = own index (plan.ledgerEnv env event).world ∧
      state.Frames own index (inst.runEvent plan.messenger state).2 := by
  have agrees := loyal.agrees independent was turn found data_eq world_eq
  have visit_eq := inst.visitBy_agrees independent.listeners (independent.confined found)
    agrees event
  obtain ⟨-, agrees', -, frames⟩ := inst.runEvent_agrees independent.listeners
    (independent.confined found) agrees
  refine ⟨?_, ?_, ?_, frames⟩
  · rw [RunPlan.getElem?_forecast, found, visit_eq]
    rfl
  · rw [visit_eq, RunPlan.ledger_succ found]
    rfl
  · obtain ⟨count, rfl⟩ : ∃ count, event = count + 1 := ⟨event - 1, by omega⟩
    rw [independent.own_ledgerEnv (List.getElem?_eq_some_iff.mp found).1,
      RunPlan.ledger_succ found]
    exact agrees'.own_eq

/-- A step in which an event is offered to an instance. -/
theorem offer (loyal : Loyal plan own tallies env acts pool)
    (independent : plan.Independent own) {event index : Nat} {data : EventData κ}
    {inst : Instance κ ω} {state : EventState κ ω}
    (moved : pool.Replaces next i (.running event data index) new)
    (course : RunPlan.Course plan events pool next.next next.gates
      (.running event data index) new
      (some (.offered (inst.visitBy plan.messenger event index state))))
    (least : 1 ≤ event)
    (turn : plan.isGated index → event = (visitsAt index (visits acts)).length + 1)
    (found : plan.instances[index]? = some inst) (data_eq : state.data = data)
    (world_eq : state.env.world = pool.env.world)
    (tallies_eq : next.tallies
      = (inst.visitBy plan.messenger event index state).enter pool.tallies)
    (after_eq : next.env.world = (inst.runEvent plan.messenger state).2.env.world) :
    Loyal plan own tallies env
      (acts ++ [.offered (inst.visitBy plan.messenger event index state)]) next := by
  obtain ⟨foreseen, after_data, after_own, frames⟩ :=
    loyal.foreseen_visit independent moved.was least turn found data_eq world_eq
  rw [← after_eq] at after_own
  have event_is : (inst.visitBy plan.messenger event index state).event = event := rfl
  have index_is : (inst.visitBy plan.messenger event index state).index = index := rfl
  generalize inst.visitBy plan.messenger event index state = visit at *
  subst event_is index_is
  have visits_eq : visits (acts ++ [.offered visit]) = visits acts ++ [visit] := by
    simp [visits, Act.visit?]
  refine ⟨?_, ?_, ?_, ?_, ?_, ?_⟩
  · intro other made
    rw [visits_eq, List.mem_append, List.mem_singleton] at made
    rcases made with earlier | rfl
    · exact loyal.foreseen earlier
    · exact ⟨least, foreseen⟩
  · intro j stage cargo was carries
    rcases moved.cases_stage was with ⟨-, rfl⟩ | ⟨-, was⟩
    · rcases course.cargo_cases carries with carried | rfl | ⟨other, visited, rfl⟩
      · exact loyal.carries moved.was carried
      · rfl
      · obtain rfl := Option.some.inj visited
        exact after_data
    · exact loyal.carries was carries
  · intro place gated
    rw [visits_eq, visitsAt, List.filter_append, List.length_append, ← visitsAt]
    by_cases here : visit.index = place
    · subst here
      rw [after_own, turn gated]
      simp
    · rw [after_eq, frames place (Ne.symm here), world_eq, loyal.owns gated]
      simp [here]
  · intro j outside
    have apart : j ≠ visit.index :=
      (Nat.ne_of_lt (Nat.lt_of_lt_of_le (List.getElem?_eq_some_iff.mp found).1 outside)).symm
    rw [after_eq, frames j apart, world_eq]
    exact loyal.beyond outside
  · rw [visits_eq, countVisits_append, ← loyal.tallies_eq, tallies_eq]
    rfl
  · intro outcome called
    rw [visits_eq]
    rw [hookCalls, List.filterMap_append, List.mem_append, ← hookCalls] at called
    rcases called with earlier | now
    · rcases loyal.called earlier with fine | ⟨other, made, outcome_eq⟩
      · exact .inl fine
      · exact .inr ⟨other, List.mem_append_left _ made, outcome_eq⟩
    · refine .inr ⟨visit, List.mem_append_right _ List.mem_cons_self, ?_⟩
      simpa [Act.hook?] using now

end Loyal

namespace RunPlan

variable [DecidableEq κ] {plan : RunPlan κ ω} {own : (i : Nat) → ω → σ i}
  {events workers : Nat} {tallies : List Tally} {env : Env ω} {acts : List (Act κ)}
  {pool : Pool κ ω}

/-- Whatever the scheduler decides, the pool keeps to the ledger. -/
theorem History.loyal (independent : plan.Independent own) (fits : events + workers < 2 ^ 64)
    (history : plan.History events (plan.startPool workers tallies env) acts pool) :
    Loyal plan own tallies env acts pool := by
  induction history with
  | start =>
    refine ⟨nofun, ?_, fun _ => rfl, fun _ => rfl, rfl, nofun⟩
    intro i stage cargo was carries
    rw [stage?_startPool was] at carries
    cases carries
  | @step acts pool next worker choice before found step ih =>
    obtain ⟨new, moved, course⟩ := course_of_step? plan events _ _ found step
    have orderly := (before.orderly fits).2
    have deed := deed_of_step? independent found step
    generalize worker.stage = old at moved course deed
    generalize plan.act? events pool worker = act at course deed ⊢
    cases deed with
    | idle unvisited fine tallies_eq kept =>
      exact ih.keep moved course unvisited fine tallies_eq kept
    | @offer event index data inst state known data_eq world_eq tallies_eq after_eq =>
      have least := (orderly.carried (moved.flight_was.trans rfl)).1
      refine ih.offer independent moved course least ?_ known data_eq world_eq tallies_eq
        after_eq
      intro gated
      obtain ⟨gate, gate_found⟩ := (before.gate?_iff index).mpr gated
      exact (before.recorded fits gate_found).event_of_running orderly gate_found moved.was

end RunPlan

end DetectorSim
