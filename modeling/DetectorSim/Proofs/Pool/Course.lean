import Mathlib.Algebra.Order.BigOperators.Group.List
import Mathlib.Algebra.Order.Group.Nat
import Mathlib.Algebra.Ring.Nat
import DetectorSim.Proofs.Pool.History

/-!
# The course of events through a pool

What a step does to the counter, to the gates and to the events in flight is
said once here, as a relation between the stage of a worker and its next stage.
An event in flight has three marks at each instance: before it comes in, while
it is inside, and before it goes out.
-/

set_option autoImplicit false

namespace DetectorSim

variable {κ ω : Type} [Payload κ]

/-! ## Events in flight -/

/-- An event that a worker carries.  At the instance with index `i` its mark is
`3 * i` before it comes in, one more inside, and two more before it goes out. -/
structure Flight where
  event : Nat
  mark : Nat
  deriving DecidableEq, Repr

namespace Stage

/-- The event that a worker carries. -/
def flight? : Stage κ → Option Flight
  | .arriving event _ index => some ⟨event, 3 * index⟩
  | .running event _ index => some ⟨event, 3 * index + 1⟩
  | .leaving event _ index _ => some ⟨event, 3 * index + 2⟩
  | _ => none

/-- Whether a worker may take further events. -/
def isOpen : Stage κ → Bool
  | .waiting | .starting _ | .checking | .claiming => true
  | .arriving .. | .running .. | .leaving .. => true
  | _ => false

/-- Whether a worker is bound to abort the gate with an index. -/
def alarms : Stage κ → Nat → Prop
  | .unwinding .., _ => True
  | .closing (.error _), _ => True
  | .finishing (.error _) _, _ => True
  | .failing _, _ => True
  | .raising, _ => True
  | .releasing first, index => first ≤ index
  | _, _ => False

/-- Whether an event is inside the instance with an index. -/
def isInside : Stage κ → Nat → Prop
  | .running _ _ place, index => place = index
  | .leaving _ _ place _, index => place = index
  | _, _ => False

/-- A bound for the steps that a worker still makes with a number of instances
before it takes another event. -/
def rank (count : Nat) : Stage κ → Nat
  | .waiting => 3 * count + 11
  | .starting index => 2 * count + 10 + (count - index)
  | .arriving _ _ index => 2 * count + 10 + 3 * (count - index)
  | .running _ _ index => 2 * count + 9 + 3 * (count - index)
  | .leaving _ _ index _ => 2 * count + 8 + 3 * (count - index)
  | .checking => 2 * count + 9
  | .claiming => 2 * count + 8
  | .unwinding _ .event => 2 * count + 7
  | .closing _ => 2 * count + 6
  | .finishing _ index => count + 5 + (count - index)
  | .unwinding _ .thread => count + 4
  | .failing _ => count + 3
  | .raising => count + 2
  | .releasing index => 1 + (count - index)
  | .ended => 0

/-- Whether a worker is about to go out of an instance that has failed. -/
def isDoomed : Stage κ → Prop
  | .leaving _ _ _ outcome => outcome ≠ .ok ()
  | _ => False

end Stage

/-- Acts in which no event goes in to an instance, is offered to it or goes out. -/
def Act.isApart : Act κ → Prop
  | .hooked .. => True
  | .overflowed => True
  | .contained _ => True
  | _ => False

/-- Nothing is picked from an act in which no event moves. -/
theorem Act.unseen_of_isApart {act : Option (Act κ)} (apart : ∀ a ∈ act, a.isApart) :
    act.bind Act.taken? = none ∧ act.bind Act.visit? = none ∧
      ∀ index, act.bind (Act.passage? index) = none := by
  cases act with
  | none => exact ⟨rfl, rfl, fun _ => rfl⟩
  | some a =>
    cases a with
    | hooked => exact ⟨rfl, rfl, fun _ => rfl⟩
    | overflowed => exact ⟨rfl, rfl, fun _ => rfl⟩
    | contained => exact ⟨rfl, rfl, fun _ => rfl⟩
    | _ => exact (apart _ rfl).elim

namespace Pool

/-- The stage of the worker with an index. -/
def stage? (pool : Pool κ ω) (i : Nat) : Option (Stage κ) :=
  pool.workers[i]?.map Worker.stage

/-- The event that the worker with an index carries. -/
def flight? (pool : Pool κ ω) (i : Nat) : Option Flight :=
  (pool.stage? i).bind Stage.flight?

theorem flight?_of_stage? {pool : Pool κ ω} {i : Nat} {stage : Stage κ}
    (was : pool.stage? i = some stage) : pool.flight? i = stage.flight? := by
  rw [flight?, was, Option.bind_some]

/-- The sum of the weights of the stages of all workers. -/
def weight (f : Stage κ → Nat) (pool : Pool κ ω) : Nat :=
  (pool.workers.map fun worker => f worker.stage).sum

/-- The number of workers that take no further events. -/
def retired (pool : Pool κ ω) : Nat :=
  pool.weight fun stage => if stage.isOpen then 0 else 1

/-- One worker goes from a stage to another one; all others stay where they
are. -/
structure Replaces (pool next : Pool κ ω) (i : Nat) (old new : Stage κ) : Prop where
  was : pool.stage? i = some old
  now : ∀ j, next.stage? j = if j = i then some new else pool.stage? j
  size : next.workers.length = pool.workers.length
  weigh : ∀ f, next.weight f + f old = pool.weight f + f new

/-- Replacing a worker replaces its part of a sum over all workers. -/
theorem sum_map_set {workers : List (Worker κ)} {i : Nat} {worker : Worker κ}
    (found : workers[i]? = some worker) (after : Worker κ) (f : Worker κ → Nat) :
    ((workers.set i after).map f).sum + f worker = (workers.map f).sum + f after := by
  obtain ⟨inside, rfl⟩ := List.getElem?_eq_some_iff.mp found
  have inside' : i < (workers.map f).length := by rwa [List.length_map]
  have split := List.sum_take_add_sum_drop (workers.map f) i
  rw [List.drop_eq_getElem_cons inside', List.sum_cons, List.getElem_map] at split
  rw [List.map_set, List.sum_set, if_pos inside', ← split]
  omega

/-- Replacing a worker in the list replaces its stage. -/
theorem replaces_of_set {pool next : Pool κ ω} {i : Nat} {worker after : Worker κ}
    (found : pool.workers[i]? = some worker)
    (workers_eq : next.workers = pool.workers.set i after) :
    Replaces pool next i worker.stage after.stage := by
  obtain ⟨inside, rfl⟩ := List.getElem?_eq_some_iff.mp found
  refine ⟨by simp [stage?, inside], ?_, by simp [workers_eq], ?_⟩
  · intro j
    by_cases same : j = i
    · subst same
      simp [stage?, workers_eq, inside]
    · simp [stage?, workers_eq, same, List.getElem?_set_ne (Ne.symm same)]
  · intro f
    rw [weight, workers_eq]
    exact sum_map_set found after fun worker => f worker.stage

/-- A worker that may take events leaves room among those that may not. -/
theorem retired_lt {pool : Pool κ ω} {i : Nat} {stage : Stage κ}
    (was : pool.stage? i = some stage) (opened : stage.isOpen = true) :
    pool.retired < pool.workers.length := by
  obtain ⟨worker, found, rfl⟩ := Option.map_eq_some_iff.mp was
  have below := List.sum_lt_sum
    (fun worker : Worker κ => if worker.stage.isOpen then 0 else 1) (fun _ => 1)
    (l := pool.workers) (fun worker _ => by split <;> omega)
    ⟨worker, List.mem_of_getElem? found, by simp [opened]⟩
  rw [List.map_const', List.sum_replicate_nat, Nat.mul_one] at below
  exact below

namespace Replaces

variable {pool next : Pool κ ω} {i : Nat} {old new : Stage κ}

theorem here (moved : Replaces pool next i old new) : next.stage? i = some new := by
  rw [moved.now i, if_pos rfl]

theorem stays (moved : Replaces pool next i old new) {j : Nat} {stage : Stage κ}
    (other : j ≠ i) (was : pool.stage? j = some stage) : next.stage? j = some stage := by
  rwa [moved.now j, if_neg other]

/-- A worker is at the new stage, or is another one and stayed. -/
theorem cases_stage (moved : Replaces pool next i old new) {j : Nat} {stage : Stage κ}
    (now : next.stage? j = some stage) :
    j = i ∧ stage = new ∨ j ≠ i ∧ pool.stage? j = some stage := by
  rw [moved.now j] at now
  split at now
  · next same => exact .inl ⟨same, (Option.some.inj now).symm⟩
  · next other => exact .inr ⟨other, now⟩

theorem retired_add (moved : Replaces pool next i old new) :
    next.retired + (if old.isOpen then 0 else 1)
      = pool.retired + (if new.isOpen then 0 else 1) :=
  moved.weigh _

/-- The worker carried the event of its old stage. -/
theorem flight_was (moved : Replaces pool next i old new) :
    pool.flight? i = old.flight? :=
  flight?_of_stage? moved.was

theorem flight_now (moved : Replaces pool next i old new) :
    next.flight? i = new.flight? :=
  flight?_of_stage? moved.here

theorem flight_stays (moved : Replaces pool next i old new) {j : Nat} {flight : Flight}
    (other : j ≠ i) (carries : pool.flight? j = some flight) :
    next.flight? j = some flight := by
  rwa [Pool.flight?, moved.now j, if_neg other]

/-- An event in flight is that of the new stage, or was in flight before. -/
theorem cases_flight (moved : Replaces pool next i old new) {j : Nat} {flight : Flight}
    (carries : next.flight? j = some flight) :
    j = i ∧ new.flight? = some flight ∨ j ≠ i ∧ pool.flight? j = some flight := by
  obtain ⟨stage, now, flown⟩ := Option.bind_eq_some_iff.mp carries
  rcases moved.cases_stage now with ⟨same, rfl⟩ | ⟨other, was⟩
  · exact .inl ⟨same, flown⟩
  · exact .inr ⟨other, (flight?_of_stage? was).trans flown⟩

end Replaces

/-- Gates depend on nothing but their list. -/
theorem gate?_congr {pool next : Pool κ ω} (gates_eq : next.gates = pool.gates)
    (index : Nat) : next.gate? index = pool.gate? index := by
  rw [gate?, gate?, gates_eq]

/-- Changing a gate changes no other. -/
theorem gate?_of_modify {pool next : Pool κ ω} {index : Nat} {f : Gate → Gate}
    (gates_eq : next.gates = pool.gates.modify index (Option.map f)) (other : Nat) :
    next.gate? other = if index = other then (pool.gate? other).map f else pool.gate? other := by
  unfold gate?
  rw [gates_eq, List.getElem?_modify]
  cases pool.gates[other]? with
  | none => simp
  | some gate =>
    by_cases same : index = other
    · cases gate <;> simp [same]
    · simp [same]

/-- After a gate was changed, each gate is one that was there. -/
theorem exists_gate?_of_modify {pool next : Pool κ ω} {index : Nat} {f : Gate → Gate}
    (gates_eq : next.gates = pool.gates.modify index (Option.map f)) {other : Nat}
    {gate : Gate} (found : next.gate? other = some gate) :
    ∃ before, pool.gate? other = some before ∧
      gate = if index = other then f before else before := by
  rw [gate?_of_modify gates_eq] at found
  split at found
  · next same =>
    obtain ⟨before, found', rfl⟩ := Option.map_eq_some_iff.mp found
    exact ⟨before, found', by rw [if_pos same]⟩
  · next apart => exact ⟨gate, found, by rw [if_neg apart]⟩

end Pool

namespace RunPlan

/-! ## Steps of a worker -/

/-- What a step of a worker makes of its stage and of the pool, stage by stage. -/
inductive Advance [DecidableEq κ] (plan : RunPlan κ ω) (events : Nat) (pool : Pool κ ω)
    (choice : Choice) (worker : Worker κ) : Stage κ → Pool κ ω → Stage κ → Prop where
  | woken : Advance plan events pool choice worker .waiting pool (.starting 0)
  | started {index : Nat} : Advance plan events pool choice worker (.starting index)
      (plan.start pool worker index).1 (plan.start pool worker index).2
  | checked : Advance plan events pool choice worker .checking pool
      (if pool.aborted then .closing (.ok ()) else .claiming)
  | claimed : Advance plan events pool choice worker .claiming
      (plan.claim events pool worker).1 (plan.claim events pool worker).2
  | arrived {event index : Nat} {data : EventData κ} {new : Stage κ}
      (inside : index < plan.instances.length)
      (arrived : arrive? pool event data index = some new) :
      Advance plan events pool choice worker (.arriving event data index) pool new
  | completed {event index : Nat} {data : EventData κ} (beyond : ¬ index < plan.instances.length)
      (room : worker.hasRoom = true) :
      Advance plan events pool choice worker (.arriving event data index) pool .checking
  | overflowed {event index : Nat} {data : EventData κ} (beyond : ¬ index < plan.instances.length)
      (full : worker.hasRoom = false) :
      Advance plan events pool choice worker (.arriving event data index) pool
        (.unwinding overflowText .thread)
  | visited {event index : Nat} {data : EventData κ} {inst : Instance κ ω}
      (found : plan.instances[index]? = some inst) :
      Advance plan events pool choice worker (.running event data index)
        (plan.visitAt pool worker event data index inst).1
        (plan.visitAt pool worker event data index inst).2
  | left {event index : Nat} {data : EventData κ} {outcome : Outcome Unit} :
      Advance plan events pool choice worker (.leaving event data index outcome)
        (leave pool event data index outcome).1 (leave pool event data index outcome).2
  | unwound {text : String} {what : Interrupted} :
      Advance plan events pool choice worker (.unwinding text what) (unwind pool text what).1
        (unwind pool text what).2
  | closed {result : Except Error Unit} {text : String} :
      Advance plan events pool choice worker (.closing result)
        (pool.note worker.thread .debug text) (.finishing result 0)
  | finished {result : Except Error Unit} {index : Nat} :
      Advance plan events pool choice worker (.finishing result index)
        (plan.finish pool worker result index).1 (plan.finish pool worker result index).2
  | failed {err : Error} : Advance plan events pool choice worker (.failing err)
      (pool.keepFailure worker.thread err) .raising
  | raised : Advance plan events pool choice worker .raising { pool with aborted := true }
      (.releasing 0)
  | released {index : Nat} : Advance plan events pool choice worker (.releasing index)
      (release pool index).1 (release pool index).2

/-- A worker goes from its stage to the next one. -/
theorem advance_of_advance? [DecidableEq κ] {plan : RunPlan κ ω} {events : Nat}
    {pool middle : Pool κ ω} {choice : Choice} {worker after : Worker κ}
    (advanced : plan.advance? events pool choice worker = some (middle, after)) :
    Advance plan events pool choice worker worker.stage middle after.stage := by
  unfold advance? at advanced
  cases stage : worker.stage with
  | waiting =>
    simp only [stage] at advanced
    split at advanced
    · obtain ⟨rfl, rfl⟩ := Prod.mk.inj (Option.some.inj advanced)
      exact .woken
    · cases advanced
  | starting index =>
    simp only [stage] at advanced
    obtain ⟨rfl, rfl⟩ := Prod.mk.inj (Option.some.inj advanced)
    exact .started
  | checking =>
    simp only [stage] at advanced
    obtain ⟨rfl, rfl⟩ := Prod.mk.inj (Option.some.inj advanced)
    exact .checked
  | claiming =>
    simp only [stage] at advanced
    obtain ⟨rfl, rfl⟩ := Prod.mk.inj (Option.some.inj advanced)
    exact .claimed
  | arriving event data index =>
    simp only [stage] at advanced
    split at advanced
    · next inside =>
      obtain ⟨new, arrived, advanced⟩ := Option.bind_eq_some_iff.mp advanced
      obtain ⟨rfl, rfl⟩ := Prod.mk.inj (Option.some.inj advanced)
      exact .arrived inside arrived
    · next beyond =>
      obtain ⟨rfl, rfl⟩ := Prod.mk.inj (Option.some.inj advanced)
      cases room : worker.hasRoom with
      | true =>
        rw [Worker.countEvent_of_room room]
        exact .completed beyond room
      | false =>
        rw [Worker.countEvent_of_full room]
        exact .overflowed beyond room
  | running event data index =>
    simp only [stage] at advanced
    obtain ⟨inst, found, advanced⟩ := Option.bind_eq_some_iff.mp advanced
    obtain ⟨rfl, rfl⟩ := Prod.mk.inj (Option.some.inj advanced)
    exact .visited found
  | leaving event data index outcome =>
    simp only [stage] at advanced
    obtain ⟨rfl, rfl⟩ := Prod.mk.inj (Option.some.inj advanced)
    exact .left
  | unwinding text what =>
    simp only [stage] at advanced
    obtain ⟨rfl, rfl⟩ := Prod.mk.inj (Option.some.inj advanced)
    exact .unwound
  | closing result =>
    simp only [stage] at advanced
    obtain ⟨rfl, rfl⟩ := Prod.mk.inj (Option.some.inj advanced)
    exact .closed
  | finishing result index =>
    simp only [stage] at advanced
    obtain ⟨rfl, rfl⟩ := Prod.mk.inj (Option.some.inj advanced)
    exact .finished
  | failing err =>
    simp only [stage] at advanced
    obtain ⟨rfl, rfl⟩ := Prod.mk.inj (Option.some.inj advanced)
    exact .failed
  | raising =>
    simp only [stage] at advanced
    obtain ⟨rfl, rfl⟩ := Prod.mk.inj (Option.some.inj advanced)
    exact .raised
  | releasing index =>
    simp only [stage] at advanced
    obtain ⟨rfl, rfl⟩ := Prod.mk.inj (Option.some.inj advanced)
    exact .released
  | ended =>
    simp only [stage] at advanced
    cases advanced

/-! ## Courses -/

/-- What a step does: the stage of the worker before and after it, what is seen
of it, and the counter and the gates after it. -/
inductive Course (plan : RunPlan κ ω) (events : Nat) (pool : Pool κ ω) (counter : Nat)
    (gates : List (Option Gate)) : Stage κ → Stage κ → Option (Act κ) → Prop where
  /-- No event takes part. -/
  | aside {old new : Stage κ} {act : Option (Act κ)} (unclaimed : old ≠ .claiming)
      (still : old.flight? = none) (still' : new.flight? = none)
      (opens : new.isOpen = true → old.isOpen = true)
      (alarms : ∀ index, old.alarms index → new.alarms index ∨ pool.gate? index = none)
      (falls : new.rank plan.instances.length < old.rank plan.instances.length)
      (apart : ∀ a ∈ act, a.isApart) (counter_eq : counter = pool.next)
      (gates_eq : gates = pool.gates) : Course plan events pool counter gates old new act
  /-- All events were taken. -/
  | exhausted (beyond : events < pool.next) (counter_eq : counter = (pool.next + 1) % 2 ^ 64)
      (gates_eq : gates = pool.gates) :
      Course plan events pool counter gates .claiming (.closing (.ok ())) none
  /-- An event is taken. -/
  | took (within : pool.next ≤ events) (counter_eq : counter = (pool.next + 1) % 2 ^ 64)
      (gates_eq : gates = pool.gates) :
      Course plan events pool counter gates .claiming
        (.arriving pool.next (plan.startEvent pool.next) 0) (some (.took pool.next))
  /-- An event goes in; at a gate it has the turn. -/
  | entered {event index : Nat} {data : EventData κ} (inside : index < plan.instances.length)
      (turn : ∀ gate, pool.gate? index = some gate → gate.next = event ∧ gate.aborted = false)
      (counter_eq : counter = pool.next) (gates_eq : gates = pool.gates) :
      Course plan events pool counter gates (.arriving event data index)
        (.running event data index) (some (.entered event index))
  /-- An event is turned away at an aborted gate. -/
  | refused {event index : Nat} {data : EventData κ} {gate : Gate}
      (found : pool.gate? index = some gate) (aborted : gate.aborted = true)
      (counter_eq : counter = pool.next) (gates_eq : gates = pool.gates) :
      Course plan events pool counter gates (.arriving event data index)
        (.closing (.error .aborted)) none
  /-- An event has been at all instances. -/
  | completed {event index : Nat} {data : EventData κ}
      (beyond : plan.instances.length ≤ index) (counter_eq : counter = pool.next)
      (gates_eq : gates = pool.gates) :
      Course plan events pool counter gates (.arriving event data index) .checking none
  /-- An event has been at all instances, but there is no room in the count. -/
  | overflowed {event index : Nat} {data : EventData κ}
      (beyond : plan.instances.length ≤ index) (counter_eq : counter = pool.next)
      (gates_eq : gates = pool.gates) :
      Course plan events pool counter gates (.arriving event data index)
        (.unwinding overflowText .thread) (some .overflowed)
  /-- An event is offered to an instance. -/
  | ran {event index : Nat} {data : EventData κ} {visit : Visit κ}
      (event_eq : visit.event = event) (index_eq : visit.index = index)
      (before_eq : visit.before = data) (inside : index < plan.instances.length)
      (counter_eq : counter = pool.next) (gates_eq : gates = pool.gates) :
      Course plan events pool counter gates (.running event data index)
        (.leaving event visit.after index (visit.outcome.map fun _ => ()))
        (some (.offered visit))
  /-- An event goes on to the next instance. -/
  | passed {event index : Nat} {data : EventData κ} (counter_eq : counter = pool.next)
      (gates_eq : gates = pool.gates.modify index (Option.map (·.handOn event))) :
      Course plan events pool counter gates (.leaving event data index (.ok ()))
        (.arriving event data (index + 1)) (some (.left event index))
  /-- An event is given up. -/
  | dropped {event index : Nat} {data : EventData κ} {outcome : Outcome Unit} {new : Stage κ}
      (failed : outcome ≠ .ok ()) (still : new.flight? = none) (shut : new.isOpen = false)
      (alarms : ∀ index, new.alarms index)
      (falls : new.rank plan.instances.length ≤ 2 * plan.instances.length + 7)
      (counter_eq : counter = pool.next)
      (gates_eq : gates = pool.gates.modify index (Option.map (·.handOn event))) :
      Course plan events pool counter gates (.leaving event data index outcome) new
        (some (.left event index))
  /-- A gate is aborted. -/
  | closed {index : Nat} (inside : index < pool.gates.length) (counter_eq : counter = pool.next)
      (gates_eq : gates = pool.gates.modify index (Option.map Gate.abort)) :
      Course plan events pool counter gates (.releasing index) (.releasing (index + 1)) none

/-! ## Every step follows a course -/

section Steps

variable (plan : RunPlan κ ω) (events : Nat) (pool : Pool κ ω) (worker : Worker κ)

/-- A hook that is called on a thread is seen, but no event takes part. -/
theorem isApart_of_hooked {phase : Phase} {index : Nat}
    {outcome : Instance κ ω → Outcome Unit} :
    ∀ a ∈ plan.instances[index]?.map fun inst => (Act.hooked phase index (outcome inst) : Act κ),
      a.isApart := by
  intro a seen
  obtain ⟨inst, -, rfl⟩ := Option.map_eq_some_iff.mp seen
  trivial

/-- Initializing an instance on a thread moves no event. -/
theorem course_start {index : Nat} {act : Option (Act κ)} (apart : ∀ a ∈ act, a.isApart) :
    (plan.start pool worker index).1.workers = pool.workers ∧
      Course plan events pool (plan.start pool worker index).1.next
        (plan.start pool worker index).1.gates (.starting index)
        (plan.start pool worker index).2 act := by
  unfold start
  split
  · refine ⟨rfl, .aside nofun rfl rfl (fun _ => rfl) (fun _ h => h.elim) ?_ apart rfl rfl⟩
    simp only [Stage.rank]
    omega
  · next inst found =>
    obtain ⟨inside, -⟩ := List.getElem?_eq_some_iff.mp found
    simp only [Pool.perform]
    split <;> rename_i result
    all_goals
      obtain ⟨-, rfl⟩ := Prod.mk.inj result
      refine ⟨rfl, .aside nofun rfl rfl (fun _ => rfl) (fun _ h => h.elim) ?_ apart rfl rfl⟩
      simp only [Stage.rank]
      omega

/-- Taking an event moves the counter on. -/
theorem course_claim [DecidableEq κ] (stage : worker.stage = .claiming) :
    (plan.claim events pool worker).1.workers = pool.workers ∧
      Course plan events pool (plan.claim events pool worker).1.next
        (plan.claim events pool worker).1.gates .claiming
        (plan.claim events pool worker).2 (plan.act? events pool worker) := by
  simp only [claim, act?, stage]
  split
  · next beyond => exact ⟨rfl, .exhausted beyond rfl rfl⟩
  · next within => exact ⟨rfl, .took (Nat.le_of_not_lt within) rfl rfl⟩

/-- An event goes in where there is no gate, or where it has the turn. -/
theorem course_arrive [DecidableEq κ] {event index : Nat} {data : EventData κ}
    {new : Stage κ} (stage : worker.stage = .arriving event data index)
    (inside : index < plan.instances.length)
    (arrived : arrive? pool event data index = some new) :
    Course plan events pool pool.next pool.gates (.arriving event data index) new
      (plan.act? events pool worker) := by
  simp only [act?, stage, if_pos inside, arrived]
  unfold arrive? at arrived
  cases found : pool.gate? index with
  | none =>
    simp only [found, Option.some.injEq] at arrived
    subst arrived
    exact .entered inside (by simp [found]) rfl rfl
  | some gate =>
    simp only [found, Gate.wait?] at arrived
    by_cases aborted : gate.aborted = true
    · simp only [aborted, if_true, Option.some.injEq] at arrived
      subst arrived
      exact .refused found aborted rfl rfl
    · by_cases turn : gate.next = event
      · simp only [aborted, turn, if_true, Bool.false_eq_true, if_false,
          Option.some.injEq] at arrived
        subst arrived
        refine .entered inside ?_ rfl rfl
        intro other same
        rw [found, Option.some.injEq] at same
        subst same
        exact ⟨turn, by simpa using aborted⟩
      · simp [aborted, turn] at arrived

/-- Offering an event to an instance is its visit there. -/
theorem visitAt_eq [DecidableEq κ] {event index : Nat} {data : EventData κ}
    {inst : Instance κ ω} :
    (plan.visitAt pool worker event data index inst).2
      = .leaving event (plan.visitOf pool worker event data index inst).after index
          ((plan.visitOf pool worker event data index inst).outcome.map fun _ => ()) := by
  simp only [visitAt, visitOf, Instance.visitBy, Proc.onThread, Instance.offer,
    HasJournal.journal, HasJournal.withJournal]
  generalize inst.runEvent plan.messenger _ = result
  obtain ⟨outcome, state⟩ := result
  cases outcome <;> rfl

/-- Going out of an instance hands on the turn, whatever has happened there. -/
theorem course_leave {event index : Nat} {data : EventData κ} {outcome : Outcome Unit} :
    (leave pool event data index outcome).1.workers = pool.workers ∧
      Course plan events pool (leave pool event data index outcome).1.next
        (leave pool event data index outcome).1.gates (.leaving event data index outcome)
        (leave pool event data index outcome).2 (some (.left event index)) := by
  cases outcome with
  | ok value => exact ⟨rfl, .passed rfl rfl⟩
  | error err =>
    exact ⟨rfl, .dropped (by simp) rfl rfl (fun _ => trivial) (Nat.le_succ _) rfl rfl⟩
  | panic text =>
    exact ⟨rfl, .dropped (by simp) rfl rfl (fun _ => trivial) (Nat.le_refl _) rfl rfl⟩

/-- Making an error of a panic moves no event. -/
theorem course_unwind {text : String} {what : Interrupted} :
    (unwind pool text what).1.workers = pool.workers ∧
      Course plan events pool (unwind pool text what).1.next
        (unwind pool text what).1.gates (.unwinding text what)
        (unwind pool text what).2 (some (.contained text)) := by
  cases what with
  | event =>
    exact ⟨rfl, .aside nofun rfl rfl (fun h => by cases h) (fun _ _ => .inl trivial)
      (Nat.lt_succ_self _) (by simp [Act.isApart]) rfl rfl⟩
  | thread =>
    exact ⟨rfl, .aside nofun rfl rfl (fun h => by cases h) (fun _ _ => .inl trivial)
      (Nat.lt_succ_self _) (by simp [Act.isApart]) rfl rfl⟩

/-- Finalizing an instance on a thread moves no event, and an error stays. -/
theorem course_finish {result : Except Error Unit} {index : Nat} {act : Option (Act κ)}
    (apart : ∀ a ∈ act, a.isApart) :
    (plan.finish pool worker result index).1.workers = pool.workers ∧
      Course plan events pool (plan.finish pool worker result index).1.next
        (plan.finish pool worker result index).1.gates (.finishing result index)
        (plan.finish pool worker result index).2 act := by
  unfold finish
  cases found : plan.instances[index]? with
  | none =>
    cases result with
    | ok value =>
      refine ⟨rfl, .aside nofun rfl rfl (fun h => by cases h) (fun _ h => h.elim) ?_ apart rfl rfl⟩
      simp only [Stage.rank]
      omega
    | error err =>
      refine ⟨rfl, .aside nofun rfl rfl (fun h => by cases h) (fun _ _ => .inl trivial) ?_ apart
        rfl rfl⟩
      simp only [Stage.rank]
      omega
  | some inst =>
    obtain ⟨inside, -⟩ := List.getElem?_eq_some_iff.mp found
    simp only [Pool.perform]
    cases result with
    | ok value =>
      split <;> rename_i performed
      all_goals
        obtain ⟨-, rfl⟩ := Prod.mk.inj performed
        refine ⟨rfl, .aside nofun rfl rfl (fun h => by cases h) (fun _ h => h.elim) ?_ apart rfl
          rfl⟩
        simp only [Stage.rank]
        omega
    | error err =>
      split <;> rename_i performed
      all_goals
        obtain ⟨-, rfl⟩ := Prod.mk.inj performed
        refine ⟨rfl, .aside nofun rfl rfl (fun h => by cases h) (fun _ _ => .inl trivial) ?_ apart
          rfl rfl⟩
        simp only [Stage.rank]
        omega

/-- Gates are aborted one after the other, until there is none any more. -/
theorem course_release {index : Nat} :
    (release pool index).1.workers = pool.workers ∧
      Course plan events pool (release pool index).1.next (release pool index).1.gates
        (.releasing index) (release pool index).2 none := by
  unfold release
  split
  · next inside => exact ⟨rfl, .closed inside rfl rfl⟩
  · next beyond =>
    refine ⟨rfl, .aside nofun rfl rfl (fun h => by cases h) ?_ ?_ (by simp) rfl rfl⟩
    · intro other alarmed
      have absent : pool.gates[other]? = none := by
        rw [List.getElem?_eq_none_iff]
        exact Nat.le_trans (Nat.le_of_not_lt beyond) alarmed
      exact .inr (by simp [Pool.gate?, absent])
    · simp only [Stage.rank]
      omega

/-- Keeping an error leaves the counter and the gates alone. -/
theorem keepFailure_shared (thread : ThreadId) (err : Error) :
    (pool.keepFailure thread err).next = pool.next ∧
      (pool.keepFailure thread err).gates = pool.gates ∧
      (pool.keepFailure thread err).workers = pool.workers := by
  unfold Pool.keepFailure
  split <;> exact ⟨rfl, rfl, rfl⟩

variable [DecidableEq κ]

/-- The step of a worker leaves the list of workers alone and follows a course. -/
theorem course_of_advance? {choice : Choice} {middle : Pool κ ω} {after : Worker κ}
    (advanced : plan.advance? events pool choice worker = some (middle, after)) :
    middle.workers = pool.workers ∧
      Course plan events pool middle.next middle.gates worker.stage after.stage
        (plan.act? events pool worker) := by
  have advance := advance_of_advance? advanced
  generalize stage : worker.stage = old at advance ⊢
  generalize after.stage = new at advance ⊢
  cases advance with
  | woken =>
    refine ⟨rfl, .aside nofun rfl rfl (fun _ => rfl) (fun _ h => h.elim) ?_ (by simp [act?, stage])
      rfl rfl⟩
    simp only [Stage.rank]
    omega
  | started =>
    apply course_start plan events pool worker
    simpa only [act?, stage] using isApart_of_hooked plan
  | checked =>
    refine ⟨rfl, .aside nofun rfl ?_ (fun _ => rfl) (fun _ h => h.elim) ?_ (by simp [act?, stage])
      rfl rfl⟩
    · split <;> rfl
    · split <;> simp [Stage.rank]
  | claimed => exact course_claim plan events pool worker stage
  | arrived inside arrived =>
    exact ⟨rfl, course_arrive plan events pool worker stage inside arrived⟩
  | completed beyond room =>
    simp only [act?, stage, if_neg beyond, if_pos room]
    exact ⟨trivial, .completed (Nat.le_of_not_lt beyond) rfl rfl⟩
  | overflowed beyond full =>
    simp only [act?, stage, if_neg beyond, full, Bool.false_eq_true, if_false]
    exact ⟨trivial, .overflowed (Nat.le_of_not_lt beyond) rfl rfl⟩
  | visited found =>
    rw [visitAt_eq]
    simp only [act?, stage, found, Option.map_some]
    obtain ⟨inside, -⟩ := List.getElem?_eq_some_iff.mp found
    exact ⟨rfl, .ran rfl rfl rfl inside rfl rfl⟩
  | left => simpa only [act?, stage] using course_leave plan events pool
  | unwound => simpa only [act?, stage] using course_unwind plan events pool
  | @closed result text =>
    refine ⟨rfl, .aside nofun rfl rfl (fun h => by cases h) ?_ ?_ (by simp [act?, stage]) rfl rfl⟩
    · intro index alarmed
      cases result with
      | ok value => exact alarmed.elim
      | error err => exact .inl trivial
    · simp only [Stage.rank]
      omega
  | finished =>
    apply course_finish plan events pool worker
    simpa only [act?, stage] using isApart_of_hooked plan
  | @failed err =>
    obtain ⟨next_eq, gates_eq, workers_eq⟩ := keepFailure_shared pool worker.thread err
    exact ⟨workers_eq, .aside nofun rfl rfl (fun h => by cases h) (fun _ _ => .inl trivial)
      (Nat.lt_succ_self _) (by simp [act?, stage]) next_eq gates_eq⟩
  | raised =>
    refine ⟨rfl, .aside nofun rfl rfl (fun h => by cases h) (fun _ _ => .inl (Nat.zero_le _)) ?_
      (by simp [act?, stage]) rfl rfl⟩
    simp only [Stage.rank]
    omega
  | released => simpa only [act?, stage] using course_release plan events pool

/-- The step of a pool replaces one worker and follows a course. -/
theorem course_of_step? {choice : Choice} {next : Pool κ ω}
    (found : pool.workers[choice.worker]? = some worker)
    (step : plan.step? events pool choice = some next) :
    ∃ new, pool.Replaces next choice.worker worker.stage new ∧
      Course plan events pool next.next next.gates worker.stage new
        (plan.act? events pool worker) := by
  obtain ⟨same, middle, after, found', advanced, rfl⟩ := exists_of_step? step
  obtain rfl : worker = same := Option.some.inj (found.symm.trans found')
  obtain ⟨workers_eq, course⟩ := course_of_advance? plan events pool worker advanced
  exact ⟨after.stage, Pool.replaces_of_set found (by simp [workers_eq]), course⟩

end Steps

end RunPlan

end DetectorSim
