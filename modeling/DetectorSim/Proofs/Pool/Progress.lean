import DetectorSim.Proofs.Pool.Turns

/-!
# The progress of a pool

As long as a worker has not ended, some worker can make a step, and no run goes
on forever.  A worker waits at a gate only for an event before its own.  That
event is on its way as well, unless its worker has given it up; but then the
worker is bound to abort the gate, or has done so already.  The event with the
smallest number waits for nobody.
-/

set_option autoImplicit false

namespace DetectorSim

variable {κ ω : Type} [Payload κ]

/-! ## What a gate waits for -/

/-- An event that has not passed a gate is on its way, or the gate is aborted
sooner or later. -/
def Pool.Expects (pool : Pool κ ω) (index : Nat) (gate : Gate) (event : Nat) : Prop :=
  (∃ i flight, pool.flight? i = some flight ∧ flight.event = event) ∨
    gate.aborted = true ∨ ∃ i stage, pool.stage? i = some stage ∧ stage.alarms index

/-- Nothing waits in vain: the events that were taken are expected at all gates
that they have not passed. -/
structure Vital (plan : RunPlan κ ω) (taken : Nat) (pool : Pool κ ω) : Prop where
  size : pool.gates.length = plan.instances.length
  seated : ∀ {i stage index}, pool.stage? i = some stage → stage.isInside index →
    index < plan.instances.length
  awaited : ∀ {index gate event}, pool.gate? index = some gate → gate.next ≤ event →
    event ≤ taken → pool.Expects index gate event

namespace RunPlan.Course

variable {plan : RunPlan κ ω} {events taken i : Nat} {pool next : Pool κ ω}
  {old new : Stage κ} {act : Option (Act κ)}

/-- A course keeps the number of gates. -/
theorem length_gates (course : Course plan events pool next.next next.gates old new act) :
    next.gates.length = pool.gates.length := by
  generalize next.next = counter at course
  generalize next.gates = gates at course
  cases course with
  | aside _ _ _ _ _ _ _ _ gates_eq => rw [gates_eq]
  | exhausted _ _ gates_eq => rw [gates_eq]
  | took _ _ gates_eq => rw [gates_eq]
  | entered _ _ _ gates_eq => rw [gates_eq]
  | refused _ _ _ gates_eq => rw [gates_eq]
  | completed _ _ gates_eq => rw [gates_eq]
  | overflowed _ _ gates_eq => rw [gates_eq]
  | ran _ _ _ _ _ gates_eq => rw [gates_eq]
  | passed _ gates_eq => rw [gates_eq, List.length_modify]
  | dropped _ _ _ _ _ _ gates_eq => rw [gates_eq, List.length_modify]
  | closed _ _ gates_eq => rw [gates_eq, List.length_modify]

/-- Only instances of the plan are gone into. -/
theorem inside_lt (course : Course plan events pool next.next next.gates old new act)
    {index : Nat} (inside : new.isInside index) : index < plan.instances.length := by
  cases course with
  | aside unclaimed still still' => exact absurd inside (Stage.not_isInside_of_flight? still' index)
  | entered within => exact inside ▸ within
  | ran event_eq index_eq before_eq within => exact inside ▸ within
  | dropped failed still => exact absurd inside (Stage.not_isInside_of_flight? still index)
  | _ => exact inside.elim

/-- An event stays in flight until it is through, or its worker aborts all gates. -/
theorem carries_on (course : Course plan events pool next.next next.gates old new act)
    {flight : Flight} (carries : old.flight? = some flight) :
    (∃ flight', new.flight? = some flight' ∧ flight'.event = flight.event) ∨
      3 * plan.instances.length ≤ flight.mark ∨ ∀ index, new.alarms index := by
  cases course with
  | aside unclaimed still => rw [still] at carries; cases carries
  | exhausted => cases carries
  | took => cases carries
  | entered => exact .inl ⟨_, rfl, Option.some.inj carries ▸ rfl⟩
  | refused => exact .inr (.inr fun _ => trivial)
  | completed beyond =>
    obtain rfl := Option.some.inj carries
    exact .inr (.inl (Nat.mul_le_mul_left 3 beyond))
  | overflowed => exact .inr (.inr fun _ => trivial)
  | ran => exact .inl ⟨_, rfl, Option.some.inj carries ▸ rfl⟩
  | passed => exact .inl ⟨_, rfl, Option.some.inj carries ▸ rfl⟩
  | dropped failed still shut alarms => exact .inr (.inr alarms)
  | closed => cases carries

/-- A worker that is bound to abort a gate stays so until it has. -/
theorem alarms_on (course : Course plan events pool next.next next.gates old new act)
    {index : Nat} {gate : Gate} (found : next.gate? index = some gate)
    (alarmed : old.alarms index) : new.alarms index ∨ gate.aborted = true := by
  generalize counter_is : next.next = counter at course
  generalize gates_is : next.gates = gates at course
  cases course with
  | aside unclaimed still still' opens alarms falls apart counter_eq gates_eq =>
    rcases alarms index alarmed with stays | absent
    · exact .inl stays
    · rw [Pool.gate?_congr (gates_is.trans gates_eq), absent] at found
      cases found
  | @closed first inside counter_eq gates_eq =>
    obtain ⟨before, -, rfl⟩ := Pool.exists_gate?_of_modify (gates_is.trans gates_eq) found
    by_cases here : first = index
    · rw [if_pos here]
      exact .inr rfl
    · exact .inl (Nat.lt_of_le_of_ne alarmed here)
  | dropped failed still shut alarms => exact .inl (alarms index)
  | _ => exact alarmed.elim

/-- A course takes the event that the counter shows, or none. -/
theorem took_cases (course : Course plan events pool next.next next.gates old new act) :
    act.bind Act.taken? = none ∨
      act = some (.took pool.next) ∧ pool.next ≤ events ∧ old = .claiming ∧
        new = .arriving pool.next (plan.startEvent pool.next) 0 := by
  cases course with
  | aside _ _ _ _ _ _ apart => exact .inl (Act.unseen_of_isApart apart).1
  | took within => exact .inr ⟨rfl, within, rfl, rfl⟩
  | _ => exact .inl rfl

/-- Unless it takes an event, a worker comes closer to its end. -/
theorem rank_lt (course : Course plan events pool next.next next.gates old new act)
    (size : pool.gates.length = plan.instances.length)
    (seated : ∀ {index}, old.isInside index → index < plan.instances.length)
    (none_taken : act.bind Act.taken? = none) :
    new.rank plan.instances.length < old.rank plan.instances.length := by
  cases course with
  | aside _ _ _ _ _ falls => exact falls
  | took => cases none_taken
  | @closed index inside =>
    rw [size] at inside
    simp only [Stage.rank]
    omega
  | @dropped event index data outcome new _ _ _ _ falls =>
    have := Nat.zero_le (plan.instances.length - index)
    change new.rank _ < 2 * _ + 8 + 3 * _
    omega
  | passed =>
    have inside := seated rfl
    simp only [Stage.rank]
    omega
  | _ =>
    simp only [Stage.rank]
    omega

end RunPlan.Course

/-- A gate that makes an event wait is not aborted and lets another event in. -/
theorem Gate.of_wait?_eq_none {gate : Gate} {event : Nat} (waits : gate.wait? event = none) :
    gate.aborted = false ∧ gate.next ≠ event := by
  unfold Gate.wait? at waits
  split at waits
  · cases waits
  · next opened =>
    split at waits
    · cases waits
    · next other => exact ⟨Bool.eq_false_iff.mpr opened, other⟩

namespace Vital

variable {plan : RunPlan κ ω} {events taken i : Nat} {pool next : Pool κ ω}
  {old new : Stage κ} {act : Option (Act κ)}

/-- A gate of the pool stands in front of an instance. -/
theorem index_lt (vital : Vital plan taken pool) {index : Nat} {gate : Gate}
    (found : pool.gate? index = some gate) : index < plan.instances.length := by
  obtain ⟨gates, found', -⟩ := Option.bind_eq_some_iff.mp found
  obtain ⟨inside, -⟩ := List.getElem?_eq_some_iff.mp found'
  rwa [← vital.size]

/-- Every course keeps waiting from being in vain. -/
theorem step (vital : Vital plan taken pool) (orderly : Orderly events taken pool)
    (moved : pool.Replaces next i old new)
    (course : RunPlan.Course plan events pool next.next next.gates old new act) {later : Nat}
    (grows : later = taken ∨ later = taken + 1 ∧ new.flight? = some ⟨taken + 1, 0⟩) :
    Vital plan later next := by
  refine ⟨course.length_gates.trans vital.size, ?_, ?_⟩
  · intro j stage index was inside
    rcases moved.cases_stage was with ⟨-, rfl⟩ | ⟨-, was⟩
    · exact course.inside_lt inside
    · exact vital.seated was inside
  · intro index gate event found waits few
    obtain ⟨before, found', aborted, move⟩ := course.move found
    have turn_le : before.next ≤ gate.next := by
      rcases move.turn_cases with turn_eq | ⟨left, carries, turn_eq⟩
      · exact Nat.le_of_eq turn_eq.symm
      · have held := moved.flight_was.trans carries
        have turn := (orderly.placed found' held).inside (by simp) (by simp)
        simp only at turn
        omega
    by_cases fresh : event ≤ taken
    · rcases vital.awaited found' (Nat.le_trans turn_le waits) fresh with
        ⟨j, flight, carries, event_eq⟩ | known | ⟨j, stage, was, alarmed⟩
      · by_cases same : j = i
        · subst same
          have carries' := moved.flight_was.symm.trans carries
          rcases course.carries_on carries' with ⟨flight', on, same⟩ | through | alarms
          · exact .inl ⟨j, flight', moved.flight_now.trans on, same.trans event_eq⟩
          · -- Whatever is through is behind all gates.
            have inside := vital.index_lt found'
            have behind := (orderly.placed found' carries).behind (by omega)
            omega
          · exact .inr (.inr ⟨j, new, moved.here, alarms index⟩)
        · exact .inl ⟨j, flight, moved.flight_stays same carries, event_eq⟩
      · exact .inr (.inl (aborted known))
      · by_cases same : j = i
        · subst same
          obtain rfl := Option.some.inj (was.symm.trans moved.was)
          rcases course.alarms_on found alarmed with stays | known
          · exact .inr (.inr ⟨j, new, moved.here, stays⟩)
          · exact .inr (.inl known)
        · exact .inr (.inr ⟨j, stage, moved.stays same was, alarmed⟩)
    · rcases grows with rfl | ⟨rfl, carries⟩
      · exact absurd few fresh
      · exact .inl ⟨i, ⟨taken + 1, 0⟩, moved.flight_now.trans carries,
          Nat.le_antisymm (Nat.lt_of_not_le fresh) few⟩

/-- Where every worker has ended, waits for a thread or waits at a gate, no event
is in flight. -/
theorem flight?_of_stuck (vital : Vital plan taken pool) (orderly : Orderly events taken pool)
    (stuck : ∀ {i stage}, pool.stage? i = some stage → stage = .ended ∨ stage = .waiting ∨
      ∃ event data index gate, stage = .arriving event data index ∧
        pool.gate? index = some gate ∧ gate.wait? event = none) (i : Nat) :
    pool.flight? i = none := by
  -- By induction on its number: an event would wait at a gate for a smaller one.
  have grounded : ∀ event i flight, pool.flight? i = some flight →
      flight.event ≠ event := by
    intro event
    induction event using Nat.strongRecOn with
    | ind event ih =>
      intro i flight carries event_eq
      obtain ⟨stage, was, flown⟩ := Option.bind_eq_some_iff.mp carries
      rcases stuck was with rfl | rfl | ⟨event', data, index, gate, rfl, found, waits⟩
      · cases flown
      · cases flown
      · obtain rfl := Option.some.inj flown
        obtain rfl : event' = event := event_eq
        obtain ⟨opened, other⟩ := Gate.of_wait?_eq_none waits
        have ahead := (orderly.placed found carries).ahead (Nat.le_refl _)
        have smaller : gate.next < event' := Nat.lt_of_le_of_ne ahead other
        have taken := (orderly.carried carries).2
        rcases vital.awaited found (Nat.le_refl _) (Nat.le_trans ahead taken) with
          ⟨j, first, carries', first_eq⟩ | aborted | ⟨j, stage, was', alarmed⟩
        · exact ih gate.next smaller j first carries' first_eq
        · rw [opened] at aborted
          cases aborted
        · rcases stuck was' with rfl | rfl | ⟨_, _, _, _, rfl, -⟩ <;> exact alarmed
  cases carries : pool.flight? i with
  | none => rfl
  | some flight => exact absurd rfl (grounded flight.event i flight carries)

end Vital

/-- A thread of the pool is free if nobody runs on any. -/
theorem Pool.isFree_of_unused {pool : Pool κ ω} {thread : ThreadId}
    (unused : ∀ worker ∈ pool.workers, worker.stage = .ended ∨ worker.stage = .waiting)
    (least : 1 ≤ thread) (most : thread ≤ pool.workers.length) : pool.isFree thread = true := by
  have nobody : (pool.workers.any fun worker => worker.occupies thread) = false := by
    rw [List.any_eq_false]
    intro worker member
    unfold Worker.occupies
    rcases unused worker member with ended | waiting
    · rw [ended]
      exact Bool.false_ne_true
    · rw [waiting]
      exact Bool.false_ne_true
  simp [Pool.isFree, nobody, least, most]

namespace RunPlan

variable [DecidableEq κ] {plan : RunPlan κ ω} {events workers : Nat} {tallies : List Tally}
  {env : Env ω} {acts : List (Act κ)} {pool : Pool κ ω}

/-- In every run nothing waits in vain. -/
theorem History.vital (fits : events + workers < 2 ^ 64)
    (history : plan.History events (plan.startPool workers tallies env) acts pool) :
    Vital plan (takenEvents acts).length pool := by
  induction history with
  | start =>
    refine ⟨by simp [startPool, gates], ?_, ?_⟩
    · intro i stage index was inside
      rw [stage?_startPool was] at inside
      exact inside.elim
    · intro index gate event found waits few
      obtain ⟨-, rfl⟩ := gate?_startPool.mp found
      exact absurd (Nat.le_trans waits few) (by simp [takenEvents, Gate.opening])
  | @step acts pool next worker choice before known step ih =>
    obtain ⟨new, moved, course⟩ := course_of_step? plan events _ _ known step
    have orderly := (before.orderly fits).2
    apply ih.step orderly moved course
    rw [takenEvents_append, List.length_append]
    rcases course.took_cases with untaken | ⟨took, within, old_eq, rfl⟩
    · exact .inl (by rw [untaken]; rfl)
    · have opened : worker.stage.isOpen = true := by rw [old_eq]; rfl
      have next_eq := orderly.next_eq (before.fits_workers fits) moved.was opened within
      rw [took]
      exact .inr ⟨rfl, by rw [next_eq]; rfl⟩

/-! ## Workers that cannot make a step -/

/-- A worker that cannot make a step has ended, has no thread to run on, or waits
for its turn at a gate. -/
theorem cases_of_advance?_eq_none {choice : Choice} {worker : Worker κ}
    (seated : ∀ {index}, worker.stage.isInside index → index < plan.instances.length)
    (stuck : plan.advance? events pool choice worker = none) :
    worker.stage = .ended ∨
      worker.stage = .waiting ∧ pool.isFree choice.thread = false ∨
        ∃ event data index gate, worker.stage = .arriving event data index ∧
          pool.gate? index = some gate ∧ gate.wait? event = none := by
  unfold advance? at stuck
  cases stage : worker.stage with
  | ended => exact .inl rfl
  | waiting =>
    simp only [stage] at stuck
    split at stuck
    · cases stuck
    · next busy => exact .inr (.inl ⟨rfl, Bool.eq_false_iff.mpr busy⟩)
  | arriving event data index =>
    simp only [stage] at stuck
    split at stuck
    · rw [Option.bind_eq_none_iff] at stuck
      unfold arrive? at stuck
      cases found : pool.gate? index with
      | none => simp [found] at stuck
      | some gate =>
        refine .inr (.inr ⟨event, data, index, gate, rfl, found, ?_⟩)
        cases waited : gate.wait? event with
        | none => rfl
        | some result => cases result <;> simp [found, waited] at stuck
    · cases stuck
  | running event data index =>
    have inside : index < plan.instances.length := seated (by rw [stage]; rfl)
    simp [stage, List.getElem?_eq_getElem inside] at stuck
  | _ => simp [stage] at stuck

/-- As long as a worker has not ended, some worker can make a step, whichever
threads the workers would get. -/
theorem History.exists_step (fits : events + workers < 2 ^ 64)
    (history : plan.History events (plan.startPool workers tallies env) acts pool)
    (running : pool.hasEnded = false) (thread : Nat → ThreadId)
    (owned : ∀ i < workers, 1 ≤ thread i ∧ thread i ≤ workers) :
    ∃ i next, plan.step? events pool ⟨i, thread i⟩ = some next := by
  have orderly := (history.orderly fits).2
  have vital := history.vital fits
  have size := history.length_workers
  by_contra none_steps
  have stuck : ∀ {i stage}, pool.stage? i = some stage →
      stage = .ended ∨ stage = .waiting ∧ pool.isFree (thread i) = false ∨
        ∃ event data index gate, stage = .arriving event data index ∧
          pool.gate? index = some gate ∧ gate.wait? event = none := by
    intro i stage was
    obtain ⟨worker, found, rfl⟩ := Option.map_eq_some_iff.mp was
    have halted : plan.advance? events pool ⟨i, thread i⟩ worker = none := by
      cases advanced : plan.advance? events pool ⟨i, thread i⟩ worker with
      | none => rfl
      | some result =>
        have possible : ∃ next, plan.step? events pool ⟨i, thread i⟩ = some next := by
          simp [step?, found, advanced]
        exact absurd ⟨i, possible⟩ none_steps
    exact cases_of_advance?_eq_none (vital.seated was) halted
  have grounded := vital.flight?_of_stuck orderly fun was =>
    (stuck was).imp id (Or.imp And.left id)
  have idle : ∀ {i worker}, pool.workers[i]? = some worker → worker.stage = .ended ∨
      worker.stage = .waiting ∧ pool.isFree (thread i) = false := by
    intro i worker found
    have was : pool.stage? i = some worker.stage := by rw [Pool.stage?, found]; rfl
    rcases stuck was with ended | waiting | ⟨event, data, index, gate, at_gate, -⟩
    · exact .inl ended
    · exact .inr waiting
    · have carries := Pool.flight?_of_stage? was
      rw [grounded i, at_gate] at carries
      cases carries
  rw [Pool.hasEnded, List.all_eq_false] at running
  obtain ⟨worker, member, running⟩ := running
  obtain ⟨i, found⟩ := List.mem_iff_getElem?.mp member
  rcases idle found with ended | ⟨-, busy⟩
  · exact running (by rw [Worker.hasEnded, ended])
  · obtain ⟨inside, -⟩ := List.getElem?_eq_some_iff.mp found
    obtain ⟨least, most⟩ := owned i (size ▸ inside)
    -- Nobody runs on a thread, so the worker can have the one that it would get.
    have unused : ∀ worker ∈ pool.workers,
        worker.stage = .ended ∨ worker.stage = .waiting := by
      intro worker member
      obtain ⟨j, found⟩ := List.mem_iff_getElem?.mp member
      exact (idle found).imp id And.left
    have free := Pool.isFree_of_unused unused least (size ▸ most)
    rw [busy] at free
    cases free

/-! ## Every run ends -/

/-- A bound for the number of steps that a pool still makes when a number of
events were taken. -/
def loadOf (plan : RunPlan κ ω) (events taken : Nat) (pool : Pool κ ω) : Nat :=
  (events - taken) * (3 * plan.instances.length + 3)
    + pool.weight (Stage.rank plan.instances.length)

/-- Every step takes something off the load. -/
theorem History.loadOf_lt (fits : events + workers < 2 ^ 64)
    (history : plan.History events (plan.startPool workers tallies env) acts pool)
    {choice : Choice} {worker : Worker κ} {next : Pool κ ω}
    (found : pool.workers[choice.worker]? = some worker)
    (step : plan.step? events pool choice = some next) :
    plan.loadOf events (takenEvents (acts ++ (plan.act? events pool worker).toList)).length next
      < plan.loadOf events (takenEvents acts).length pool := by
  have orderly := (history.orderly fits).2
  have vital := history.vital fits
  obtain ⟨new, moved, course⟩ := course_of_step? plan events _ _ found step
  have balance := moved.weigh (Stage.rank plan.instances.length)
  unfold loadOf
  rw [takenEvents_append, List.length_append]
  rcases course.took_cases with untaken | ⟨took, within, old_eq, rfl⟩
  · have closer := course.rank_lt vital.size (vital.seated moved.was) untaken
    rw [untaken]
    simp only [Option.toList_none, List.length_nil, Nat.add_zero]
    omega
  · have opened : worker.stage.isOpen = true := by rw [old_eq]; rfl
    have next_eq := orderly.next_eq (history.fits_workers fits) moved.was opened within
    obtain ⟨left, left_eq⟩ : ∃ left, events - (takenEvents acts).length = left + 1 :=
      ⟨events - pool.next, by omega⟩
    have left_eq' : events - ((takenEvents acts).length + 1) = left := by omega
    rw [old_eq] at balance
    rw [took]
    simp only [Stage.rank, Nat.sub_zero] at balance
    simp only [Option.bind_some, Act.taken?, Option.toList_some, List.length_singleton,
      left_eq, left_eq', Nat.add_mul, Nat.one_mul]
    omega

/-- No run goes on forever. -/
theorem History.acc (fits : events + workers < 2 ^ 64)
    (history : plan.History events (plan.startPool workers tallies env) acts pool) :
    Acc (fun next pool => ∃ choice, plan.step? events pool choice = some next) pool := by
  generalize load_eq : plan.loadOf events (takenEvents acts).length pool = load
  induction load using Nat.strongRecOn generalizing acts pool with
  | ind load ih =>
    apply Acc.intro
    rintro next ⟨choice, possible⟩
    obtain ⟨worker, -, -, found, -⟩ := exists_of_step? possible
    have lighter := history.loadOf_lt fits found possible
    exact ih _ (load_eq ▸ lighter) (.step choice history found possible) rfl

/-- A run that is driven for as many steps as its load ends. -/
theorem History.hasEnded_drive (fits : events + workers < 2 ^ 64)
    (history : plan.History events (plan.startPool workers tallies env) acts pool)
    {fuel : Nat} (enough : plan.loadOf events (takenEvents acts).length pool ≤ fuel) :
    (plan.drive events fuel pool).hasEnded = true := by
  induction fuel generalizing acts pool with
  | zero =>
    rw [drive]
    by_contra running
    obtain ⟨i, next, possible⟩ := history.exists_step fits (Bool.eq_false_iff.mpr running)
      (fun _ => 1) (fun i inside => ⟨Nat.le_refl 1, Nat.one_le_of_lt inside⟩)
    obtain ⟨worker, -, -, found, -⟩ := exists_of_step? possible
    have lighter := history.loadOf_lt fits found possible
    omega
  | succ fuel ih =>
    rw [drive]
    cases stepped : plan.firstStep? events pool with
    | none =>
      by_contra running
      obtain ⟨i, next, possible⟩ := history.exists_step fits (Bool.eq_false_iff.mpr running)
        Nat.succ (fun i inside => ⟨Nat.le_add_left 1 i, inside⟩)
      obtain ⟨worker, -, -, found, -⟩ := exists_of_step? possible
      obtain ⟨inside, -⟩ := List.getElem?_eq_some_iff.mp found
      rw [firstStep?, List.findSome?_eq_none_iff] at stepped
      rw [stepped i (List.mem_range.mpr inside)] at possible
      cases possible
    | some next =>
      obtain ⟨i, -, possible⟩ := List.exists_of_findSome?_eq_some stepped
      obtain ⟨worker, -, -, found, -⟩ := exists_of_step? possible
      have lighter := history.loadOf_lt fits found possible
      exact ih (.step _ history found possible) (by omega)

/-- A pool that is run to its end has ended. -/
theorem hasEnded_runToEnd (fits : events + workers < 2 ^ 64) :
    (plan.runToEnd events (plan.startPool workers tallies env)).hasEnded = true := by
  apply History.hasEnded_drive fits .start
  have weight_eq : (plan.startPool workers tallies env).weight
      (Stage.rank plan.instances.length) = workers * (3 * plan.instances.length + 11) := by
    rw [Pool.weight, startPool, List.map_replicate, List.sum_replicate_nat]
    rfl
  have workers_le : workers * (3 * plan.instances.length + 11)
      ≤ workers * (4 * plan.instances.length + 20) := Nat.mul_le_mul_left _ (by omega)
  have length_eq : (plan.startPool workers tallies env).workers.length = workers := by
    simp [startPool]
  unfold loadOf stepBound
  rw [weight_eq, length_eq]
  change (events - 0) * _ + _ ≤ _
  rw [Nat.sub_zero, Nat.add_comm]
  exact Nat.add_le_add_right workers_le _

end RunPlan

/-! ## No deadlock -/

/-- The worker with an index waits for its turn at a gate. -/
def Pool.isBlocked (pool : Pool κ ω) (i : Nat) : Prop :=
  ∃ event data index gate, pool.stage? i = some (.arriving event data index) ∧
    pool.gate? index = some gate ∧ gate.wait? event = none

namespace RunPlan

variable [DecidableEq κ] {plan : RunPlan κ ω} {events workers : Nat} {tallies : List Tally}
  {env : Env ω} {pool : Pool κ ω}

/-- A worker that makes a step has neither ended nor is it blocked. -/
theorem not_blocked_of_step? {choice : Choice} {next : Pool κ ω} {taken : Nat}
    (vital : Vital plan taken pool) (possible : plan.step? events pool choice = some next) :
    ∃ worker, pool.workers[choice.worker]? = some worker ∧ worker.hasEnded = false ∧
      ¬ pool.isBlocked choice.worker := by
  obtain ⟨worker, middle, after, found, advanced, -⟩ := exists_of_step? possible
  have advance := advance_of_advance? advanced
  generalize after.stage = new at advance
  refine ⟨worker, found, ?_, ?_⟩
  · by_contra ended
    unfold Worker.hasEnded at ended
    split at ended
    · next at_end =>
      rw [at_end] at advance
      cases advance
    · exact ended rfl
  · rintro ⟨event, data, index, gate, was, found', waits⟩
    have at_gate : worker.stage = .arriving event data index := by
      rw [Pool.stage?, found] at was
      exact Option.some.inj was
    rw [at_gate] at advance
    cases advance with
    | arrived inside arrived => simp [arrive?, found', waits] at arrived
    | completed beyond => exact beyond (vital.index_lt found')
    | overflowed beyond => exact beyond (vital.index_lt found')

/-- A pool that neither gets stuck nor goes on forever. -/
structure Live (plan : RunPlan κ ω) (events : Nat) (pool : Pool κ ω) : Prop where
  /-- As long as a worker has not ended, one that has not ended is not blocked. -/
  unblocked : pool.hasEnded = false → ∃ i worker, pool.workers[i]? = some worker ∧
    worker.hasEnded = false ∧ ¬ pool.isBlocked i
  /-- As long as a worker has not ended, some worker can make a step. -/
  steps : pool.hasEnded = false →
    ∃ choice next, plan.step? events pool choice = some next
  /-- There is no endless sequence of steps. -/
  halts : Acc (fun next pool => ∃ choice, plan.step? events pool choice = some next) pool
  /-- All workers can end. -/
  ends : ∃ last, plan.Reaches events pool last ∧ last.hasEnded = true

/-- Whatever the modules do and the scheduler has decided so far, a pool neither
gets stuck nor goes on forever. -/
theorem live_of_reaches (fits : events + workers < 2 ^ 64)
    (reached : plan.Reaches events (plan.startPool workers tallies env) pool) :
    plan.Live events pool := by
  obtain ⟨acts, history⟩ := exists_history_of_reaches reached
  have steps : pool.hasEnded = false →
      ∃ i next, plan.step? events pool ⟨i, 1⟩ = some next := fun running =>
    history.exists_step fits running (fun _ => 1) fun i inside =>
      ⟨Nat.le_refl 1, Nat.one_le_of_lt inside⟩
  refine ⟨fun running => ?_, fun running => ?_, history.acc fits, ?_⟩
  · obtain ⟨i, next, possible⟩ := steps running
    obtain ⟨worker, found, going, unblocked⟩ :=
      not_blocked_of_step? (history.vital fits) possible
    exact ⟨i, worker, found, going, unblocked⟩
  · obtain ⟨i, next, possible⟩ := steps running
    exact ⟨⟨i, 1⟩, next, possible⟩
  · exact ⟨_, reaches_drive (.refl pool) _, history.hasEnded_drive fits (Nat.le_refl _)⟩

/-- Three events on two workers, with a failure before the second of two gates,
after seven steps. -/
theorem live_drive_counting :
    (ofModules [.counting 2, .counting 0]).Live 3
      ((ofModules [.counting 2, .counting 0]).drive 3 7
        ((ofModules [.counting 2, .counting 0]).startPool 2 [.zero, .zero] ⟨0, .empty⟩)) :=
  live_of_reaches (by decide) (reaches_drive (.refl _) 7)

end RunPlan

end DetectorSim
