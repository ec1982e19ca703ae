import DetectorSim.Proofs.Pool.Course

/-!
# The order of events in a pool

Events are taken from the counter in order and each by one worker, and at every
gate they pass in that order.  The invariant relates the counter, the gates and
the marks of the events in flight: an event that has not come in at a gate is
not behind its number, the event inside has its number, and an event that went
out is behind it.

The number of events and of workers together has to fit into 64 bits, since the
workers that find the counter beyond the last event still count it up.
-/

set_option autoImplicit false

namespace DetectorSim

variable {κ ω : Type} [Payload κ]

/-- Where an event in flight may be, seen from the gate of an instance. -/
structure Placed (gate : Gate) (index : Nat) (flight : Flight) : Prop where
  ahead : flight.mark ≤ 3 * index → gate.next ≤ flight.event
  inside : 3 * index < flight.mark → flight.mark < 3 * index + 3 → flight.event = gate.next
  behind : 3 * index + 3 ≤ flight.mark → flight.event < gate.next

/-- The order of the events, of which some were taken. -/
structure Orderly (events taken : Nat) (pool : Pool κ ω) : Prop where
  taken_le : taken ≤ events
  /-- Beyond the last event, each worker counts at most once. -/
  counter : ∃ spare, spare ≤ pool.retired ∧ (0 < spare → taken = events) ∧
    pool.next = (taken + 1 + spare) % 2 ^ 64
  carried : ∀ {i flight}, pool.flight? i = some flight →
    1 ≤ flight.event ∧ flight.event ≤ taken
  distinct : ∀ {i j flight other}, pool.flight? i = some flight →
    pool.flight? j = some other → flight.event = other.event → i = j
  turn : ∀ {index gate}, pool.gate? index = some gate → 1 ≤ gate.next ∧ gate.next ≤ taken + 1
  placed : ∀ {index gate i flight}, pool.gate? index = some gate →
    pool.flight? i = some flight → Placed gate index flight
  descending : ∀ {first second gate other}, first < second →
    pool.gate? first = some gate → pool.gate? second = some other → other.next ≤ gate.next

namespace Orderly

variable {events taken : Nat} {pool next : Pool κ ω} {i : Nat} {old new : Stage κ}

/-- The counter while a worker may still take events. -/
theorem counter_of_open (orderly : Orderly events taken pool)
    (fits : events + pool.workers.length < 2 ^ 64) (was : pool.stage? i = some old)
    (opened : old.isOpen = true) :
    ∃ spare, spare ≤ pool.retired ∧ (0 < spare → taken = events) ∧
      pool.next = taken + 1 + spare := by
  obtain ⟨spare, few, all, counter⟩ := orderly.counter
  have room := Pool.retired_lt was opened
  have small := orderly.taken_le
  refine ⟨spare, few, all, ?_⟩
  rw [counter, Nat.mod_eq_of_lt (by omega)]

/-- What a step has to keep of a flight when it changes neither the counter nor
the number of a gate. -/
theorem keep (orderly : Orderly events taken pool) (moved : pool.Replaces next i old new)
    (counter_eq : next.next = pool.next)
    (gates : ∀ index gate, next.gate? index = some gate →
      ∃ before, pool.gate? index = some before ∧ before.next = gate.next)
    (opens : new.isOpen = true → old.isOpen = true)
    (flown : ∀ flight, new.flight? = some flight →
      ∃ before, old.flight? = some before ∧ flight.event = before.event ∧
        ∀ index gate, pool.gate? index = some gate → Placed gate index flight) :
    Orderly events taken next := by
  have origin : ∀ j flight, next.flight? j = some flight →
      ∃ before, pool.flight? j = some before ∧ flight.event = before.event ∧
        ∀ index gate, pool.gate? index = some gate → Placed gate index flight := by
    intro j flight carries
    rcases moved.cases_flight carries with ⟨rfl, now⟩ | ⟨-, was⟩
    · rw [moved.flight_was]
      exact flown flight now
    · exact ⟨flight, was, rfl, fun _ _ found => orderly.placed found was⟩
  refine ⟨orderly.taken_le, ?_, ?_, ?_, ?_, ?_, ?_⟩
  · obtain ⟨spare, few, all, counter⟩ := orderly.counter
    refine ⟨spare, Nat.le_trans few ?_, all, counter_eq.trans counter⟩
    have balance := moved.retired_add
    cases isOpen : new.isOpen
    · simp only [isOpen, Bool.false_eq_true, if_false] at balance
      split at balance <;> omega
    · simp only [isOpen, opens isOpen, if_true] at balance
      omega
  · intro j flight carries
    obtain ⟨before, carried, same, -⟩ := origin j flight carries
    rw [same]
    exact orderly.carried carried
  · intro j k flight other carries carries' same
    obtain ⟨before, carried, event_eq, -⟩ := origin j flight carries
    obtain ⟨before', carried', event_eq', -⟩ := origin k other carries'
    exact orderly.distinct carried carried' (by rw [← event_eq, ← event_eq', same])
  · intro index gate found
    obtain ⟨before, found', same⟩ := gates index gate found
    rw [← same]
    exact orderly.turn found'
  · intro index gate j flight found carries
    obtain ⟨before, found', same⟩ := gates index gate found
    obtain ⟨-, -, -, placed⟩ := origin j flight carries
    obtain ⟨ahead, inside, behind⟩ := placed index before found'
    rw [same] at ahead inside behind
    exact ⟨ahead, inside, behind⟩
  · intro first second gate other lt found found'
    obtain ⟨before, known, same⟩ := gates first gate found
    obtain ⟨before', known', same'⟩ := gates second other found'
    rw [← same, ← same']
    exact orderly.descending lt known known'

/-- When the counter is beyond the last event, all events were taken. -/
theorem drained (orderly : Orderly events taken pool)
    (fits : events + pool.workers.length < 2 ^ 64) (was : pool.stage? i = some old)
    (opened : old.isOpen = true) (beyond : events < pool.next) : taken = events := by
  obtain ⟨spare, few, all, counter⟩ := orderly.counter_of_open fits was opened
  by_cases more : 0 < spare
  · exact all more
  · have small := orderly.taken_le
    omega

/-- Finding the counter beyond the last event. -/
theorem exhaust (orderly : Orderly events taken pool)
    (fits : events + pool.workers.length < 2 ^ 64) (moved : pool.Replaces next i old new)
    (opened : old.isOpen = true) (shut : new.isOpen = false) (still : new.flight? = none)
    (beyond : events < pool.next) (counter_eq : next.next = (pool.next + 1) % 2 ^ 64)
    (gates_eq : next.gates = pool.gates) : Orderly events taken next := by
  obtain ⟨spare, few, all, counter⟩ := orderly.counter_of_open fits moved.was opened
  have drained := orderly.drained fits moved.was opened beyond
  have kept : ∀ j flight, next.flight? j = some flight → pool.flight? j = some flight := by
    intro j flight carries
    rcases moved.cases_flight carries with ⟨-, now⟩ | ⟨-, was⟩
    · rw [still] at now
      cases now
    · exact was
  have gate_eq := Pool.gate?_congr gates_eq
  refine ⟨orderly.taken_le, ⟨spare + 1, ?_, fun _ => drained, ?_⟩, ?_, ?_, ?_, ?_, ?_⟩
  · have balance := moved.retired_add
    simp only [opened, shut, if_true, Bool.false_eq_true, if_false] at balance
    omega
  · rw [counter_eq, counter, Nat.add_assoc (taken + 1)]
  · exact fun carries => orderly.carried (kept _ _ carries)
  · exact fun carries carries' => orderly.distinct (kept _ _ carries) (kept _ _ carries')
  · intro index gate found
    rw [gate_eq] at found
    exact orderly.turn found
  · intro index gate j flight found carries
    rw [gate_eq] at found
    exact orderly.placed found (kept _ _ carries)
  · intro first second gate other lt found found'
    rw [gate_eq] at found found'
    exact orderly.descending lt found found'

/-- The event that is taken next. -/
theorem next_eq (orderly : Orderly events taken pool)
    (fits : events + pool.workers.length < 2 ^ 64) (was : pool.stage? i = some old)
    (opened : old.isOpen = true) (within : pool.next ≤ events) : pool.next = taken + 1 := by
  obtain ⟨spare, few, all, counter⟩ := orderly.counter_of_open fits was opened
  have none_spare : ¬ 0 < spare := fun more => by
    have drained := all more
    omega
  omega

/-- Taking an event, which starts before all gates. -/
theorem take (orderly : Orderly events taken pool)
    (fits : events + pool.workers.length < 2 ^ 64) (moved : pool.Replaces next i old new)
    (opened : old.isOpen = true) (within : pool.next ≤ events)
    (carries : new.flight? = some ⟨pool.next, 0⟩)
    (counter_eq : next.next = (pool.next + 1) % 2 ^ 64)
    (gates_eq : next.gates = pool.gates) : Orderly events (taken + 1) next := by
  have event_eq := orderly.next_eq fits moved.was opened within
  have gate_eq := Pool.gate?_congr gates_eq
  have flown : ∀ j flight, next.flight? j = some flight →
      (j = i ∧ flight = ⟨taken + 1, 0⟩) ∨ (j ≠ i ∧ pool.flight? j = some flight) := by
    intro j flight carries'
    refine (moved.cases_flight carries').imp (fun ⟨same, now⟩ => ⟨same, ?_⟩) id
    rw [carries, event_eq, Option.some.injEq] at now
    exact now.symm
  refine ⟨by omega, ⟨0, Nat.zero_le _, by simp, ?_⟩, ?_, ?_, ?_, ?_, ?_⟩
  · rw [counter_eq, event_eq]
  · intro j flight carries'
    rcases flown j flight carries' with ⟨-, rfl⟩ | ⟨-, carried⟩
    · exact ⟨Nat.le_add_left 1 taken, Nat.le_refl _⟩
    · have bounds := orderly.carried carried
      exact ⟨bounds.1, Nat.le_succ_of_le bounds.2⟩
  · intro j k flight other carries₁ carries₂ same
    rcases flown j flight carries₁ with ⟨rfl, rfl⟩ | ⟨apart, carried⟩
    · rcases flown k other carries₂ with ⟨rfl, -⟩ | ⟨-, carried'⟩
      · rfl
      · have bounds := orderly.carried carried'
        simp only at same
        omega
    · rcases flown k other carries₂ with ⟨-, rfl⟩ | ⟨-, carried'⟩
      · have bounds := orderly.carried carried
        simp only at same
        omega
      · exact orderly.distinct carried carried' same
  · intro index gate found
    rw [gate_eq] at found
    have bounds := orderly.turn found
    exact ⟨bounds.1, Nat.le_succ_of_le bounds.2⟩
  · intro index gate j flight found carries'
    rw [gate_eq] at found
    rcases flown j flight carries' with ⟨-, rfl⟩ | ⟨-, carried⟩
    · have bounds := orderly.turn found
      exact ⟨fun _ => bounds.2, fun h => by simp at h, fun h => by simp at h⟩
    · exact orderly.placed found carried
  · intro first second gate other lt found found'
    rw [gate_eq] at found found'
    exact orderly.descending lt found found'

/-- Handing on the turn moves the number of the gate on to the next event, and that
of no other gate. -/
theorem exists_gate?_of_handOn (orderly : Orderly events taken pool) {event index : Nat}
    (held : pool.flight? i = some ⟨event, 3 * index + 2⟩)
    (gates_eq : next.gates = pool.gates.modify index (Option.map (·.handOn event)))
    {other : Nat} {gate : Gate} (found : next.gate? other = some gate) :
    ∃ before, pool.gate? other = some before ∧
      (other = index ∧ before.next = event ∧ gate.next = event + 1 ∨
        other ≠ index ∧ gate.next = before.next) := by
  obtain ⟨before, found', rfl⟩ := Pool.exists_gate?_of_modify gates_eq found
  split
  · next same =>
    subst same
    have turn := (orderly.placed found' held).inside (by simp) (by simp)
    exact ⟨before, found', .inl ⟨rfl, turn.symm, rfl⟩⟩
  · next apart => exact ⟨before, found', .inr ⟨Ne.symm apart, rfl⟩⟩

/-- An event that goes on to the next instance is placed at all gates. -/
theorem placed_of_handOn (orderly : Orderly events taken pool) {event index other : Nat}
    {before gate : Gate} (held : pool.flight? i = some ⟨event, 3 * index + 2⟩)
    (found : pool.gate? other = some before)
    (changed : other = index ∧ before.next = event ∧ gate.next = event + 1 ∨
      other ≠ index ∧ gate.next = before.next) :
    Placed gate other ⟨event, 3 * (index + 1)⟩ := by
  obtain ⟨ahead, -, behind⟩ := orderly.placed found held
  simp only at ahead behind
  rcases changed with ⟨rfl, -, gate_eq⟩ | ⟨apart, gate_eq⟩
  · refine ⟨fun h => ?_, fun _ h => ?_, fun _ => ?_⟩ <;> simp only at * <;> omega
  · rw [← gate_eq] at ahead behind
    refine ⟨fun h => ahead ?_, fun h h' => ?_, fun h => behind ?_⟩ <;> simp only at * <;>
      omega

/-- An event that comes in at an instance, at a gate in its turn, is placed at all
gates. -/
theorem placed_of_enter (orderly : Orderly events taken pool) {event index other : Nat}
    {gate : Gate} (held : pool.flight? i = some ⟨event, 3 * index⟩)
    (turn : ∀ gate, pool.gate? index = some gate → gate.next = event)
    (found : pool.gate? other = some gate) : Placed gate other ⟨event, 3 * index + 1⟩ := by
  obtain ⟨ahead, inside, behind⟩ := orderly.placed found held
  simp only at ahead inside behind
  refine ⟨fun h => ahead (by simp only at h; omega), fun h h' => ?_,
    fun h => behind (by simp only at h; omega)⟩
  obtain rfl : other = index := by simp only at h h'; omega
  exact (turn gate found).symm

/-- An event that is offered to an instance stays placed at all gates. -/
theorem placed_of_run (orderly : Orderly events taken pool) {event index other : Nat}
    {gate : Gate} (held : pool.flight? i = some ⟨event, 3 * index + 1⟩)
    (found : pool.gate? other = some gate) : Placed gate other ⟨event, 3 * index + 2⟩ := by
  obtain ⟨ahead, inside, behind⟩ := orderly.placed found held
  simp only at ahead inside behind
  exact ⟨fun h => ahead (by simp only at h; omega),
    fun h h' => inside (by simp only at h; omega) (by simp only at h'; omega),
    fun h => behind (by simp only at h; omega)⟩

/-- Where an event goes out, every other event stays placed. -/
theorem placed_of_other (orderly : Orderly events taken pool) {event index other j : Nat}
    {before gate : Gate} {flight : Flight} (found : pool.gate? other = some before)
    (known : pool.flight? j = some flight) (differs : flight.event ≠ event)
    (changed : other = index ∧ before.next = event ∧ gate.next = event + 1 ∨
      other ≠ index ∧ gate.next = before.next) : Placed gate other flight := by
  obtain ⟨ahead, inside, behind⟩ := orderly.placed found known
  rcases changed with ⟨rfl, before_eq, gate_eq⟩ | ⟨-, gate_eq⟩
  · rw [before_eq] at ahead inside behind
    refine ⟨fun h => ?_, fun h h' => absurd (inside h h') differs, fun h => ?_⟩
    · have := ahead h
      omega
    · have := behind h
      omega
  · rw [← gate_eq] at ahead inside behind
    exact ⟨ahead, inside, behind⟩

/-- Handing on the turn: the event that goes out is behind the gate, and all
others are where they were. -/
theorem handOn (orderly : Orderly events taken pool) (moved : pool.Replaces next i old new)
    {event index : Nat} (carried : old.flight? = some ⟨event, 3 * index + 2⟩)
    (opened : old.isOpen = true)
    (flown : ∀ flight, new.flight? = some flight → flight = ⟨event, 3 * (index + 1)⟩)
    (counter_eq : next.next = pool.next)
    (gates_eq : next.gates = pool.gates.modify index (Option.map (·.handOn event))) :
    Orderly events taken next := by
  have held : pool.flight? i = some ⟨event, 3 * index + 2⟩ := moved.flight_was.trans carried
  have bounds := orderly.carried held
  have passing : ∀ j flight, next.flight? j = some flight →
      (j = i ∧ flight = ⟨event, 3 * (index + 1)⟩) ∨
        (j ≠ i ∧ pool.flight? j = some flight ∧ flight.event ≠ event) := by
    intro j flight carries
    rcases moved.cases_flight carries with ⟨same, now⟩ | ⟨apart, was⟩
    · exact .inl ⟨same, flown flight now⟩
    · exact .inr ⟨apart, was, fun same => apart (orderly.distinct was held same)⟩
  refine ⟨orderly.taken_le, ?_, ?_, ?_, ?_, ?_, ?_⟩
  · obtain ⟨spare, few, all, counter⟩ := orderly.counter
    refine ⟨spare, Nat.le_trans few ?_, all, counter_eq.trans counter⟩
    have balance := moved.retired_add
    simp only [opened, if_true] at balance
    split at balance <;> omega
  · intro j flight carries
    rcases passing j flight carries with ⟨-, rfl⟩ | ⟨-, carries', -⟩
    · exact bounds
    · exact orderly.carried carries'
  · intro j k flight other carries carries' same
    rcases passing j flight carries with ⟨rfl, rfl⟩ | ⟨-, known, apart⟩
    · rcases passing k other carries' with ⟨rfl, -⟩ | ⟨-, -, apart⟩
      · rfl
      · exact absurd same.symm apart
    · rcases passing k other carries' with ⟨-, rfl⟩ | ⟨-, known', -⟩
      · exact absurd same apart
      · exact orderly.distinct known known' same
  · intro other gate found
    obtain ⟨before, found', ⟨rfl, -, gate_eq⟩ | ⟨-, gate_eq⟩⟩ :=
      orderly.exists_gate?_of_handOn held gates_eq found
    · rw [gate_eq]
      exact ⟨Nat.le_add_left 1 event, Nat.succ_le_succ bounds.2⟩
    · rw [gate_eq]
      exact orderly.turn found'
  · intro other gate j flight found carries
    obtain ⟨before, found', changed⟩ := orderly.exists_gate?_of_handOn held gates_eq found
    rcases passing j flight carries with ⟨-, rfl⟩ | ⟨-, known, differs⟩
    · exact orderly.placed_of_handOn held found' changed
    · exact orderly.placed_of_other found' known differs changed
  · intro first second gate other lt found found'
    obtain ⟨before, known, changed⟩ := orderly.exists_gate?_of_handOn held gates_eq found
    obtain ⟨before', known', changed'⟩ := orderly.exists_gate?_of_handOn held gates_eq found'
    have falls := orderly.descending lt known known'
    rcases changed with ⟨rfl, before_eq, gate_eq⟩ | ⟨-, gate_eq⟩
    · rcases changed' with ⟨rfl, -, -⟩ | ⟨-, gate_eq'⟩
      · exact absurd lt (Nat.lt_irrefl _)
      · omega
    · rcases changed' with ⟨rfl, -, gate_eq'⟩ | ⟨-, gate_eq'⟩
      · -- The event is inside a later instance, so it is behind this gate.
        have passed := (orderly.placed known held).behind (by simp only; omega)
        simp only at passed
        omega
      · rw [gate_eq, gate_eq']
        exact falls

end Orderly

namespace RunPlan

variable {plan : RunPlan κ ω} {events taken : Nat} {pool next : Pool κ ω} {i : Nat}
  {old new : Stage κ} {act : Option (Act κ)}

/-- Every course keeps the order. -/
theorem Course.orderly (course : Course plan events pool next.next next.gates old new act)
    (moved : pool.Replaces next i old new) (fits : events + pool.workers.length < 2 ^ 64)
    (orderly : Orderly events taken pool) :
    (act.bind Act.taken? = some (taken + 1) ∧ Orderly events (taken + 1) next) ∨
      (act.bind Act.taken? = none ∧ Orderly events taken next) := by
  have same_gates : next.gates = pool.gates → ∀ index gate, next.gate? index = some gate →
      ∃ before, pool.gate? index = some before ∧ before.next = gate.next := by
    intro gates_eq index gate found
    rw [Pool.gate?_congr gates_eq] at found
    exact ⟨gate, found, rfl⟩
  generalize counter_is : next.next = counter at course
  generalize gates_is : next.gates = gates at course
  cases course with
  | aside unclaimed still still' opens alarms falls apart counter_eq gates_eq =>
    exact .inr ⟨(Act.unseen_of_isApart apart).1, orderly.keep moved
      (counter_is.trans counter_eq) (same_gates (gates_is.trans gates_eq)) opens
      (by simp [still'])⟩
  | exhausted beyond counter_eq gates_eq =>
    exact .inr ⟨rfl, orderly.exhaust fits moved rfl rfl rfl beyond
      (counter_is.trans counter_eq) (gates_is.trans gates_eq)⟩
  | took within counter_eq gates_eq =>
    refine .inl ⟨?_, orderly.take fits moved rfl within rfl (counter_is.trans counter_eq)
      (gates_is.trans gates_eq)⟩
    exact congrArg some (orderly.next_eq fits moved.was rfl within)
  | @entered event index data inside turn counter_eq gates_eq =>
    have held : pool.flight? i = some ⟨event, 3 * index⟩ := moved.flight_was
    refine .inr ⟨rfl, orderly.keep moved (counter_is.trans counter_eq)
      (same_gates (gates_is.trans gates_eq)) (fun _ => rfl) ?_⟩
    intro flight carries
    obtain rfl : flight = ⟨event, 3 * index + 1⟩ := (Option.some.inj carries).symm
    exact ⟨_, rfl, rfl, fun other gate found =>
      orderly.placed_of_enter held (fun gate found => (turn gate found).1) found⟩
  | refused found aborted counter_eq gates_eq =>
    exact .inr ⟨rfl, orderly.keep moved (counter_is.trans counter_eq)
      (same_gates (gates_is.trans gates_eq)) (fun h => by cases h) (fun _ h => by cases h)⟩
  | completed beyond counter_eq gates_eq =>
    exact .inr ⟨rfl, orderly.keep moved (counter_is.trans counter_eq)
      (same_gates (gates_is.trans gates_eq)) (fun _ => rfl) (fun _ h => by cases h)⟩
  | overflowed beyond counter_eq gates_eq =>
    exact .inr ⟨rfl, orderly.keep moved (counter_is.trans counter_eq)
      (same_gates (gates_is.trans gates_eq)) (fun h => by cases h) (fun _ h => by cases h)⟩
  | @ran event index data visit event_eq index_eq before_eq inside counter_eq gates_eq =>
    have held : pool.flight? i = some ⟨event, 3 * index + 1⟩ := moved.flight_was
    refine .inr ⟨rfl, orderly.keep moved (counter_is.trans counter_eq)
      (same_gates (gates_is.trans gates_eq)) (fun _ => rfl) ?_⟩
    intro flight carries
    obtain rfl : flight = ⟨event, 3 * index + 2⟩ := (Option.some.inj carries).symm
    exact ⟨_, rfl, rfl, fun other gate found => orderly.placed_of_run held found⟩
  | passed counter_eq gates_eq =>
    exact .inr ⟨rfl, orderly.handOn moved rfl rfl (fun _ h => (Option.some.inj h).symm)
      (counter_is.trans counter_eq) (gates_is.trans gates_eq)⟩
  | dropped failed still shut alarms falls counter_eq gates_eq =>
    exact .inr ⟨rfl, orderly.handOn moved rfl rfl (by simp [still])
      (counter_is.trans counter_eq) (gates_is.trans gates_eq)⟩
  | @closed index inside counter_eq gates_eq =>
    refine .inr ⟨rfl, orderly.keep moved (counter_is.trans counter_eq) ?_ id
      (fun _ h => by cases h)⟩
    intro other gate found
    obtain ⟨before, found', rfl⟩ :=
      Pool.exists_gate?_of_modify (gates_is.trans gates_eq) found
    refine ⟨before, found', ?_⟩
    split <;> rfl

/-! ## Every run keeps the order -/

/-- The instance with an index has to see the events in order. -/
def isGated (plan : RunPlan κ ω) (index : Nat) : Prop :=
  ∃ inst, plan.instances[index]? = some inst ∧ inst.module.safety = .sequential

/-- Before the first step there is a gate that waits for the first event in
front of each instance that needs one. -/
theorem gate?_startPool {workers : Nat} {tallies : List Tally} {env : Env ω} {index : Nat}
    {gate : Gate} :
    (plan.startPool workers tallies env).gate? index = some gate
      ↔ plan.isGated index ∧ gate = .opening 1 := by
  simp only [startPool, Pool.gate?, gates, isGated, List.getElem?_map]
  cases found : plan.instances[index]? with
  | none => simp
  | some inst =>
    by_cases sequential : inst.module.safety = .sequential
    · simp [sequential, eq_comm]
    · simp [sequential]

/-- Before the first step all workers wait. -/
theorem stage?_startPool {workers : Nat} {tallies : List Tally} {env : Env ω} {i : Nat}
    {stage : Stage κ} (was : (plan.startPool workers tallies env).stage? i = some stage) :
    stage = .waiting := by
  simp only [startPool, Pool.stage?, List.getElem?_replicate] at was
  split at was
  · exact (Option.some.inj was).symm
  · simp at was

/-- Before the first step nothing is in flight. -/
theorem flight?_startPool {workers : Nat} {tallies : List Tally} {env : Env ω} {i : Nat} :
    (plan.startPool workers tallies env).flight? i = none := by
  unfold Pool.flight?
  cases was : (plan.startPool workers tallies env).stage? i with
  | none => rfl
  | some stage =>
    rw [stage?_startPool was]
    rfl

/-- A pool that has not started is in order. -/
theorem orderly_startPool {workers : Nat} {tallies : List Tally} {env : Env ω} :
    Orderly events 0 (plan.startPool workers tallies env) := by
  refine ⟨Nat.zero_le _, ⟨0, Nat.zero_le _, by simp, rfl⟩, ?_, ?_, ?_, ?_, ?_⟩
  · intro i flight carries
    simp [flight?_startPool] at carries
  · intro i j flight other carries
    simp [flight?_startPool] at carries
  · intro index gate found
    obtain ⟨-, rfl⟩ := gate?_startPool.mp found
    exact ⟨Nat.le_refl _, Nat.le_refl _⟩
  · intro index gate i flight found carries
    simp [flight?_startPool] at carries
  · intro first second gate other lt found found'
    obtain ⟨-, rfl⟩ := gate?_startPool.mp found
    obtain ⟨-, rfl⟩ := gate?_startPool.mp found'
    exact Nat.le_refl _

/-- A course neither builds nor removes gates. -/
theorem Course.isSome_gate? (course : Course plan events pool next.next next.gates old new act)
    (index : Nat) : (next.gate? index).isSome = (pool.gate? index).isSome := by
  have changed : ∀ place f, next.gates = pool.gates.modify place (Option.map f) →
      (next.gate? index).isSome = (pool.gate? index).isSome := by
    intro place f gates_eq
    rw [Pool.gate?_of_modify gates_eq]
    split <;> simp
  generalize counter_is : next.next = counter at course
  generalize gates_is : next.gates = gates at course
  cases course with
  | aside _ _ _ _ _ _ _ _ gates_eq => rw [Pool.gate?_congr (gates_is.trans gates_eq)]
  | exhausted _ _ gates_eq => rw [Pool.gate?_congr (gates_is.trans gates_eq)]
  | took _ _ gates_eq => rw [Pool.gate?_congr (gates_is.trans gates_eq)]
  | entered _ _ _ gates_eq => rw [Pool.gate?_congr (gates_is.trans gates_eq)]
  | refused _ _ _ gates_eq => rw [Pool.gate?_congr (gates_is.trans gates_eq)]
  | completed _ _ gates_eq => rw [Pool.gate?_congr (gates_is.trans gates_eq)]
  | overflowed _ _ gates_eq => rw [Pool.gate?_congr (gates_is.trans gates_eq)]
  | ran _ _ _ _ _ gates_eq => rw [Pool.gate?_congr (gates_is.trans gates_eq)]
  | passed _ gates_eq => exact changed _ _ (gates_is.trans gates_eq)
  | dropped _ _ _ _ _ _ gates_eq => exact changed _ _ (gates_is.trans gates_eq)
  | closed _ _ gates_eq => exact changed _ _ (gates_is.trans gates_eq)

section Runs

variable [DecidableEq κ] {workers : Nat} {tallies : List Tally} {env : Env ω}
  {acts : List (Act κ)}

/-- The gates are where they were before the first step. -/
theorem History.gate?_iff
    (history : plan.History events (plan.startPool workers tallies env) acts pool)
    (index : Nat) : (∃ gate, pool.gate? index = some gate) ↔ plan.isGated index := by
  rw [← Option.isSome_iff_exists]
  induction history with
  | start =>
    rw [Option.isSome_iff_exists]
    constructor
    · rintro ⟨gate, found⟩
      exact (gate?_startPool.mp found).1
    · exact fun gated => ⟨_, gate?_startPool.mpr ⟨gated, rfl⟩⟩
  | step choice before found step ih =>
    obtain ⟨new, -, course⟩ := course_of_step? plan events _ _ found step
    rw [course.isSome_gate? index]
    exact ih

/-- Workers neither come nor go. -/
theorem History.length_workers
    (history : plan.History events (plan.startPool workers tallies env) acts pool) :
    pool.workers.length = workers := by
  induction history with
  | start => simp [startPool]
  | step choice before found step ih =>
    obtain ⟨new, moved, -⟩ := course_of_step? plan events _ _ found step
    exact moved.size.trans ih

theorem History.fits_workers (fits : events + workers < 2 ^ 64)
    (history : plan.History events (plan.startPool workers tallies env) acts pool) :
    events + pool.workers.length < 2 ^ 64 := by
  rwa [history.length_workers]

/-- In every run the events are taken one after the other from the first one
on, and are in order. -/
theorem History.orderly (fits : events + workers < 2 ^ 64)
    (history : plan.History events (plan.startPool workers tallies env) acts pool) :
    takenEvents acts = List.range' 1 (takenEvents acts).length ∧
      Orderly events (takenEvents acts).length pool := by
  induction history with
  | start => exact ⟨rfl, orderly_startPool⟩
  | @step acts pool next worker choice before found step ih =>
    obtain ⟨ascending, orderly⟩ := ih
    obtain ⟨new, moved, course⟩ := course_of_step? plan events _ _ found step
    rcases course.orderly moved (before.fits_workers fits) orderly with
      ⟨taken_eq, orderly'⟩ | ⟨taken_eq, orderly'⟩
    · rw [takenEvents_append, taken_eq]
      simp only [Option.toList_some, List.length_append, List.length_singleton]
      refine ⟨?_, orderly'⟩
      rw [List.range'_concat, ← ascending, Nat.one_mul, Nat.add_comm 1]
    · rw [takenEvents_append, taken_eq]
      simpa using ⟨ascending, orderly'⟩

end Runs

end RunPlan

end DetectorSim
