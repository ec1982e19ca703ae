import DetectorSim.Proofs.Pool.Order

/-!
# The turns at the gates of a pool

At the gate of an instance the events come in, run and go out one after the
other: the trace of a gate is at any time a beginning of the trace in which the
first event passes, then the second, and so on.  Later gates are never ahead of
earlier ones, and no event gets past an instance in which it or an event before
it has failed.
-/

set_option autoImplicit false

namespace DetectorSim

variable {κ ω : Type} [Payload κ]

/-! ## Traces of a gate -/

/-- What an event does at an instance, in order. -/
def passageOf (event : Nat) : List (Nat × Passage) :=
  [(event, .enters), (event, .runs), (event, .leaves)]

/-- The first events pass one after the other. -/
def passagesUpTo (count : Nat) : List (Nat × Passage) :=
  (List.range' 1 count).flatMap passageOf

/-- The events that came in, in order. -/
def entrants (trace : List (Nat × Passage)) : List Nat :=
  (trace.filter fun passage => passage.2 = .enters).map Prod.fst

/-- The events that were granted the turn of the instance with an index, in
order. -/
def granted (index : Nat) (acts : List (Act κ)) : List Nat :=
  entrants (passages index acts)

theorem passagesUpTo_succ (count : Nat) :
    passagesUpTo (count + 1) = passagesUpTo count ++ passageOf (count + 1) := by
  unfold passagesUpTo
  rw [List.range'_concat, List.flatMap_append, List.flatMap_singleton, Nat.one_mul,
    Nat.add_comm 1]

@[simp] theorem entrants_append (trace rest : List (Nat × Passage)) :
    entrants (trace ++ rest) = entrants trace ++ entrants rest := by
  simp [entrants]

@[simp] theorem entrants_passagesUpTo (count : Nat) :
    entrants (passagesUpTo count) = List.range' 1 count := by
  induction count with
  | zero => rfl
  | succ count ih =>
    rw [passagesUpTo_succ, entrants_append, ih, List.range'_concat, Nat.one_mul,
      Nat.add_comm 1]
    rfl

/-! ## Holding a turn -/

namespace Stage

/-- What an event has done so far at the instance that it is inside of. -/
def begun : Stage κ → List (Nat × Passage)
  | .running event _ _ => [(event, .enters)]
  | .leaving event _ _ _ => [(event, .enters), (event, .runs)]
  | _ => []

/-- The mark of an event that is inside an instance. -/
theorem flight_of_isInside {stage : Stage κ} {index : Nat} (inside : stage.isInside index) :
    ∃ flight, stage.flight? = some flight ∧ 3 * index < flight.mark ∧
      flight.mark < 3 * index + 3 ∧ stage.begun <+: passageOf flight.event ∧
      entrants stage.begun = [flight.event] := by
  cases stage with
  | running event data place =>
    obtain rfl : place = index := inside
    exact ⟨_, rfl, Nat.lt_succ_self _, Nat.lt_succ_of_lt (Nat.lt_succ_self _), ⟨_, rfl⟩, rfl⟩
  | leaving event data place outcome =>
    obtain rfl : place = index := inside
    exact ⟨_, rfl, Nat.lt_succ_of_lt (Nat.lt_succ_self _), Nat.lt_succ_self _, ⟨_, rfl⟩, rfl⟩
  | _ => exact inside.elim

end Stage

/-- The worker with an index holds the turn of an instance. -/
def Pool.holds (pool : Pool κ ω) (i index : Nat) : Prop :=
  ∃ stage, pool.stage? i = some stage ∧ stage.isInside index

namespace Orderly

variable {events taken : Nat} {pool : Pool κ ω}

/-- The event inside an instance with a gate is the one whose turn it is. -/
theorem event_of_inside (orderly : Orderly events taken pool) {index i : Nat} {gate : Gate}
    {stage : Stage κ} (found : pool.gate? index = some gate) (was : pool.stage? i = some stage)
    (inside : stage.isInside index) :
    ∃ flight, pool.flight? i = some flight ∧ flight.event = gate.next ∧
      3 * index < flight.mark ∧ stage.begun <+: passageOf gate.next ∧
      entrants stage.begun = [gate.next] := by
  obtain ⟨flight, carries, above, below, begins, entered⟩ := Stage.flight_of_isInside inside
  have held := (Pool.flight?_of_stage? was).trans carries
  have turn := (orderly.placed found held).inside above below
  rw [turn] at begins entered
  exact ⟨flight, held, turn, above, begins, entered⟩

/-- At most one worker holds the turn of a gate. -/
theorem holder_unique (orderly : Orderly events taken pool) {index i j : Nat} {gate : Gate}
    (found : pool.gate? index = some gate) (held : pool.holds i index)
    (held' : pool.holds j index) : i = j := by
  obtain ⟨stage, was, inside⟩ := held
  obtain ⟨stage', was', inside'⟩ := held'
  obtain ⟨flight, carries, turn, -⟩ := orderly.event_of_inside found was inside
  obtain ⟨flight', carries', turn', -⟩ := orderly.event_of_inside found was' inside'
  exact orderly.distinct carries carries' (turn.trans turn'.symm)

end Orderly

/-! ## Moves at a gate -/

/-- What a step does at the gate of the instance with an index: the stage of the
worker and the event whose turn it is before and after it, and what is seen
there. -/
inductive Move (index : Nat) :
    Stage κ → Stage κ → Nat → Nat → Option (Nat × Passage) → Prop where
  | elsewhere {old new : Stage κ} {turn : Nat} (outside : ¬ old.isInside index)
      (outside' : ¬ new.isInside index) : Move index old new turn turn none
  | enters {event : Nat} {data : EventData κ} :
      Move index (.arriving event data index) (.running event data index) event event
        (some (event, .enters))
  | runs {event turn : Nat} {data after : EventData κ} {outcome : Outcome Unit} :
      Move index (.running event data index) (.leaving event after index outcome) turn turn
        (some (event, .runs))
  | leaves {event turn : Nat} {data : EventData κ} {outcome : Outcome Unit} {new : Stage κ}
      (outside' : ¬ new.isInside index) :
      Move index (.leaving event data index outcome) new turn (event + 1)
        (some (event, .leaves))

/-- Going out of an instance hands on the turn there, and nowhere else. -/
theorem Move.of_left {event index place : Nat} {data : EventData κ} {outcome : Outcome Unit}
    {new : Stage κ} {before gate : Gate}
    (gate_eq : gate = if place = index then before.handOn event else before)
    (outside' : ¬ new.isInside index) :
    Move index (.leaving event data place outcome) new before.next gate.next
      ((some (Act.left event place : Act κ)).bind (Act.passage? index)) := by
  by_cases here : place = index
  · have seen : (some (Act.left event place : Act κ)).bind (Act.passage? index)
        = some (event, .leaves) := if_pos here
    rw [if_pos here] at gate_eq
    subst here
    rw [seen, gate_eq, Gate.handOn_next]
    exact .leaves outside'
  · have unseen : (some (Act.left event place : Act κ)).bind (Act.passage? index) = none :=
      if_neg here
    rw [if_neg here] at gate_eq
    rw [unseen, gate_eq]
    exact .elsewhere here outside'

/-- A stage without an event is inside no instance. -/
theorem Stage.not_isInside_of_flight? {stage : Stage κ} (still : stage.flight? = none)
    (index : Nat) : ¬ stage.isInside index := by
  intro inside
  obtain ⟨flight, carries, -⟩ := Stage.flight_of_isInside inside
  rw [still] at carries
  cases carries

/-- Every course makes one move at each gate, and opens none again. -/
theorem RunPlan.Course.move {plan : RunPlan κ ω} {events : Nat} {pool next : Pool κ ω}
    {old new : Stage κ} {act : Option (Act κ)}
    (course : RunPlan.Course plan events pool next.next next.gates old new act) {index : Nat}
    {gate : Gate} (found : next.gate? index = some gate) :
    ∃ before, pool.gate? index = some before ∧ (before.aborted = true → gate.aborted = true) ∧
      Move index old new before.next gate.next (act.bind (Act.passage? index)) := by
  have same : next.gates = pool.gates → pool.gate? index = some gate := fun gates_eq =>
    (Pool.gate?_congr gates_eq index).symm.trans found
  generalize counter_is : next.next = counter at course
  generalize gates_is : next.gates = gates at course
  cases course with
  | aside unclaimed still still' opens alarms falls apart counter_eq gates_eq =>
    refine ⟨gate, same (gates_is.trans gates_eq), id, ?_⟩
    rw [(Act.unseen_of_isApart apart).2.2 index]
    exact .elsewhere (Stage.not_isInside_of_flight? still index)
      (Stage.not_isInside_of_flight? still' index)
  | exhausted beyond counter_eq gates_eq =>
    exact ⟨gate, same (gates_is.trans gates_eq), id, .elsewhere id id⟩
  | took within counter_eq gates_eq =>
    exact ⟨gate, same (gates_is.trans gates_eq), id, .elsewhere id id⟩
  | @entered event place data inside turn counter_eq gates_eq =>
    refine ⟨gate, same (gates_is.trans gates_eq), id, ?_⟩
    by_cases here : place = index
    · subst here
      obtain ⟨rfl, -⟩ := turn gate (same (gates_is.trans gates_eq))
      simpa [Act.passage?] using Move.enters
    · have unseen : (some (Act.entered event place : Act κ)).bind (Act.passage? index) = none :=
        if_neg here
      rw [unseen]
      exact .elsewhere id here
  | refused found' aborted counter_eq gates_eq =>
    exact ⟨gate, same (gates_is.trans gates_eq), id, .elsewhere id id⟩
  | completed beyond counter_eq gates_eq =>
    exact ⟨gate, same (gates_is.trans gates_eq), id, .elsewhere id id⟩
  | overflowed beyond counter_eq gates_eq =>
    exact ⟨gate, same (gates_is.trans gates_eq), id, .elsewhere id id⟩
  | @ran event place data visit event_eq index_eq before_eq inside counter_eq gates_eq =>
    refine ⟨gate, same (gates_is.trans gates_eq), id, ?_⟩
    by_cases here : place = index
    · subst here
      simpa [Act.passage?, index_eq, event_eq] using Move.runs
    · have unseen : (some (Act.offered visit)).bind (Act.passage? index) = none :=
        if_neg (index_eq ▸ here)
      rw [unseen]
      exact .elsewhere here here
  | @passed event place data counter_eq gates_eq =>
    obtain ⟨before, found', gate_eq⟩ :=
      Pool.exists_gate?_of_modify (gates_is.trans gates_eq) found
    refine ⟨before, found', by rw [gate_eq]; split <;> exact id, ?_⟩
    exact .of_left gate_eq id
  | @dropped event place data outcome new failed still shut alarms falls counter_eq gates_eq =>
    obtain ⟨before, found', gate_eq⟩ :=
      Pool.exists_gate?_of_modify (gates_is.trans gates_eq) found
    refine ⟨before, found', by rw [gate_eq]; split <;> exact id, ?_⟩
    exact .of_left gate_eq (Stage.not_isInside_of_flight? still index)
  | @closed place inside counter_eq gates_eq =>
    obtain ⟨before, found', rfl⟩ :=
      Pool.exists_gate?_of_modify (gates_is.trans gates_eq) found
    split
    · exact ⟨before, found', fun _ => rfl, .elsewhere id id⟩
    · exact ⟨before, found', id, .elsewhere id id⟩

/-! ## The trace of a gate -/

/-- The trace of the gate of the instance with an index: all events before the
one whose turn it is have passed, and the event inside has begun to. -/
structure Recorded (index : Nat) (acts : List (Act κ)) (pool : Pool κ ω) (gate : Gate) :
    Prop where
  vacant : (∀ i, ¬ pool.holds i index) → passages index acts = passagesUpTo (gate.next - 1)
  held : ∀ {i stage}, pool.stage? i = some stage → stage.isInside index →
    passages index acts = passagesUpTo (gate.next - 1) ++ stage.begun

namespace Recorded

variable {events taken index i : Nat} {pool next : Pool κ ω} {acts : List (Act κ)}
  {act : Option (Act κ)} {old new : Stage κ} {before gate : Gate}

/-- Every move at a gate extends its trace. -/
theorem step (recorded : Recorded index acts pool before)
    (orderly : Orderly events taken pool) (found : pool.gate? index = some before)
    (moved : pool.Replaces next i old new)
    (move : Move index old new before.next gate.next (act.bind (Act.passage? index))) :
    Recorded index (acts ++ act.toList) next gate := by
  -- While this worker is inside, no other one is.
  have alone : old.isInside index → ∀ j stage, pool.stage? j = some stage →
      stage.isInside index → j = i := fun inside j stage was inside' =>
    orderly.holder_unique found ⟨stage, was, inside'⟩ ⟨old, moved.was, inside⟩
  have bounds := orderly.turn found
  generalize seen_is : act.bind (Act.passage? index) = seen at move
  generalize turn_is : before.next = turn at move
  generalize turn_is' : gate.next = turn' at move
  refine ⟨fun nobody => ?_, fun {j stage} was inside => ?_⟩ <;>
    rw [passages_append, seen_is, turn_is']
  · cases move with
    | elsewhere outside outside' =>
      rw [Option.toList_none, List.append_nil, recorded.vacant, turn_is]
      rintro j ⟨stage, was, inside⟩
      by_cases same : j = i
      · subst same
        obtain rfl : stage = old := Option.some.inj (was.symm.trans moved.was)
        exact outside inside
      · exact nobody j ⟨stage, moved.stays same was, inside⟩
    | enters => exact absurd ⟨_, moved.here, rfl⟩ (nobody i)
    | runs => exact absurd ⟨_, moved.here, rfl⟩ (nobody i)
    | @leaves event _ data outcome new outside' =>
      obtain ⟨flight, carries, event_eq, -⟩ :=
        orderly.event_of_inside found moved.was rfl
      obtain rfl : flight = ⟨event, 3 * index + 2⟩ :=
        Option.some.inj (carries.symm.trans moved.flight_was)
      obtain ⟨count, rfl⟩ : ∃ count, event = count + 1 := ⟨before.next - 1, by
        simp only at event_eq
        omega⟩
      rw [recorded.held moved.was rfl, ← event_eq, Nat.add_sub_cancel, Nat.add_sub_cancel,
        passagesUpTo_succ, List.append_assoc]
      rfl
  · rcases moved.cases_stage was with ⟨rfl, rfl⟩ | ⟨other, was'⟩
    · cases move with
      | elsewhere outside outside' => exact absurd inside outside'
      | @enters event data =>
        rw [recorded.vacant, turn_is]
        · rfl
        · rintro k ⟨stage, was', inside'⟩
          obtain ⟨flight, carries, event_eq, -⟩ := orderly.event_of_inside found was' inside'
          obtain rfl := orderly.distinct carries moved.flight_was (event_eq.trans turn_is)
          obtain rfl := Option.some.inj (was'.symm.trans moved.was)
          exact inside'
      | runs =>
        rw [recorded.held moved.was rfl, turn_is, List.append_assoc]
        rfl
      | leaves outside' => exact absurd inside outside'
    · cases move with
      | elsewhere outside outside' =>
        rw [Option.toList_none, List.append_nil, recorded.held was' inside, turn_is]
      | enters =>
        obtain ⟨flight, carries, event_eq, -⟩ := orderly.event_of_inside found was' inside
        exact absurd (orderly.distinct carries moved.flight_was (event_eq.trans turn_is)) other
      | runs => exact absurd (alone rfl j stage was' inside) other
      | leaves outside' => exact absurd (alone rfl j stage was' inside) other

/-- The events that were granted the turn are the first ones up to the one whose
turn it is, which is counted if it is inside. -/
theorem granted_eq (recorded : Recorded index acts pool gate)
    (orderly : Orderly events taken pool) (found : pool.gate? index = some gate) :
    ∃ count, granted index acts = List.range' 1 count ∧
      passages index acts <+: passagesUpTo count ∧
      (count = gate.next - 1 ∨ count = gate.next ∧ ∃ i flight, pool.flight? i = some flight ∧
        flight.event = gate.next ∧ 3 * index < flight.mark) := by
  have bounds := orderly.turn found
  by_cases nobody : ∀ i, ¬ pool.holds i index
  · refine ⟨gate.next - 1, ?_, ?_, .inl rfl⟩
    · rw [granted, recorded.vacant nobody, entrants_passagesUpTo]
    · exact recorded.vacant nobody ▸ List.prefix_refl _
  · obtain ⟨i, stage, was, inside⟩ := not_forall_not.mp nobody
    obtain ⟨flight, carries, event_eq, above, begins, entered⟩ :=
      orderly.event_of_inside found was inside
    have trace := recorded.held was inside
    obtain ⟨passed, next_eq⟩ : ∃ passed, gate.next = passed + 1 := ⟨gate.next - 1, by omega⟩
    rw [next_eq, Nat.add_sub_cancel] at trace
    rw [next_eq] at begins entered
    refine ⟨passed + 1, ?_, ?_, .inr ⟨next_eq.symm, i, flight, carries, event_eq, above⟩⟩
    · rw [granted, trace, entrants_append, entrants_passagesUpTo, entered, List.range'_concat,
        Nat.one_mul, Nat.add_comm 1]
    · rw [trace, passagesUpTo_succ]
      exact (List.prefix_append_right_inj _).mpr begins

end Recorded

/-! ## Events that have failed -/

/-- The instance neither ran nor was skipped. -/
def Visit.hasFailed (visit : Visit κ) : Prop :=
  ∀ ran, visit.outcome ≠ .ok ran

/-- After a visit that has failed the event gets no further, and at no later gate
the turn gets past it. -/
structure Fallen (taken : Nat) (pool : Pool κ ω) (visit : Visit κ) : Prop where
  taken : visit.event ≤ taken
  stuck : ∀ {i stage flight}, pool.stage? i = some stage → stage.flight? = some flight →
    flight.event = visit.event → flight.mark = 3 * visit.index + 2 ∧ stage.isDoomed
  shut : ∀ {index gate}, visit.index < index → pool.gate? index = some gate →
    gate.next ≤ visit.event

/-- Only an event that goes out moves the turn. -/
theorem Move.turn_cases {index turn turn' : Nat} {old new : Stage κ}
    {seen : Option (Nat × Passage)} (move : Move index old new turn turn' seen) :
    turn' = turn ∨ ∃ event, old.flight? = some ⟨event, 3 * index + 2⟩ ∧ turn' = event + 1 := by
  cases move with
  | elsewhere outside outside' => exact .inl rfl
  | enters => exact .inl rfl
  | runs => exact .inl rfl
  | leaves outside' => exact .inr ⟨_, rfl, rfl⟩

namespace Fallen

variable {plan : RunPlan κ ω} {events taken i : Nat} {pool next : Pool κ ω}
  {act : Option (Act κ)} {old new : Stage κ} {visit : Visit κ}

/-- An event that has failed stays where it has. -/
theorem step (fallen : Fallen taken pool visit) (orderly : Orderly events taken pool)
    (fits : events + pool.workers.length < 2 ^ 64) (moved : pool.Replaces next i old new)
    (course : RunPlan.Course plan events pool next.next next.gates old new act) :
    Fallen taken next visit := by
  refine ⟨fallen.taken, ?_, ?_⟩
  · intro j stage flight was carries same
    rcases moved.cases_stage was with ⟨-, rfl⟩ | ⟨-, was⟩
    · have stuck : ∀ flight', old.flight? = some flight' → flight'.event = visit.event →
          flight'.mark = 3 * visit.index + 2 ∧ old.isDoomed :=
        fun _ carries' => fallen.stuck moved.was carries'
      cases course with
      | aside unclaimed still still' => simp [still'] at carries
      | exhausted => cases carries
      | took within =>
        obtain rfl := Option.some.inj carries
        have event_eq := orderly.next_eq fits moved.was rfl within
        have := fallen.taken
        simp only at same
        omega
      | entered =>
        obtain rfl := Option.some.inj carries
        exact (stuck _ rfl same).2.elim
      | refused => cases carries
      | completed => cases carries
      | overflowed => cases carries
      | ran event_eq =>
        obtain rfl := Option.some.inj carries
        exact (stuck _ rfl same).2.elim
      | passed =>
        obtain rfl := Option.some.inj carries
        exact absurd rfl (stuck _ rfl same).2
      | dropped failed still => simp [still] at carries
      | closed => cases carries
    · exact fallen.stuck was carries same
  · intro index gate later found
    obtain ⟨before, found', -, move⟩ := course.move found
    have shut := fallen.shut later found'
    rcases move.turn_cases with gate_eq | ⟨event, carries, gate_eq⟩
    · exact gate_eq ▸ shut
    · have held := moved.flight_was.trans carries
      have turn := (orderly.placed found' held).inside (by simp) (by simp)
      simp only at turn
      by_cases same : event = visit.event
      · have place := (fallen.stuck moved.was carries same).1
        simp only at place
        omega
      · omega

/-- An event that fails is stuck. -/
theorem of_offered (orderly : Orderly events taken pool) (moved : pool.Replaces next i old new)
    (course : RunPlan.Course plan events pool next.next next.gates old new act)
    (offered : act.bind Act.visit? = some visit) (failed : visit.hasFailed) :
    Fallen taken next visit := by
  cases course with
  | @ran event index data visit' event_eq index_eq before_eq inside counter_eq gates_eq =>
    obtain rfl : visit' = visit := Option.some.inj offered
    have held : pool.flight? i = some ⟨event, 3 * index + 1⟩ := moved.flight_was
    rw [← event_eq, ← index_eq] at held
    refine ⟨(orderly.carried held).2, ?_, ?_⟩
    · intro j stage flight was carries same
      rcases moved.cases_stage was with ⟨-, rfl⟩ | ⟨other, was⟩
      · obtain rfl := Option.some.inj carries
        refine ⟨by rw [index_eq], ?_⟩
        cases ended : visit'.outcome with
        | ok ran => exact absurd ended (failed ran)
        | error err => simp [Stage.isDoomed, Outcome.map]
        | panic text => simp [Stage.isDoomed, Outcome.map]
      · have held' := (Pool.flight?_of_stage? was).trans carries
        exact absurd (orderly.distinct held' held same) other
    · intro place gate later found
      rw [Pool.gate?_congr gates_eq] at found
      exact (orderly.placed found held).ahead (by simp only; omega)
  | aside unclaimed still still' opens alarms falls apart =>
    rw [(Act.unseen_of_isApart apart).2.1] at offered
    cases offered
  | _ => cases offered

end Fallen

/-! ## Every run keeps the turns -/

namespace RunPlan

variable [DecidableEq κ] {plan : RunPlan κ ω} {events workers : Nat} {tallies : List Tally}
  {env : Env ω} {acts : List (Act κ)} {pool : Pool κ ω}

/-- In every run the traces of all gates are as their turns say. -/
theorem History.recorded (fits : events + workers < 2 ^ 64)
    (history : plan.History events (plan.startPool workers tallies env) acts pool)
    {index : Nat} {gate : Gate} (found : pool.gate? index = some gate) :
    Recorded index acts pool gate := by
  induction history generalizing gate with
  | start =>
    obtain ⟨-, rfl⟩ := gate?_startPool.mp found
    refine ⟨fun _ => rfl, fun was inside => ?_⟩
    rw [stage?_startPool was] at inside
    exact inside.elim
  | step choice before known step ih =>
    obtain ⟨new, moved, course⟩ := course_of_step? plan events _ _ known step
    obtain ⟨gate', found', -, move⟩ := course.move found
    exact (ih found').step (before.orderly fits).2 found' moved move

/-- In every run all events that have failed are stuck. -/
theorem History.fallen (fits : events + workers < 2 ^ 64)
    (history : plan.History events (plan.startPool workers tallies env) acts pool)
    {visit : Visit κ} (made : visit ∈ visits acts) (failed : visit.hasFailed) :
    Fallen (takenEvents acts).length pool visit := by
  induction history with
  | start => cases made
  | @step acts pool next worker choice before known step ih =>
    obtain ⟨new, moved, course⟩ := course_of_step? plan events _ _ known step
    have orderly := (before.orderly fits).2
    have fallen : Fallen (takenEvents acts).length next visit := by
      rw [visits_append, List.mem_append, Option.mem_toList] at made
      rcases made with made | offered
      · exact (ih made).step orderly (before.fits_workers fits) moved course
      · exact Fallen.of_offered orderly moved course offered failed
    refine ⟨Nat.le_trans fallen.taken ?_, fallen.stuck, fallen.shut⟩
    rw [takenEvents_append, List.length_append]
    exact Nat.le_add_right _ _

/-- The turns of a run: at each gate the events come in, run and go out one after
the other from the first one on, and only one of them is inside; later gates
are not ahead of earlier ones; and behind an instance in which an event has
failed, no gate grants a turn to it or to an event after it. -/
structure InTurn (plan : RunPlan κ ω) (acts : List (Act κ)) (pool : Pool κ ω) : Prop where
  ascending : ∀ {index}, plan.isGated index → ∃ count,
    granted index acts = List.range' 1 count ∧ passages index acts <+: passagesUpTo count
  alone : ∀ {index i j}, plan.isGated index → pool.holds i index → pool.holds j index → i = j
  descending : ∀ {first second}, first < second → plan.isGated first →
    plan.isGated second → (granted second acts).length ≤ (granted first acts).length
  barred : ∀ {visit}, visit ∈ visits acts → visit.hasFailed → ∀ {index event},
    plan.isGated index → visit.index < index → visit.event ≤ event →
    event ∉ granted index acts

/-- In every run, whatever the modules do and the scheduler decides, the gates are
passed in turn. -/
theorem History.inTurn (fits : events + workers < 2 ^ 64)
    (history : plan.History events (plan.startPool workers tallies env) acts pool) :
    plan.InTurn acts pool := by
  have orderly := (history.orderly fits).2
  refine ⟨?_, ?_, ?_, ?_⟩
  · intro index gated
    obtain ⟨gate, found⟩ := (history.gate?_iff index).mpr gated
    obtain ⟨count, ascending, started, -⟩ :=
      (history.recorded fits found).granted_eq orderly found
    exact ⟨count, ascending, started⟩
  · intro index i j gated held held'
    obtain ⟨gate, found⟩ := (history.gate?_iff index).mpr gated
    exact orderly.holder_unique found held held'
  · intro first second lt gated gated'
    obtain ⟨gate, found⟩ := (history.gate?_iff first).mpr gated
    obtain ⟨gate', found'⟩ := (history.gate?_iff second).mpr gated'
    obtain ⟨count, ascending, -, counted⟩ :=
      (history.recorded fits found).granted_eq orderly found
    obtain ⟨count', ascending', -, counted'⟩ :=
      (history.recorded fits found').granted_eq orderly found'
    have falls := orderly.descending lt found found'
    rw [ascending, ascending', List.length_range', List.length_range']
    rcases counted' with count_eq | ⟨count_eq, i, flight, carries, turn, above⟩
    · rcases counted with count_eq' | ⟨count_eq', -⟩ <;> omega
    · -- The event inside the later instance is already behind the earlier gate.
      have behind := (orderly.placed found carries).behind (by omega)
      rcases counted with count_eq' | ⟨count_eq', -⟩ <;> omega
  · intro visit made failed index event gated later reached turned
    have fallen := history.fallen fits made failed
    obtain ⟨gate, found⟩ := (history.gate?_iff index).mpr gated
    obtain ⟨count, ascending, -, counted⟩ :=
      (history.recorded fits found).granted_eq orderly found
    have shut := fallen.shut later found
    rw [ascending, List.mem_range'_1] at turned
    rcases counted with count_eq | ⟨count_eq, i, flight, carries, turn, above⟩
    · omega
    · obtain ⟨stage, was, flown⟩ := Option.bind_eq_some_iff.mp carries
      have stuck := fallen.stuck was flown (by omega)
      omega

/-- Three events on two workers, of which the second one fails at the first of two
gates. -/
theorem inTurn_runToEnd_counting :
    ∃ acts, (ofModules [.counting 2, .counting 0]).InTurn acts
      ((ofModules [.counting 2, .counting 0]).runToEnd 3
        ((ofModules [.counting 2, .counting 0]).startPool 2 [.zero, .zero] ⟨0, .empty⟩)) := by
  obtain ⟨acts, history⟩ := exists_history_runToEnd (ofModules [.counting 2, .counting 0]) 3
    ((ofModules [.counting 2, .counting 0]).startPool 2 [.zero, .zero] ⟨0, .empty⟩)
  exact ⟨acts, history.inTurn (by decide)⟩

end RunPlan

end DetectorSim
