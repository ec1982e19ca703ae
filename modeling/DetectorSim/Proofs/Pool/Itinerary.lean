import DetectorSim.Proofs.Pool.Census

/-!
# Tours that are cut short

A run that fails leaves events behind that were not at all instances.  Still every
event goes to one instance after the other from the first one on, so it is offered
to none of them twice, on one thread and on a pool alike.

On a pool this depends on the counter of the events, which has 64 bits.  It matters
how far it was counted, not how many events were asked for: a run in which few events
were taken is also a run in which few were asked for.
-/

set_option autoImplicit false

namespace DetectorSim

namespace RunPlan

variable {κ ω : Type} [Payload κ] [DecidableEq κ] {plan : RunPlan κ ω}
  {events most workers : Nat} {tallies : List Tally} {env : Env ω} {acts : List (Act κ)}
  {pool : Pool κ ω}

/-! ## On a pool -/

/-- The number of events that are asked for matters to a step only where it decides
whether another event is taken. -/
theorem advance?_congr (choice : Choice) {worker : Worker κ}
    (same : worker.stage = .claiming → (events < pool.next ↔ most < pool.next)) :
    plan.advance? events pool choice worker = plan.advance? most pool choice worker ∧
      plan.act? events pool worker = plan.act? most pool worker := by
  unfold advance? act?
  cases stage : worker.stage with
  | claiming => simp only [claim, same stage, and_self]
  | _ => exact ⟨rfl, rfl⟩

theorem step?_congr {choice : Choice} {worker : Worker κ}
    (found : pool.workers[choice.worker]? = some worker)
    (same : worker.stage = .claiming → (events < pool.next ↔ most < pool.next)) :
    plan.step? events pool choice = plan.step? most pool choice := by
  simp only [step?, found, (advance?_congr choice same).1]

omit [DecidableEq κ] in
/-- A step takes no event and does not move the counter, or it finds the counter beyond
the last event, or it takes the event that the counter is at. -/
theorem Course.counter_cases {next : Pool κ ω} {old new : Stage κ} {act : Option (Act κ)}
    (course : Course plan events pool next.next next.gates old new act) :
    (old ≠ .claiming ∧ next.next = pool.next ∧ act.bind Act.taken? = none) ∨
      (old = .claiming ∧ events < pool.next) ∨
      (old = .claiming ∧ pool.next ≤ events ∧ next.next = (pool.next + 1) % 2 ^ 64 ∧
        act.bind Act.taken? = some pool.next) := by
  cases course with
  | aside unclaimed still still' opens alarms falls apart counter_eq =>
    exact .inl ⟨unclaimed, counter_eq, (Act.unseen_of_isApart apart).1⟩
  | exhausted beyond => exact .inr (.inl ⟨rfl, beyond⟩)
  | took within counter_eq => exact .inr (.inr ⟨rfl, within, counter_eq, rfl⟩)
  | entered _ _ counter_eq => exact .inl ⟨nofun, counter_eq, rfl⟩
  | refused _ _ counter_eq => exact .inl ⟨nofun, counter_eq, rfl⟩
  | completed _ counter_eq => exact .inl ⟨nofun, counter_eq, rfl⟩
  | overflowed _ counter_eq => exact .inl ⟨nofun, counter_eq, rfl⟩
  | ran _ _ _ _ counter_eq => exact .inl ⟨nofun, counter_eq, rfl⟩
  | passed counter_eq => exact .inl ⟨nofun, counter_eq, rfl⟩
  | dropped _ _ _ _ _ counter_eq => exact .inl ⟨nofun, counter_eq, rfl⟩
  | closed _ counter_eq => exact .inl ⟨nofun, counter_eq, rfl⟩

/-- A run in which few events were taken is also a run in which few were asked for. -/
theorem History.curtail
    (history : plan.History events (plan.startPool workers tallies env) acts pool)
    (few : (takenEvents acts).length ≤ most) (fewer : most < events) (small : most + 1 < 2 ^ 64) :
    plan.History most (plan.startPool workers tallies env) acts pool ∧
      pool.next = (takenEvents acts).length + 1 := by
  induction history with
  | start => exact ⟨.start, rfl⟩
  | @step acts pool next worker choice before found step ih =>
    rw [takenEvents_append, List.length_append] at few ⊢
    obtain ⟨shorter, counter⟩ := ih (by omega)
    obtain ⟨new, moved, course⟩ := course_of_step? plan events pool worker found step
    rcases course.counter_cases with ⟨unclaimed, counter_eq, untaken⟩ | ⟨-, beyond⟩ |
      ⟨claiming, within, counter_eq, taken⟩
    · have same : worker.stage = .claiming → (events < pool.next ↔ most < pool.next) :=
        fun claiming => absurd claiming unclaimed
      rw [untaken, (advance?_congr choice same).2]
      exact ⟨.step choice shorter found (step?_congr found same ▸ step), counter_eq.trans counter⟩
    · omega
    · rw [taken, Option.toList_some, List.length_singleton] at few ⊢
      have same : worker.stage = .claiming → (events < pool.next ↔ most < pool.next) :=
        fun _ => ⟨fun _ => by omega, fun _ => by omega⟩
      rw [(advance?_congr choice same).2]
      refine ⟨.step choice shorter found (step?_congr found same ▸ step), ?_⟩
      rw [counter_eq, Nat.mod_eq_of_lt (by omega), counter]

/-- An event that was offered to an instance before has been at all those before it. -/
theorem History.exists_stops_eq_of_fits (fits : events + workers < 2 ^ 64)
    (history : plan.History events (plan.startPool workers tallies env) acts pool) (event : Nat) :
    ∃ reached, stops event acts = List.range reached := by
  induction history with
  | start => exact ⟨0, rfl⟩
  | @step acts pool next worker choice before found step ih =>
    obtain ⟨new, moved, course⟩ := course_of_step? plan events pool worker found step
    cases visited : (plan.act? events pool worker).bind Act.visit? with
    | none =>
      rw [stops_of_unvisited visited]
      exact ih
    | some visit =>
      rw [stops_of_visit visited]
      by_cases same : visit.event = event
      · obtain ⟨-, carried, -⟩ := course.carries_of_visit visited
        have toured := (before.toured fits).flying (moved.flight_was.trans carried)
        have offers : (⟨visit.event, 3 * visit.index + 1⟩ : Flight).offers = visit.index := by
          simp only [Flight.offers]
          omega
        rw [offers, same] at toured
        exact ⟨visit.index + 1, by rw [toured, if_pos same, List.range_succ]⟩
      · rw [if_neg same, List.append_nil]
        exact ih

/-- On a pool every event goes to one instance after the other from the first one on,
as far as it comes, unless the counter of the events has started again. -/
theorem History.exists_stops_eq (some_worker : 0 < workers)
    (few : (takenEvents acts).length + workers < 2 ^ 64)
    (history : plan.History events (plan.startPool workers tallies env) acts pool) (event : Nat) :
    ∃ reached, stops event acts = List.range reached := by
  by_cases fits : events + workers < 2 ^ 64
  · exact history.exists_stops_eq_of_fits fits event
  · obtain ⟨shorter, -⟩ := history.curtail (Nat.le_refl _) (by omega) (by omega)
    exact shorter.exists_stops_eq_of_fits few event

/-! ## On one thread -/

/-- The visits of an event at some instances are made one after the other. -/
theorem exists_visitsOf_eq (plan : RunPlan κ ω) (event index : Nat)
    (instances : List (Instance κ ω)) (state : List Tally × EventState κ ω) :
    (∀ visit ∈ plan.visitsOf event index instances state, visit.event = event) ∧
      ∃ reached, (plan.visitsOf event index instances state).map Visit.index
        = List.range' index reached := by
  induction instances generalizing index state with
  | nil => exact ⟨nofun, 0, rfl⟩
  | cons inst rest ih =>
    rw [visitsOf]
    generalize inst.offer plan.messenger index state = result
    obtain ⟨outcome, after⟩ := result
    cases outcome with
    | ok value =>
      obtain ⟨own, reached, placed⟩ := ih (index + 1) after
      refine ⟨?_, reached + 1, ?_⟩
      · rintro visit (_ | ⟨_, among⟩)
        · rfl
        · exact own visit among
      · rw [List.map_cons, placed, List.range'_succ]
        rfl
    | error err => exact ⟨by simp [Instance.visitBy], 1, rfl⟩
    | panic text => exact ⟨by simp [Instance.visitBy], 1, rfl⟩

omit [DecidableEq κ] in
/-- The visits of one event, and what comes of the later ones. -/
theorem exists_stops_took {event first reached : Nat} {made : List (Visit κ)}
    {rest : List (Act κ)} (own : ∀ visit ∈ made, visit.event = first)
    (placed : made.map Visit.index = List.range' 0 reached)
    (later : ∃ further, stops event rest = List.range further ∧ (event < first + 1 → further = 0)) :
    ∃ further, stops event (.took first :: (made.map .offered ++ rest)) = List.range further ∧
      (event < first → further = 0) := by
  obtain ⟨further, toured, untouched⟩ := later
  rw [stops, visits_took_offered, List.filter_append, List.map_append, ← stops, toured]
  by_cases now : event = first
  · have all : made.filter (fun visit => visit.event = event) = made :=
      List.filter_eq_self.mpr fun visit among => by simpa [now] using own visit among
    refine ⟨reached, ?_, fun early => absurd now (Nat.ne_of_lt early)⟩
    rw [all, placed, untouched (by omega), List.range_zero, List.append_nil, List.range_eq_range']
  · have nothing : made.filter (fun visit => visit.event = event) = [] :=
      List.filter_eq_nil_iff.mpr fun visit among => by simpa [own visit among] using Ne.symm now
    rw [nothing]
    exact ⟨further, rfl, fun early => untouched (by omega)⟩

/-- On one thread every event goes to one instance after the other from the first one
on, as far as it comes, and no event before the first one is offered to any. -/
theorem exists_stops_serialActs (event first count : Nat) (state : List Tally × Env ω) :
    ∃ reached, stops event (plan.serialActs first count state) = List.range reached ∧
      (event < first → reached = 0) := by
  induction count generalizing first state with
  | zero => exact ⟨0, rfl, fun _ => rfl⟩
  | succ count ih =>
    obtain ⟨own, reached, placed⟩ := plan.exists_visitsOf_eq first 0 plan.instances
      (state.1, plan.arrival first state.2)
    rw [serialActs]
    apply exists_stops_took own placed
    generalize plan.processEvent first state = result
    obtain ⟨outcome, after⟩ := result
    cases outcome with
    | ok value => exact ih (first + 1) after
    | error err => exact ⟨0, rfl, fun _ => rfl⟩
    | panic text => exact ⟨0, rfl, fun _ => rfl⟩

end RunPlan

end DetectorSim
