import DetectorSim.Proofs.Pool.Capacity

/-!
# The end of a run

As long as no call has failed, every event that was taken goes to one instance
after the other until it was at all of them, and no worker retires before all
events were taken.  So a run in which nothing fails leaves nothing out, and with
the accounts of the failures its outcome is known in all cases.
-/

set_option autoImplicit false

namespace DetectorSim

variable {κ ω : Type} [Payload κ]

/-! ## The tour of an event -/

/-- The instances that an event was offered to, in order. -/
def stops (event : Nat) (acts : List (Act κ)) : List Nat :=
  ((visits acts).filter fun visit => visit.event = event).map Visit.index

theorem stops_of_unvisited {acts : List (Act κ)} {act : Option (Act κ)}
    (unvisited : act.bind Act.visit? = none) (event : Nat) :
    stops event (acts ++ act.toList) = stops event acts := by
  rw [stops, stops, visits_of_unvisited unvisited]

theorem stops_of_visit {acts : List (Act κ)} {act : Option (Act κ)} {visit : Visit κ}
    (visited : act.bind Act.visit? = some visit) (event : Nat) :
    stops event (acts ++ act.toList)
      = stops event acts ++ if visit.event = event then [visit.index] else [] := by
  rw [stops, visits_of_visit visited, List.filter_append, List.map_append, ← stops]
  by_cases same : visit.event = event <;> simp [same]

/-- The number of instances that an event in flight was offered to. -/
def Flight.offers (flight : Flight) : Nat :=
  (flight.mark + 1) / 3

/-- Events are offered to the instances in the order of the list.  Those that were
taken and are not in flight any more were at all instances, and only when all
events were taken a worker retires, unless a hook has failed. -/
structure Toured (plan : RunPlan κ ω) (events taken : Nat) (acts : List (Act κ))
    (pool : Pool κ ω) : Prop where
  within : ∀ {i flight}, pool.flight? i = some flight →
    flight.mark ≤ 3 * plan.instances.length
  flying : ∀ {i flight}, pool.flight? i = some flight →
    stops flight.event acts = List.range flight.offers
  fresh : ∀ {event}, taken < event → stops event acts = []
  landed : isCalm acts → ∀ {event}, 1 ≤ event → event ≤ taken →
    (∀ i flight, pool.flight? i = some flight → flight.event ≠ event) →
    stops event acts = List.range plan.instances.length
  drained : isCalm acts → ∀ {i stage}, pool.stage? i = some stage →
    stage.isOpen = false → taken = events

namespace RunPlan.Course

variable {plan : RunPlan κ ω} {events i : Nat} {pool next : Pool κ ω} {old new : Stage κ}
  {act : Option (Act κ)}

/-- An event that is not offered to an instance stays where it is on its tour. -/
theorem tour_on (course : Course plan events pool next.next next.gates old new act)
    (seated : ∀ {index}, old.isInside index → index < plan.instances.length)
    (unvisited : act.bind Act.visit? = none) (untaken : act.bind Act.taken? = none)
    {flight : Flight} (carries : new.flight? = some flight) :
    ∃ before, old.flight? = some before ∧ before.event = flight.event ∧
      before.offers = flight.offers ∧
      (before.mark ≤ 3 * plan.instances.length → flight.mark ≤ 3 * plan.instances.length) := by
  cases course with
  | aside _ _ still' => rw [still'] at carries; cases carries
  | took => cases untaken
  | entered inside =>
    obtain rfl := Option.some.inj carries
    refine ⟨_, rfl, rfl, ?_, fun _ => ?_⟩ <;> simp only [Flight.offers] <;> omega
  | ran => cases unvisited
  | passed =>
    obtain rfl := Option.some.inj carries
    have inside := seated rfl
    refine ⟨_, rfl, rfl, ?_, fun _ => ?_⟩ <;> simp only [Flight.offers] <;> omega
  | dropped failed still => rw [still] at carries; cases carries
  | _ => cases carries

/-- An event that is not in flight any more was at all instances, unless a hook has
failed. -/
theorem lands (course : Course plan events pool next.next next.gates old new act)
    {flight : Flight} (carries : old.flight? = some flight) :
    (∃ after, new.flight? = some after ∧ after.event = flight.event) ∨
      3 * plan.instances.length ≤ flight.mark ∨ old.burden ≠ .ok () ∨ new.burden ≠ .ok () := by
  cases course with
  | aside _ still => rw [still] at carries; cases carries
  | exhausted => cases carries
  | took => cases carries
  | entered => exact .inl ⟨_, rfl, Option.some.inj carries ▸ rfl⟩
  | refused => exact .inr (.inr (.inr nofun))
  | completed beyond =>
    obtain rfl := Option.some.inj carries
    exact .inr (.inl (Nat.mul_le_mul_left 3 beyond))
  | overflowed => exact .inr (.inr (.inr nofun))
  | ran => exact .inl ⟨_, rfl, Option.some.inj carries ▸ rfl⟩
  | passed => exact .inl ⟨_, rfl, Option.some.inj carries ▸ rfl⟩
  | dropped failed => exact .inr (.inr (.inl failed))
  | closed => cases carries

/-- An event that is offered to an instance is inside of it. -/
theorem carries_of_visit
    (course : Course plan events pool next.next next.gates old new act) {visit : Visit κ}
    (visited : act.bind Act.visit? = some visit) : visit.index < plan.instances.length ∧
      old.flight? = some ⟨visit.event, 3 * visit.index + 1⟩ ∧
      new.flight? = some ⟨visit.event, 3 * visit.index + 2⟩ := by
  cases course with
  | aside _ _ _ _ _ _ apart =>
    rw [(Act.unseen_of_isApart apart).2.1] at visited
    cases visited
  | ran event_eq index_eq before_eq inside =>
    obtain rfl := Option.some.inj visited
    rw [event_eq, index_eq]
    exact ⟨inside, rfl, rfl⟩
  | _ => cases visited

end RunPlan.Course

namespace Toured

variable {plan : RunPlan κ ω} {events taken i : Nat} {pool next : Pool κ ω}
  {old new : Stage κ} {acts : List (Act κ)} {act : Option (Act κ)}

/-- A worker that retires has seen that all events were taken, unless a hook has
failed. -/
theorem drained_step (toured : Toured plan events taken acts pool)
    (orderly : Orderly events taken pool) (honest : Honest acts pool)
    (honest' : Honest (acts ++ act.toList) next)
    (fits : events + pool.workers.length < 2 ^ 64) (moved : pool.Replaces next i old new)
    (course : RunPlan.Course plan events pool next.next next.gates old new act)
    (toll : RunPlan.Toll pool next old new act) (calm : isCalm (acts ++ act.toList))
    {j : Nat} {stage : Stage κ} (was : next.stage? j = some stage)
    (shut : stage.isOpen = false) : taken = events := by
  have calm' := isCalm_of_append calm
  rcases moved.cases_stage was with ⟨-, rfl⟩ | ⟨-, was⟩
  · cases opened : old.isOpen with
    | false => exact toured.drained calm' moved.was opened
    | true =>
      have unburdened := (honest'.of_calm calm).2.2 _ _ moved.here
      cases toll with
      | quiet silent burden_eq raised opens =>
        rcases opens opened unburdened with still_open | stopped | rfl
        · rw [shut] at still_open
          cases still_open
        · exact absurd (honest.of_calm calm').1 (honest.stopped (.inl stopped))
        · cases course with
          | aside unclaimed => exact absurd rfl unclaimed
          | exhausted beyond => exact orderly.drained fits moved.was rfl beyond
          | took => cases shut
      | @called _ _ _ outcome _ called _ _ _ _ opens =>
        have fine : outcome = .ok () := calm outcome (by simp [calls_append, called])
        rw [opens opened fine] at shut
        cases shut
      | refused => cases unburdened
      | contained => cases opened
      | kept => cases opened
  · exact toured.drained calm' was shut

/-- A step in which no event is taken and none is offered to an instance. -/
theorem keep (toured : Toured plan events taken acts pool) (orderly : Orderly events taken pool)
    (vital : Vital plan taken pool) (honest : Honest acts pool)
    (honest' : Honest (acts ++ act.toList) next)
    (fits : events + pool.workers.length < 2 ^ 64) (moved : pool.Replaces next i old new)
    (course : RunPlan.Course plan events pool next.next next.gates old new act)
    (toll : RunPlan.Toll pool next old new act) (unvisited : act.bind Act.visit? = none)
    (untaken : act.bind Act.taken? = none) :
    Toured plan events taken (acts ++ act.toList) next := by
  have origin : ∀ {j flight}, next.flight? j = some flight →
      ∃ before, pool.flight? j = some before ∧ before.event = flight.event ∧
        before.offers = flight.offers ∧
        (before.mark ≤ 3 * plan.instances.length → flight.mark ≤ 3 * plan.instances.length) := by
    intro j flight carries
    rcases moved.cases_flight carries with ⟨rfl, now⟩ | ⟨-, was⟩
    · rw [moved.flight_was]
      exact course.tour_on (vital.seated moved.was) unvisited untaken now
    · exact ⟨flight, was, rfl, rfl, id⟩
  refine ⟨?_, ?_, ?_, ?_, fun calm _ _ was shut =>
    toured.drained_step orderly honest honest' fits moved course toll calm was shut⟩
  · intro j flight carries
    obtain ⟨before, carries', -, -, bound⟩ := origin carries
    exact bound (toured.within carries')
  · intro j flight carries
    obtain ⟨before, carries', event_eq, offers_eq, -⟩ := origin carries
    rw [stops_of_unvisited unvisited, ← event_eq, ← offers_eq]
    exact toured.flying carries'
  · intro event later
    rw [stops_of_unvisited unvisited]
    exact toured.fresh later
  · intro calm event least most grounded
    have calm' := isCalm_of_append calm
    rw [stops_of_unvisited unvisited]
    by_cases flown : ∃ flight, old.flight? = some flight ∧ flight.event = event
    · obtain ⟨flight, carries, rfl⟩ := flown
      have held := moved.flight_was.trans carries
      rcases course.lands carries with ⟨after, carries', same⟩ | through | burden | burden
      · exact absurd same (grounded i after (moved.flight_now.trans carries'))
      · rw [toured.flying held]
        have bound := toured.within held
        congr 1
        unfold Flight.offers
        omega
      · exact absurd ((honest.of_calm calm').2.2 _ _ moved.was) burden
      · exact absurd ((honest'.of_calm calm).2.2 _ _ moved.here) burden
    · refine toured.landed calm' least most fun j flight carries same => ?_
      by_cases here : j = i
      · subst here
        exact flown ⟨flight, moved.flight_was.symm.trans carries, same⟩
      · exact grounded j flight (moved.flight_stays here carries) same

/-- A step in which an event is taken. -/
theorem take (toured : Toured plan events taken acts pool) (moved : pool.Replaces next i old new)
    (unvisited : act.bind Act.visit? = none) (still : old.flight? = none)
    (opened : new.isOpen = true) (within : taken + 1 ≤ events)
    (carries : new.flight? = some ⟨taken + 1, 0⟩) :
    Toured plan events (taken + 1) (acts ++ act.toList) next := by
  have fresh := toured.fresh (Nat.lt_succ_self taken)
  refine ⟨?_, ?_, ?_, ?_, ?_⟩
  · intro j flight carries'
    rcases moved.cases_flight carries' with ⟨-, now⟩ | ⟨-, was⟩
    · obtain rfl := Option.some.inj (carries.symm.trans now)
      exact Nat.zero_le _
    · exact toured.within was
  · intro j flight carries'
    rw [stops_of_unvisited unvisited]
    rcases moved.cases_flight carries' with ⟨-, now⟩ | ⟨-, was⟩
    · obtain rfl := Option.some.inj (carries.symm.trans now)
      simpa [Flight.offers] using fresh
    · exact toured.flying was
  · intro event later
    rw [stops_of_unvisited unvisited]
    exact toured.fresh (Nat.lt_of_succ_lt later)
  · intro calm event least most grounded
    have other : event ≠ taken + 1 := by
      rintro rfl
      exact grounded i ⟨taken + 1, 0⟩ (moved.flight_now.trans carries) rfl
    rw [stops_of_unvisited unvisited]
    refine toured.landed (isCalm_of_append calm) least (by omega) fun j flight carries' => ?_
    have apart : j ≠ i := by
      rintro rfl
      rw [moved.flight_was, still] at carries'
      cases carries'
    exact grounded j flight (moved.flight_stays apart carries')
  · intro calm j stage was shut
    rcases moved.cases_stage was with ⟨-, rfl⟩ | ⟨-, was⟩
    · rw [opened] at shut
      cases shut
    · have := toured.drained (isCalm_of_append calm) was shut
      omega

/-- A step in which an event is offered to an instance. -/
theorem offer (toured : Toured plan events taken acts pool) (orderly : Orderly events taken pool)
    (honest : Honest acts pool) (honest' : Honest (acts ++ act.toList) next)
    (fits : events + pool.workers.length < 2 ^ 64) (moved : pool.Replaces next i old new)
    (course : RunPlan.Course plan events pool next.next next.gates old new act)
    (toll : RunPlan.Toll pool next old new act) {visit : Visit κ}
    (visited : act.bind Act.visit? = some visit) (inside : visit.index < plan.instances.length)
    (carried : old.flight? = some ⟨visit.event, 3 * visit.index + 1⟩)
    (carries : new.flight? = some ⟨visit.event, 3 * visit.index + 2⟩) :
    Toured plan events taken (acts ++ act.toList) next := by
  have held := moved.flight_was.trans carried
  have held' := moved.flight_now.trans carries
  refine ⟨?_, ?_, ?_, ?_, fun calm _ _ was shut =>
    toured.drained_step orderly honest honest' fits moved course toll calm was shut⟩
  · intro j flight carries'
    rcases moved.cases_flight carries' with ⟨-, now⟩ | ⟨-, was⟩
    · obtain rfl := Option.some.inj (carries.symm.trans now)
      simp only
      omega
    · exact toured.within was
  · intro j flight carries'
    rw [stops_of_visit visited]
    rcases moved.cases_flight carries' with ⟨-, now⟩ | ⟨apart, was⟩
    · obtain rfl := Option.some.inj (carries.symm.trans now)
      have before : (⟨visit.event, 3 * visit.index + 1⟩ : Flight).offers = visit.index := by
        simp only [Flight.offers]
        omega
      have after : (⟨visit.event, 3 * visit.index + 2⟩ : Flight).offers = visit.index + 1 := by
        simp only [Flight.offers]
        omega
      rw [if_pos rfl, toured.flying held, before, after, List.range_succ]
    · have other : visit.event ≠ flight.event := fun same =>
        apart (orderly.distinct held was same).symm
      rw [if_neg other, List.append_nil]
      exact toured.flying was
  · intro event later
    have bound : visit.event ≤ taken := (orderly.carried held).2
    rw [stops_of_visit visited, if_neg (by omega), List.append_nil]
    exact toured.fresh later
  · intro calm event least most grounded
    have other : visit.event ≠ event := grounded i _ held'
    rw [stops_of_visit visited, if_neg other, List.append_nil]
    refine toured.landed (isCalm_of_append calm) least most fun j flight carries' => ?_
    by_cases here : j = i
    · subst here
      obtain rfl := Option.some.inj (held.symm.trans carries')
      exact other
    · exact grounded j flight (moved.flight_stays here carries')

/-- Every step keeps the events on their tours. -/
theorem step (toured : Toured plan events taken acts pool)
    (orderly : Orderly events taken pool) (vital : Vital plan taken pool)
    (honest : Honest acts pool) (honest' : Honest (acts ++ act.toList) next)
    (fits : events + pool.workers.length < 2 ^ 64) (moved : pool.Replaces next i old new)
    (course : RunPlan.Course plan events pool next.next next.gates old new act)
    (toll : RunPlan.Toll pool next old new act) :
    Toured plan events (taken + (act.bind Act.taken?).toList.length) (acts ++ act.toList)
      next := by
  rcases course.took_cases with untaken | ⟨took, within, rfl, rfl⟩
  · rw [untaken]
    cases visited : act.bind Act.visit? with
    | none =>
      exact toured.keep orderly vital honest honest' fits moved course toll visited untaken
    | some visit =>
      obtain ⟨index_lt, carried, carries⟩ := course.carries_of_visit visited
      exact toured.offer orderly honest honest' fits moved course toll visited index_lt carried
        carries
  · have next_eq := orderly.next_eq fits moved.was rfl within
    rw [took]
    exact toured.take moved rfl rfl rfl (next_eq ▸ within) (by rw [next_eq]; rfl)

end Toured

/-! ## Errors of hooks -/

namespace Instance

/-- The error of a call carries the name of the instance. -/
theorem exists_of_call_error {σ α : Type} [HasJournal σ] {inst : Instance κ ω}
    {letter : String} {phase : Phase} {proc : Proc σ α} {state : σ} {err : Error}
    (failed : (inst.call letter phase proc state).1 = .error err) :
    ∃ source, err = .inModule inst.name phase source := by
  simp only [call, Proc.within, Proc.mapError] at failed
  generalize proc _ = result at failed
  obtain ⟨outcome, after⟩ := result
  cases outcome with
  | error source => exact ⟨source, (Outcome.error.inj failed).symm⟩
  | ok value => cases failed
  | panic text => cases failed

/-- The error of an event carries the name of the instance. -/
theorem exists_of_runEvent_error [DecidableEq κ] {inst : Instance κ ω}
    {messenger : Messenger κ ω} {state : EventState κ ω} {err : Error}
    (failed : (inst.runEvent messenger state).1 = .error err) :
    ∃ source, err = .inModule inst.name .run source := by
  unfold runEvent at failed
  split at failed
  · simp only [Proc.bind_apply, Proc.andThen] at failed
    generalize called : inst.call "R" .run _ state = result at failed
    obtain ⟨outcome, after⟩ := result
    cases outcome with
    | error source =>
      obtain rfl := Outcome.error.inj failed
      exact exists_of_call_error (congrArg Prod.fst called)
    | ok value => cases failed
    | panic text => cases failed
  · cases failed

end Instance

namespace RunPlan

variable [DecidableEq κ] {plan : RunPlan κ ω} {events workers : Nat} {tallies : List Tally}
  {env : Env ω} {acts : List (Act κ)} {pool : Pool κ ω}

/-- An error that a hook ends with carries the name of an instance. -/
theorem exists_of_act?_error {worker : Worker κ} {err : Error}
    (called : (plan.act? events pool worker).bind Act.call? = some (.error err)) :
    ∃ inst ∈ plan.instances, ∃ phase source, err = .inModule inst.name phase source := by
  obtain ⟨act, seen, called⟩ := Option.bind_eq_some_iff.mp called
  have performed := performs_of_act? seen
  generalize worker.stage = stage at performed
  cases performed with
  | started found =>
    obtain ⟨source, err_eq⟩ := Instance.exists_of_call_error (Option.some.inj called)
    exact ⟨_, List.mem_of_getElem? found, _, source, err_eq⟩
  | offered found =>
    obtain ⟨source, err_eq⟩ := Instance.exists_of_runEvent_error
      (Outcome.map_eq_error_iff.mp (Option.some.inj called))
    exact ⟨_, List.mem_of_getElem? found, _, source, err_eq⟩
  | finished found =>
    obtain ⟨source, err_eq⟩ := Instance.exists_of_call_error (Option.some.inj called)
    exact ⟨_, List.mem_of_getElem? found, _, source, err_eq⟩
  | _ => cases called

/-! ## Every run is accounted for -/

/-- All errors that hooks end with in a run carry the name of an instance. -/
theorem History.exists_of_error
    (history : plan.History events (plan.startPool workers tallies env) acts pool) {err : Error}
    (called : .error err ∈ calls acts) :
    ∃ inst ∈ plan.instances, ∃ phase source, err = .inModule inst.name phase source := by
  induction history with
  | start => cases called
  | step choice before found step ih =>
    rw [calls_append, List.mem_append, Option.mem_toList] at called
    rcases called with earlier | now
    · exact ih earlier
    · exact exists_of_act?_error now

/-- In every run the failures are accounted for. -/
theorem History.honest
    (history : plan.History events (plan.startPool workers tallies env) acts pool) :
    Honest acts pool := by
  induction history with
  | start =>
    refine ⟨rfl, nofun, ?_, ?_, nofun, ?_, nofun, nofun⟩
    · intro i stage text was burden
      rw [stage?_startPool was] at burden
      cases burden
    · intro i stage err was burden
      rw [stage?_startPool was] at burden
      cases burden
    · rintro (aborted | ⟨index, gate, found, aborted⟩ | ⟨i, stage, was, told⟩)
      · cases aborted
      · obtain ⟨-, rfl⟩ := gate?_startPool.mp found
        cases aborted
      · rw [stage?_startPool was] at told
        exact told.elim
  | step choice before found step ih =>
    obtain ⟨new, moved, -, toll⟩ := toll_of_step? plan events _ _ found step
    exact ih.step moved toll

/-- In every run the counts of the workers are in order. -/
theorem History.roomy
    (history : plan.History events (plan.startPool workers tallies env) acts pool) :
    Roomy (takenEvents acts).length acts pool := by
  induction history with
  | start =>
    have idle : ∀ worker ∈ (plan.startPool workers tallies env).workers, worker = .idle :=
      fun worker among => List.eq_of_mem_replicate among
    refine ⟨fun worker among => ?_, ?_, fun _ => ?_, nofun⟩
    · rw [idle worker among]
      exact Nat.two_pow_pos 31
    all_goals
      simp [Pool.processed, Pool.weight, startPool, Worker.idle, Stage.flights, Stage.flight?,
        takenEvents]
  | step choice before found step ih =>
    have after := (History.step choice before found step).honest
    obtain ⟨same, middle, worker, found', advanced, rfl⟩ := exists_of_step? step
    obtain rfl := Option.some.inj (found'.symm.trans found)
    obtain ⟨workers_eq, -⟩ := course_of_advance? plan events _ _ advanced
    rw [takenEvents_append, List.length_append]
    exact ih.step before.honest after found (by simp only [workers_eq])
      (counts_of_advance? advanced)

/-- In every run the events are on their tours. -/
theorem History.toured (fits : events + workers < 2 ^ 64)
    (history : plan.History events (plan.startPool workers tallies env) acts pool) :
    Toured plan events (takenEvents acts).length acts pool := by
  induction history with
  | start =>
    refine ⟨?_, ?_, fun _ => rfl, ?_, ?_⟩
    · intro i flight carries
      rw [flight?_startPool] at carries
      cases carries
    · intro i flight carries
      rw [flight?_startPool] at carries
      cases carries
    · intro calm event least most
      exact absurd (Nat.le_trans least most) (Nat.not_succ_le_zero 0)
    · intro calm i stage was shut
      rw [stage?_startPool was] at shut
      cases shut
  | step choice before found step ih =>
    obtain ⟨new, moved, course, toll⟩ := toll_of_step? plan events _ _ found step
    have after := before.honest.step moved toll
    have toured := ih.step (before.orderly fits).2 (before.vital fits) before.honest after
      (before.fits_workers fits) moved course toll
    rwa [takenEvents_append, List.length_append]

end RunPlan

/-! ## What comes out of a run -/

namespace Pool

variable {pool : Pool κ ω}

theorem outcome_eq_ok_iff :
    pool.outcome = .ok () ↔ pool.panicked = none ∧ pool.failure = none := by
  unfold outcome
  cases pool.panicked <;> cases pool.failure <;> simp

theorem outcome_eq_error_iff {err : Error} :
    pool.outcome = .error err ↔ pool.panicked = none ∧ pool.failure = some err := by
  unfold outcome
  cases pool.panicked <;> cases pool.failure <;> simp

theorem outcome_eq_panic_iff {text : String} :
    pool.outcome = .panic text ↔ pool.panicked = some text := by
  unfold outcome
  cases pool.panicked <;> cases pool.failure <;> simp

/-- Workers that are done are at the end. -/
theorem stage_of_hasEnded (ended : pool.hasEnded = true) {i : Nat} {stage : Stage κ}
    (was : pool.stage? i = some stage) : stage = .ended := by
  obtain ⟨worker, found, rfl⟩ := Option.map_eq_some_iff.mp was
  have done := List.all_eq_true.mp ended worker (List.mem_of_getElem? found)
  unfold Worker.hasEnded at done
  split at done
  · next at_end => exact at_end
  · cases done

end Pool

namespace RunPlan

variable [DecidableEq κ] {plan : RunPlan κ ω} {events workers : Nat} {tallies : List Tally}
  {env : Env ω} {acts : List (Act κ)} {pool : Pool κ ω}

/-- When all workers are done, the run has succeeded exactly if no hook has
failed. -/
theorem History.outcome_ok_iff
    (history : plan.History events (plan.startPool workers tallies env) acts pool)
    (ended : pool.hasEnded = true) : pool.outcome = .ok () ↔ isCalm acts := by
  have honest := history.honest
  constructor
  · intro fine outcome called
    by_contra failed
    rcases honest.failures called failed with kept | ⟨i, stage, was, burden⟩
    · exact kept (Pool.outcome_eq_ok_iff.mp fine).2
    · rw [Pool.stage_of_hasEnded ended was] at burden
      exact burden rfl
  · intro calm
    obtain ⟨none_kept, none_contained, -⟩ := honest.of_calm calm
    refine Pool.outcome_eq_ok_iff.mpr ⟨?_, none_kept⟩
    rw [honest.panicked_eq, none_contained]
    rfl

/-- When all workers are done and no hook has failed, all events were taken. -/
theorem History.length_takenEvents (some_worker : 0 < workers)
    (fits : events + workers < 2 ^ 64)
    (history : plan.History events (plan.startPool workers tallies env) acts pool)
    (ended : pool.hasEnded = true) (calm : isCalm acts) : (takenEvents acts).length = events := by
  have size := history.length_workers
  obtain ⟨stage, was⟩ : ∃ stage, pool.stage? 0 = some stage := by
    rw [Pool.stage?, List.getElem?_eq_getElem (by rw [size]; exact some_worker)]
    exact ⟨_, rfl⟩
  have shut : stage.isOpen = false := by
    rw [Pool.stage_of_hasEnded ended was]
    rfl
  exact (history.toured fits).drained calm was shut

/-- When all workers are done and no hook has failed, every event was offered to
all instances in order. -/
theorem History.stops_eq (some_worker : 0 < workers) (fits : events + workers < 2 ^ 64)
    (history : plan.History events (plan.startPool workers tallies env) acts pool)
    (ended : pool.hasEnded = true) (calm : isCalm acts) {event : Nat} (least : 1 ≤ event)
    (most : event ≤ events) : stops event acts = List.range plan.instances.length := by
  have all_taken := history.length_takenEvents some_worker fits ended calm
  apply (history.toured fits).landed calm least (by rwa [all_taken])
  intro i flight carries
  obtain ⟨stage, was, flown⟩ := Option.bind_eq_some_iff.mp carries
  rw [Pool.stage_of_hasEnded ended was] at flown
  cases flown

/-- If all workers are done and nothing has failed, they had room for all events. -/
theorem History.events_le (some_worker : 0 < workers) (fits : events + workers < 2 ^ 64)
    (history : plan.History events (plan.startPool workers tallies env) acts pool)
    (ended : pool.hasEnded = true) (calm : isCalm acts) :
    events ≤ workers * (countLimit - 1) := by
  have grounded : pool.weight Stage.flights = 0 := by
    refine List.sum_eq_zero_iff.mpr fun flights among => ?_
    obtain ⟨worker, inside, rfl⟩ := List.mem_map.mp among
    obtain ⟨i, found⟩ := List.mem_iff_getElem?.mp inside
    rw [Pool.stage_of_hasEnded ended (congrArg (Option.map Worker.stage) found)]
    rfl
  have room := history.roomy.taken_le calm grounded
  rwa [history.length_takenEvents some_worker fits ended calm, history.length_workers] at room

/-- The outcome of a run is that of its hooks, unless the count of a worker runs over.
It succeeds exactly if all hooks do and no count runs over, and then every event was
offered to all instances in order; otherwise the first panic that was contained comes
out, or without a panic the error of a hook with the name of its instance.  A count
runs over only in a run of so many events that one worker can not count them; and a
run of more events than all workers can count never succeeds. -/
structure Faithful (plan : RunPlan κ ω) (events workers : Nat) (acts : List (Act κ))
    (pool : Pool κ ω) : Prop where
  ok_iff : pool.outcome = .ok () ↔
    (∀ outcome ∈ hookCalls acts, outcome = .ok ()) ∧ .overflowed ∉ acts
  complete : pool.outcome = .ok () → ∀ {event}, 1 ≤ event → event ≤ events →
    stops event acts = List.range plan.instances.length
  panics : (∃ text, .panic text ∈ hookCalls acts) ∨ .overflowed ∈ acts →
    ∃ text, (containedTexts acts).head? = some text ∧ pool.outcome = .panic text
  panic_real : ∀ {text}, pool.outcome = .panic text →
    .panic text ∈ hookCalls acts ∨ text = overflowText ∧ .overflowed ∈ acts
  error_real : ∀ {err}, pool.outcome = .error err → .error err ∈ hookCalls acts ∧
    ∃ inst ∈ plan.instances, ∃ phase source, err = .inModule inst.name phase source
  overflows : .overflowed ∈ acts → countLimit ≤ events
  crowded : workers * (countLimit - 1) < events → pool.outcome ≠ .ok ()

/-- The outcome of a pool whose workers are all done. -/
theorem History.faithful (some_worker : 0 < workers) (fits : events + workers < 2 ^ 64)
    (history : plan.History events (plan.startPool workers tallies env) acts pool)
    (ended : pool.hasEnded = true) : plan.Faithful events workers acts pool := by
  have honest := history.honest
  have ok_iff := history.outcome_ok_iff ended
  refine ⟨ok_iff.trans isCalm_iff, ?_, ?_, ?_, ?_, fun overflowed => ?_, fun crowd fine => ?_⟩
  · intro fine event least most
    exact history.stops_eq some_worker fits ended (ok_iff.mp fine) least most
  · intro panicked
    obtain ⟨text, called⟩ : ∃ text, .panic text ∈ calls acts := by
      rcases panicked with ⟨text, called⟩ | overflowed
      · exact ⟨text, mem_calls_iff.mpr (.inl called)⟩
      · exact ⟨_, mem_calls_iff.mpr (.inr ⟨rfl, overflowed⟩)⟩
    rcases honest.panics called with contained | ⟨i, stage, text', was, burden⟩
    · obtain ⟨first, first_eq⟩ := Option.isSome_iff_exists.mp
        (List.isSome_head?.mpr contained)
      exact ⟨first, first_eq, Pool.outcome_eq_panic_iff.mpr (honest.panicked_eq.trans first_eq)⟩
    · rw [Pool.stage_of_hasEnded ended was] at burden
      cases burden
  · intro text panicked
    have contained : text ∈ containedTexts acts := by
      apply List.mem_of_mem_head?
      rw [← honest.panicked_eq]
      exact Pool.outcome_eq_panic_iff.mp panicked
    rcases mem_calls_iff.mp (honest.contained contained) with called | ⟨same, overflowed⟩
    · exact .inl called
    · exact .inr ⟨Outcome.panic.inj same, overflowed⟩
  · intro err failed
    obtain ⟨unpanicked, kept⟩ := Pool.outcome_eq_error_iff.mp failed
    rcases honest.kept kept with called | contained
    · rcases mem_calls_iff.mp called with hook | ⟨same, -⟩
      · exact ⟨hook, history.exists_of_error called⟩
      · cases same
    · rw [honest.panicked_eq, List.head?_eq_none_iff] at unpanicked
      exact absurd unpanicked contained
  · exact Nat.le_trans (history.roomy.full overflowed) (history.orderly fits).2.taken_le
  · exact Nat.not_le_of_lt crowd
      (history.events_le some_worker fits ended (ok_iff.mp fine))

/-- Three events on two workers, of which the second one fails at the first of two
gates. -/
theorem faithful_runToEnd_counting :
    ∃ acts, (ofModules [.counting 2, .counting 0]).Faithful 3 2 acts
      ((ofModules [.counting 2, .counting 0]).runToEnd 3
        ((ofModules [.counting 2, .counting 0]).startPool 2 [.zero, .zero] ⟨0, .empty⟩)) := by
  obtain ⟨acts, history⟩ := exists_history_runToEnd (ofModules [.counting 2, .counting 0]) 3
    ((ofModules [.counting 2, .counting 0]).startPool 2 [.zero, .zero] ⟨0, .empty⟩)
  exact ⟨acts, history.faithful (by decide) (by decide) (hasEnded_runToEnd (by decide))⟩

/-! ## Runs without instances -/

/-- Without instances no hook is called. -/
theorem History.hookCalls_of_bare (bare : plan.instances = [])
    (history : plan.History events (plan.startPool workers tallies env) acts pool) :
    hookCalls acts = [] := by
  induction history with
  | start => rfl
  | @step acts pool next worker choice before found step ih =>
    have uncalled : (plan.act? events pool worker).bind Act.hook? = none := by
      cases seen : plan.act? events pool worker with
      | none => rfl
      | some act =>
        have performed := performs_of_act? seen
        generalize worker.stage = stage at performed
        have absent : ∀ index : Nat, plan.instances[index]? = none := by simp [bare]
        cases performed with
        | started found => cases (absent _).symm.trans found
        | offered found => cases (absent _).symm.trans found
        | finished found => cases (absent _).symm.trans found
        | _ => rfl
    rw [hookCalls_append, ih, uncalled]
    rfl

/-- Without instances, more events than the workers can count end with the panic of a sum
that runs over, whatever the scheduler decides. -/
theorem History.outcome_of_bare (bare : plan.instances = []) (some_worker : 0 < workers)
    (fits : events + workers < 2 ^ 64) (crowd : workers * (countLimit - 1) < events)
    (history : plan.History events (plan.startPool workers tallies env) acts pool)
    (ended : pool.hasEnded = true) : pool.outcome = .panic overflowText := by
  have faithful := history.faithful some_worker fits ended
  have unhooked := history.hookCalls_of_bare bare
  cases ends : pool.outcome with
  | ok value => exact absurd ends (faithful.crowded crowd)
  | error err =>
    have called := (faithful.error_real ends).1
    rw [unhooked] at called
    cases called
  | panic text =>
    rcases faithful.panic_real ends with called | ⟨same, -⟩
    · rw [unhooked] at called
      cases called
    · rw [same]

/-- A plan without instances. -/
def bare : RunPlan Builtin.PayloadKind Nat :=
  .ofModules []

/-- A pool of two workers that was let run with one event more than they can count. -/
def crowdedPool : Pool Builtin.PayloadKind Nat :=
  bare.runToEnd 4294967295 (bare.startPool 2 [] ⟨0, .empty⟩)

theorem hasEnded_crowdedPool : crowdedPool.hasEnded = true :=
  hasEnded_runToEnd (by decide)

theorem outcome_crowdedPool : crowdedPool.outcome = .panic overflowText := by
  obtain ⟨acts, history⟩ :=
    exists_history_runToEnd bare 4294967295 (bare.startPool 2 [] ⟨0, .empty⟩)
  exact history.outcome_of_bare rfl (by decide) (by decide) (by decide) hasEnded_crowdedPool

/-- Whether a run succeeds is not up to its hooks alone. -/
theorem not_ok_iff_hooks_fine :
    ∃ acts, bare.History 4294967295 (bare.startPool 2 [] ⟨0, .empty⟩) acts crowdedPool ∧
      crowdedPool.hasEnded = true ∧
      ¬ (crowdedPool.outcome = .ok () ↔ ∀ outcome ∈ hookCalls acts, outcome = .ok ()) := by
  obtain ⟨acts, history⟩ :=
    exists_history_runToEnd bare 4294967295 (bare.startPool 2 [] ⟨0, .empty⟩)
  refine ⟨acts, history, hasEnded_crowdedPool, fun agree => ?_⟩
  have fine : ∀ outcome ∈ hookCalls acts, outcome = .ok () := by
    rw [history.hookCalls_of_bare rfl]
    exact nofun
  cases (agree.mpr fine).symm.trans outcome_crowdedPool

end RunPlan

end DetectorSim
