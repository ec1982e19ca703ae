import DetectorSim.Proofs.Pool.Failure

/-!
# Room in the counts

Each worker counts the events that it has brought through.  So the counts of all
workers add up to no more than the events that were taken; and they add up to just
as many if nothing has failed and no event is in flight.  Each count ends before
two to the power of thirty-one.  Fewer events never make a count run over.  More
events than all workers together can count do so, unless something fails before.
-/

set_option autoImplicit false

namespace DetectorSim

variable {κ ω : Type} [Payload κ]

/-- The first number of events that a worker can not count. -/
def countLimit : Nat :=
  2 ^ 31

theorem Worker.hasRoom_iff {worker : Worker κ} :
    worker.hasRoom = true ↔ worker.processed + 1 < countLimit :=
  decide_eq_true_iff

/-- The number of events that a worker carries, which is at most one. -/
def Stage.flights (stage : Stage κ) : Nat :=
  stage.flight?.toList.length

/-- The number of events that all workers have counted. -/
def Pool.processed (pool : Pool κ ω) : Nat :=
  (pool.workers.map Worker.processed).sum

namespace RunPlan

variable {plan : RunPlan κ ω} {events : Nat} {pool : Pool κ ω} {worker : Worker κ}

/-! ## Events in flight -/

namespace Course

variable {counter : Nat} {gates : List (Option Gate)} {old new : Stage κ}
  {act : Option (Act κ)}

/-- A worker that carries an event takes no other. -/
theorem untaken (course : Course plan events pool counter gates old new act)
    (carries : old.flight? ≠ none) : act.bind Act.taken? = none := by
  cases course with
  | aside _ still => exact absurd still carries
  | exhausted => exact absurd rfl carries
  | took => exact absurd rfl carries
  | _ => rfl

/-- No event comes into flight that was not taken. -/
theorem flights_le (course : Course plan events pool counter gates old new act) :
    new.flights ≤ old.flights + (act.bind Act.taken?).toList.length := by
  cases course with
  | aside _ _ still => simp [Stage.flights, still]
  | dropped _ still => simp [Stage.flights, still]
  | _ => simp [Stage.flights, Stage.flight?, Act.taken?]

/-- An event stays in flight until it is through, unless something has failed. -/
theorem flights_eq (course : Course plan events pool counter gates old new act)
    (through : old.flight? ≠ none → new ≠ .checking) (fine : old.burden = .ok ())
    (fine' : new.burden = .ok ()) :
    new.flights = old.flights + (act.bind Act.taken?).toList.length := by
  cases course with
  | aside _ still still' _ _ _ apart =>
    simp [Stage.flights, still, still', (Act.unseen_of_isApart apart).1]
  | refused => cases fine'
  | overflowed => cases fine'
  | completed => exact absurd rfl (through (Option.some_ne_none _))
  | dropped failed => exact absurd fine failed
  | _ => rfl

end Course

/-! ## Counting in a step -/

/-- An event goes on or is dropped, and is not through, when it goes out of an
instance. -/
theorem leave_ne_checking {event index : Nat} {data : EventData κ} {outcome : Outcome Unit} :
    (leave pool event data index outcome).2 ≠ .checking := by
  cases outcome <;> exact nofun

/-- An event that comes in or is turned away is not through. -/
theorem arrive?_ne_checking {event index : Nat} {data : EventData κ} {new : Stage κ}
    (arrived : arrive? pool event data index = some new) : new ≠ .checking := by
  rintro rfl
  unfold arrive? at arrived
  split at arrived
  · cases arrived
  · split at arrived <;> cases arrived

variable [DecidableEq κ]

/-- A worker counts an event when it was at all instances, and at no other time. -/
theorem processed_of_advance? {choice : Choice} {middle : Pool κ ω} {after : Worker κ}
    (advanced : plan.advance? events pool choice worker = some (middle, after)) :
    (∃ event data index, worker.stage = .arriving event data index ∧ after.stage = .checking ∧
      worker.hasRoom = true ∧ after.processed = worker.processed + 1) ∨
    after.processed = worker.processed ∧
      (worker.stage.flight? ≠ none → after.stage ≠ .checking) := by
  unfold advance? at advanced
  cases stage : worker.stage with
  | arriving event data index =>
    simp only [stage] at advanced
    split at advanced
    · obtain ⟨new, arrived, advanced⟩ := Option.bind_eq_some_iff.mp advanced
      obtain ⟨rfl, rfl⟩ := Prod.mk.inj (Option.some.inj advanced)
      exact .inr ⟨rfl, fun _ => arrive?_ne_checking arrived⟩
    · obtain ⟨rfl, rfl⟩ := Prod.mk.inj (Option.some.inj advanced)
      cases room : worker.hasRoom with
      | true =>
        rw [Worker.countEvent_of_room room]
        exact .inl ⟨event, data, index, rfl, rfl, rfl, rfl⟩
      | false =>
        rw [Worker.countEvent_of_full room]
        exact .inr ⟨rfl, nofun⟩
  | running event data index =>
    simp only [stage] at advanced
    obtain ⟨inst, -, advanced⟩ := Option.bind_eq_some_iff.mp advanced
    obtain ⟨rfl, rfl⟩ := Prod.mk.inj (Option.some.inj advanced)
    refine .inr ⟨rfl, fun _ => ?_⟩
    rw [visitAt_eq]
    exact nofun
  | leaving event data index outcome =>
    simp only [stage] at advanced
    obtain ⟨rfl, rfl⟩ := Prod.mk.inj (Option.some.inj advanced)
    exact .inr ⟨rfl, fun _ => leave_ne_checking⟩
  | waiting =>
    simp only [stage] at advanced
    split at advanced
    · obtain ⟨rfl, rfl⟩ := Prod.mk.inj (Option.some.inj advanced)
      exact .inr ⟨rfl, fun flown => absurd rfl flown⟩
    · cases advanced
  | ended =>
    simp only [stage] at advanced
    cases advanced
  | _ =>
    simp only [stage] at advanced
    obtain ⟨rfl, rfl⟩ := Prod.mk.inj (Option.some.inj advanced)
    exact .inr ⟨rfl, fun flown => absurd rfl flown⟩

/-- A count runs over when there is no room for the event that the worker carries. -/
theorem full_of_overflowed (seen : plan.act? events pool worker = some .overflowed) :
    worker.hasRoom = false ∧ worker.stage.flights = 1 := by
  have performed := performs_of_act? seen
  generalize worker.stage = stage at performed ⊢
  cases performed with
  | overflowed full => exact ⟨full, rfl⟩

end RunPlan

/-- What a step makes of the count of its worker and of the event that the worker
carries.  No event is counted that was not taken, and none is lost unless something
has failed. -/
structure Worker.Counts (worker after : Worker κ) (act : Option (Act κ)) : Prop where
  settled : after.processed + after.stage.flights
    ≤ worker.processed + worker.stage.flights + (act.bind Act.taken?).toList.length
  complete : worker.stage.burden = .ok () → after.stage.burden = .ok () →
    after.processed + after.stage.flights
      = worker.processed + worker.stage.flights + (act.bind Act.taken?).toList.length
  bounded : worker.processed < countLimit → after.processed < countLimit
  full : act = some .overflowed → countLimit ≤ worker.processed + worker.stage.flights

namespace RunPlan

variable [DecidableEq κ] {plan : RunPlan κ ω} {events : Nat} {pool : Pool κ ω}
  {worker : Worker κ}

/-- Every step of a worker counts. -/
theorem counts_of_advance? {choice : Choice} {middle : Pool κ ω} {after : Worker κ}
    (advanced : plan.advance? events pool choice worker = some (middle, after)) :
    worker.Counts after (plan.act? events pool worker) := by
  have course := (course_of_advance? plan events pool worker advanced).2
  have full : plan.act? events pool worker = some .overflowed →
      countLimit ≤ worker.processed + worker.stage.flights := by
    intro seen
    obtain ⟨no_room, carries⟩ := full_of_overflowed seen
    rw [carries]
    exact Nat.le_of_not_lt fun room =>
      Bool.false_ne_true (no_room.symm.trans (Worker.hasRoom_iff.mpr room))
  rcases processed_of_advance? advanced with
    ⟨event, data, index, stage, stage', room, counted⟩ | ⟨same, through⟩
  · -- The event that was in flight is counted now.
    have before : worker.stage.flights = 1 := by rw [stage]; rfl
    have behind : after.stage.flights = 0 := by rw [stage']; rfl
    have untaken := course.untaken (by rw [stage]; exact Option.some_ne_none _)
    refine ⟨?_, fun _ _ => ?_, fun _ => ?_, full⟩
    · rw [untaken, before, behind, counted]
      exact Nat.le_refl _
    · rw [untaken, before, behind, counted]
      rfl
    · rw [counted]
      exact Worker.hasRoom_iff.mp room
  · refine ⟨?_, fun fine fine' => ?_, fun below => same ▸ below, full⟩
    · rw [same, Nat.add_assoc]
      exact Nat.add_le_add_left course.flights_le _
    · rw [same, Nat.add_assoc, course.flights_eq through fine fine']

end RunPlan

/-! ## Counts in a run -/

/-- The counts are in order: none has run over before its limit, and together with the
events in flight they do not exceed the events that were taken, which are all there
as long as nothing has failed. -/
structure Roomy (taken : Nat) (acts : List (Act κ)) (pool : Pool κ ω) : Prop where
  bounded : ∀ worker ∈ pool.workers, worker.processed < countLimit
  settled : pool.processed + pool.weight Stage.flights ≤ taken
  complete : isCalm acts → pool.processed + pool.weight Stage.flights = taken
  full : .overflowed ∈ acts → countLimit ≤ taken

namespace Roomy

variable {taken i : Nat} {pool next : Pool κ ω} {acts : List (Act κ)} {act : Option (Act κ)}
  {worker after : Worker κ}

/-- A worker has counted and carries no more than was taken. -/
theorem processed_le (roomy : Roomy taken acts pool) (found : pool.workers[i]? = some worker) :
    worker.processed + worker.stage.flights ≤ taken := by
  have settled := roomy.settled
  rw [Pool.processed, Pool.weight, ← List.sum_map_add] at settled
  exact Nat.le_trans (List.le_sum_of_mem (List.mem_map.mpr
    ⟨worker, List.mem_of_getElem? found, rfl⟩)) settled

/-- Every step keeps the counts in order. -/
theorem step (roomy : Roomy taken acts pool) (honest : Honest acts pool)
    (honest' : Honest (acts ++ act.toList) next) (found : pool.workers[i]? = some worker)
    (workers_eq : next.workers = pool.workers.set i after) (counts : worker.Counts after act) :
    Roomy (taken + (act.bind Act.taken?).toList.length) (acts ++ act.toList) next := by
  have processed_eq : next.processed + worker.processed = pool.processed + after.processed := by
    rw [Pool.processed, workers_eq]
    exact Pool.sum_map_set found after Worker.processed
  have moved := Pool.replaces_of_set found workers_eq
  have weight_eq := moved.weigh Stage.flights
  refine ⟨?_, ?_, fun calm => ?_, fun seen => ?_⟩
  · intro other among
    rw [workers_eq] at among
    rcases List.mem_or_eq_of_mem_set among with before | rfl
    · exact roomy.bounded other before
    · exact counts.bounded (roomy.bounded worker (List.mem_of_getElem? found))
  · have settled := counts.settled
    have := roomy.settled
    omega
  · have calm' := isCalm_of_append calm
    have complete := counts.complete ((honest.of_calm calm').2.2 _ _ moved.was)
      ((honest'.of_calm calm).2.2 _ _ moved.here)
    have := roomy.complete calm'
    omega
  · rw [List.mem_append, Option.mem_toList] at seen
    rcases seen with earlier | now
    · exact Nat.le_trans (roomy.full earlier) (Nat.le_add_right _ _)
    · have := counts.full now
      have := roomy.processed_le found
      omega

/-- If nothing has failed and no event is in flight, all workers together have room for
the events that were taken. -/
theorem taken_le (roomy : Roomy taken acts pool) (calm : isCalm acts)
    (grounded : pool.weight Stage.flights = 0) :
    taken ≤ pool.workers.length * (countLimit - 1) := by
  rw [← roomy.complete calm, grounded, Nat.add_zero, Pool.processed]
  have bounded : ∀ count ∈ pool.workers.map Worker.processed, count ≤ countLimit - 1 := by
    intro count among
    obtain ⟨worker, inside, rfl⟩ := List.mem_map.mp among
    exact Nat.le_sub_one_of_lt (roomy.bounded worker inside)
  rw [← List.length_map Worker.processed]
  exact List.sum_le_card_nsmul _ _ bounded

end Roomy

end DetectorSim
