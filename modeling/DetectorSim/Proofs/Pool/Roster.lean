import Mathlib.Data.List.Nodup
import DetectorSim.Proofs.Pool.Ending

/-!
# Who does what in a pool

A roster is a history in which every act is signed by the worker that does it.  An
event stays with the worker that has taken it: nobody else offers it to an
instance.
-/

set_option autoImplicit false

namespace DetectorSim

variable {κ ω : Type} [Payload κ]

/-- The acts of all workers, in order. -/
def actsOf (roster : List (Nat × Act κ)) : List (Act κ) :=
  roster.map Prod.snd

theorem actsOf_append (roster : List (Nat × Act κ)) (act : Option (Act κ)) (i : Nat) :
    actsOf (roster ++ act.toList.map fun act => (i, act)) = actsOf roster ++ act.toList := by
  rw [actsOf, List.map_append, List.map_map, ← actsOf]
  exact congrArg _ (List.map_id _)

/-- The events that were taken, each with the worker that took it. -/
def claims (roster : List (Nat × Act κ)) : List (Nat × Nat) :=
  roster.filterMap fun signed => signed.2.taken?.map fun event => (signed.1, event)

theorem map_snd_claims (roster : List (Nat × Act κ)) :
    (claims roster).map Prod.snd = takenEvents (actsOf roster) := by
  rw [claims, takenEvents, actsOf, List.map_filterMap, List.filterMap_map]
  congr 1
  funext signed
  simp [Function.comp_def]

theorem mem_actsOf {roster : List (Nat × Act κ)} {act : Act κ} :
    act ∈ actsOf roster ↔ ∃ worker, (worker, act) ∈ roster := by
  simp [actsOf]

theorem mem_claims {roster : List (Nat × Act κ)} {worker event : Nat} :
    (worker, event) ∈ claims roster ↔ (worker, .took event) ∈ roster := by
  rw [claims, List.mem_filterMap]
  constructor
  · rintro ⟨⟨signer, act⟩, among, taken⟩
    obtain ⟨number, taken, same⟩ := Option.map_eq_some_iff.mp taken
    cases act with
    | took other =>
      obtain rfl := Option.some.inj taken
      cases same
      exact among
    | _ => cases taken
  · exact fun among => ⟨_, among, rfl⟩

/-- If no event is taken twice, each one that is taken is taken by one worker. -/
theorem claimant_unique {roster : List (Nat × Act κ)} {event : Nat}
    (nodup : (takenEvents (actsOf roster)).Nodup) (taken : event ∈ takenEvents (actsOf roster)) :
    ∃! worker, (worker, .took event) ∈ roster := by
  obtain ⟨worker, claimed⟩ := mem_actsOf.mp (mem_takenEvents.mp taken)
  refine ⟨worker, claimed, fun other claimed' => ?_⟩
  rw [← map_snd_claims] at nodup
  exact congrArg Prod.fst
    (List.inj_on_of_nodup_map nodup (mem_claims.mpr claimed') (mem_claims.mpr claimed) rfl)

namespace RunPlan

variable [DecidableEq κ]

/-- What a pool can come to, and what is seen of each worker on the way. -/
inductive Roster (plan : RunPlan κ ω) (events : Nat) (first : Pool κ ω) :
    List (Nat × Act κ) → Pool κ ω → Prop where
  | start : Roster plan events first [] first
  | step {roster : List (Nat × Act κ)} {pool next : Pool κ ω} {worker : Worker κ}
      (choice : Choice) (before : Roster plan events first roster pool)
      (found : pool.workers[choice.worker]? = some worker)
      (step : plan.step? events pool choice = some next) :
      Roster plan events first
        (roster ++ (plan.act? events pool worker).toList.map fun act => (choice.worker, act)) next

variable {plan : RunPlan κ ω} {events : Nat} {first pool : Pool κ ω}
  {roster : List (Nat × Act κ)}

/-- Without the signatures it is a history. -/
theorem Roster.history (signed : plan.Roster events first roster pool) :
    plan.History events first (actsOf roster) pool := by
  induction signed with
  | start => exact .start
  | step choice before found step ih =>
    rw [actsOf_append]
    exact .step choice ih found step

/-- Every run has a roster. -/
theorem exists_roster_of_reaches (reached : plan.Reaches events first pool) :
    ∃ roster, plan.Roster events first roster pool := by
  induction reached with
  | refl => exact ⟨[], .start⟩
  | tail choice _ step ih =>
    obtain ⟨roster, signed⟩ := ih
    obtain ⟨worker, _, _, found, _⟩ := exists_of_step? step
    exact ⟨_, .step choice signed found step⟩

end RunPlan

/-! ## Events stay with their workers -/

/-- An event in flight was so before, or it was just taken. -/
theorem RunPlan.Course.event_cases {plan : RunPlan κ ω} {events : Nat} {pool next : Pool κ ω}
    {old new : Stage κ} {act : Option (Act κ)}
    (course : RunPlan.Course plan events pool next.next next.gates old new act) {flight : Flight}
    (carries : new.flight? = some flight) :
    (∃ before, old.flight? = some before ∧ before.event = flight.event) ∨
      act = some (.took flight.event) := by
  cases course with
  | aside _ _ still =>
    rw [still] at carries
    cases carries
  | took =>
    obtain rfl := Option.some.inj carries
    exact .inr rfl
  | entered =>
    obtain rfl := Option.some.inj carries
    exact .inl ⟨_, rfl, rfl⟩
  | ran =>
    obtain rfl := Option.some.inj carries
    exact .inl ⟨_, rfl, rfl⟩
  | passed =>
    obtain rfl := Option.some.inj carries
    exact .inl ⟨_, rfl, rfl⟩
  | dropped _ still =>
    rw [still] at carries
    cases carries
  | _ => cases carries

/-- Whoever carries an event or offers it to an instance has taken it. -/
structure Tended (roster : List (Nat × Act κ)) (pool : Pool κ ω) : Prop where
  carried : ∀ {i flight}, pool.flight? i = some flight → (i, .took flight.event) ∈ roster
  offered : ∀ {i visit}, (i, .offered visit) ∈ roster → (i, .took visit.event) ∈ roster

/-- Every step leaves the events with their workers. -/
theorem Tended.step {plan : RunPlan κ ω} {events i : Nat} {pool next : Pool κ ω}
    {old new : Stage κ} {act : Option (Act κ)} {roster : List (Nat × Act κ)}
    (tended : Tended roster pool) (moved : pool.Replaces next i old new)
    (course : RunPlan.Course plan events pool next.next next.gates old new act) :
    Tended (roster ++ act.toList.map fun act => (i, act)) next := by
  constructor
  · intro j flight carries
    rcases moved.cases_flight carries with ⟨rfl, now⟩ | ⟨-, was⟩
    · rcases course.event_cases now with ⟨before, carried, same⟩ | rfl
      · rw [← same]
        exact List.mem_append_left _ (tended.carried (moved.flight_was.trans carried))
      · exact List.mem_append_right _ List.mem_cons_self
    · exact List.mem_append_left _ (tended.carried was)
  · intro j visit made
    refine List.mem_append_left _ ?_
    rcases List.mem_append.mp made with earlier | now
    · exact tended.offered earlier
    · obtain ⟨last, seen, signed⟩ := List.mem_map.mp now
      cases signed
      have visited : act.bind Act.visit? = some visit := by
        rw [Option.mem_toList.mp seen]
        rfl
      obtain ⟨-, carried, -⟩ := course.carries_of_visit visited
      exact tended.carried (moved.flight_was.trans carried)

/-- In every run the events stay with their workers. -/
theorem RunPlan.Roster.tended [DecidableEq κ] {plan : RunPlan κ ω} {events workers : Nat}
    {tallies : List Tally} {env : Env ω} {roster : List (Nat × Act κ)} {pool : Pool κ ω}
    (signed : plan.Roster events (plan.startPool workers tallies env) roster pool) :
    Tended roster pool := by
  induction signed with
  | start =>
    refine ⟨fun carries => ?_, nofun⟩
    rw [flight?_startPool] at carries
    cases carries
  | step choice before found step ih =>
    obtain ⟨new, moved, course⟩ := course_of_step? plan events _ _ found step
    exact ih.step moved course

end DetectorSim
