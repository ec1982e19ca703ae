import DetectorSim.Proofs.Builtin.Confinement
import DetectorSim.Proofs.Pool.Ending
import DetectorSim.Proofs.Pool.Loyalty

/-!
# A pool does what one thread does

If the instances of a plan are independent, a run on a pool of workers does the
same as the run on one thread, whatever the scheduler decides.  Either both
succeed or both fail; and if they succeed, every event was the same at every
instance, every instance that must see the events in order has seen the same and
ends in the same state, and all counts are the same.
-/

set_option autoImplicit false

namespace DetectorSim

variable {κ ω : Type} [Payload κ] {σ : Nat → Type}

/-! ## Visits and stops -/

theorem mem_stops {event index : Nat} {acts : List (Act κ)} :
    index ∈ stops event acts ↔
      ∃ visit ∈ visits acts, visit.event = event ∧ visit.index = index := by
  simp [stops, and_assoc]

/-- Without an event twice at one instance, no visit is made twice. -/
theorem nodup_visits {acts : List (Act κ)} (once : ∀ event, (stops event acts).Nodup) :
    (visits acts).Nodup := by
  unfold stops at once
  generalize visits acts = made at once ⊢
  induction made with
  | nil => exact List.nodup_nil
  | cons visit rest ih =>
    rw [List.nodup_cons]
    constructor
    · intro again
      have twice := once visit.event
      rw [List.filter_cons_of_pos (by simp), List.map_cons, List.nodup_cons] at twice
      exact twice.1 (List.mem_map_of_mem (List.mem_filter.mpr ⟨again, by simp⟩))
    · refine ih fun event => (once event).sublist ?_
      exact ((List.sublist_cons_self visit rest).filter _).map _

/-! ## When all workers are done -/

namespace RunPlan.History

variable [DecidableEq κ] {plan : RunPlan κ ω} {own : (i : Nat) → ω → σ i}
  {events workers : Nat} {tallies : List Tally} {env : Env ω} {acts : List (Act κ)}
  {pool : Pool κ ω}

/-- Every visit of a run is in the forecast for its event. -/
theorem mem_forecasts (independent : plan.Independent own) (fits : events + workers < 2 ^ 64)
    (history : plan.History events (plan.startPool workers tallies env) acts pool)
    {visit : Visit κ} (made : visit ∈ visits acts) :
    visit ∈ (List.range' 1 events).flatMap (plan.forecast env) := by
  obtain ⟨least, foreseen⟩ := (history.loyal independent fits).foreseen made
  have most : visit.event ≤ events := by
    by_contra late
    have untaken : (takenEvents acts).length < visit.event :=
      Nat.lt_of_le_of_lt (history.orderly fits).2.taken_le (Nat.lt_of_not_le late)
    have unseen := (history.toured fits).fresh untaken
    have stop := mem_stops.mpr ⟨visit, made, rfl, rfl⟩
    rw [unseen] at stop
    cases stop
  refine List.mem_flatMap.mpr ⟨visit.event, ?_, mem_forecast.mpr ⟨rfl, foreseen⟩⟩
  rw [List.mem_range'_1]
  omega

/-- If no hook has failed, everything in the forecasts has happened. -/
theorem made_of_forecasts (independent : plan.Independent own) (some_worker : 0 < workers)
    (fits : events + workers < 2 ^ 64)
    (history : plan.History events (plan.startPool workers tallies env) acts pool)
    (ended : pool.hasEnded = true) (calm : isCalm acts) {visit : Visit κ}
    (foreseen : visit ∈ (List.range' 1 events).flatMap (plan.forecast env)) :
    visit ∈ visits acts := by
  obtain ⟨event, within, foreseen⟩ := List.mem_flatMap.mp foreseen
  obtain ⟨rfl, placed⟩ := mem_forecast.mp foreseen
  rw [List.mem_range'_1] at within
  have inside := (List.getElem?_eq_some_iff.mp placed).1
  rw [length_forecast] at inside
  have tour := history.stops_eq some_worker fits ended calm within.1 (by omega)
  obtain ⟨made, visited, event_eq, index_eq⟩ := mem_stops.mp
    (tour ▸ List.mem_range.mpr inside)
  have placed' := ((history.loyal independent fits).foreseen visited).2
  rw [event_eq, index_eq, placed] at placed'
  rwa [Option.some.inj placed']

/-- The run has succeeded exactly if all forecasts are good and no count ran over. -/
theorem ok_iff_fine (independent : plan.Independent own) (some_worker : 0 < workers)
    (fits : events + workers < 2 ^ 64)
    (history : plan.History events (plan.startPool workers tallies env) acts pool)
    (ended : pool.hasEnded = true) : pool.outcome = .ok () ↔
      (∀ visit ∈ (List.range' 1 events).flatMap (plan.forecast env), visit.isFine) ∧
        .overflowed ∉ acts := by
  rw [history.outcome_ok_iff ended]
  constructor
  · intro calm
    refine ⟨fun visit foreseen => ?_, (isCalm_iff.mp calm).2⟩
    exact isFine_of_isCalm calm
      (history.made_of_forecasts independent some_worker fits ended calm foreseen)
  · rintro ⟨fine, kept⟩
    refine isCalm_iff.mpr ⟨fun outcome called => ?_, kept⟩
    rcases (history.loyal independent fits).called called with ok | ⟨visit, made, rfl⟩
    · exact ok
    · exact fine visit (history.mem_forecasts independent fits made)

/-- In a run that succeeds the visits are those of the forecasts, in some order. -/
theorem visits_perm (independent : plan.Independent own) (some_worker : 0 < workers)
    (fits : events + workers < 2 ^ 64)
    (history : plan.History events (plan.startPool workers tallies env) acts pool)
    (ended : pool.hasEnded = true) (calm : isCalm acts) :
    (visits acts).Perm ((List.range' 1 events).flatMap (plan.forecast env)) := by
  refine (List.perm_ext_iff_of_nodup (nodup_visits fun event => ?_) nodup_forecasts).mpr
    fun visit => ⟨history.mem_forecasts independent fits,
      history.made_of_forecasts independent some_worker fits ended calm⟩
  by_cases within : 1 ≤ event ∧ event ≤ events
  · rw [history.stops_eq some_worker fits ended calm within.1 within.2]
    exact List.nodup_range
  · have unseen : stops event acts = [] := by
      refine List.eq_nil_iff_forall_not_mem.mpr fun index stop => ?_
      obtain ⟨visit, made, rfl, -⟩ := mem_stops.mp stop
      obtain ⟨event, within', foreseen⟩ :=
        List.mem_flatMap.mp (history.mem_forecasts independent fits made)
      rw [(mem_forecast.mp foreseen).1] at within
      rw [List.mem_range'_1] at within'
      omega
    rw [unseen]
    exact List.nodup_nil

/-- In a run that succeeds, an instance with a gate has the visits of the
forecasts in their order. -/
theorem visitsAt_eq (independent : plan.Independent own) (some_worker : 0 < workers)
    (fits : events + workers < 2 ^ 64)
    (history : plan.History events (plan.startPool workers tallies env) acts pool)
    (ended : pool.hasEnded = true) (calm : isCalm acts) {index : Nat}
    (gated : plan.isGated index) :
    visitsAt index (visits acts)
      = visitsAt index ((List.range' 1 events).flatMap (plan.forecast env)) := by
  have loyal := history.loyal independent fits
  have perm := history.visits_perm independent some_worker fits ended calm
  refine @List.Perm.eq_of_pairwise _ (fun a b => a.event ≤ b.event) _ _ ?_ ?_ ?_
    (perm.filter _)
  · intro visit visit' made made' le le'
    obtain ⟨made, at_index⟩ := List.mem_filter.mp made
    obtain ⟨made', at_index'⟩ := List.mem_filter.mp made'
    have placed := (loyal.foreseen made).2
    have placed' := (loyal.foreseen (perm.mem_iff.mpr made')).2
    rw [decide_eq_true_eq] at at_index at_index'
    rw [at_index, Nat.le_antisymm le le'] at placed
    rw [at_index', placed] at placed'
    exact Option.some.inj placed'
  · obtain ⟨gate, found⟩ := (history.gate?_iff index).mpr gated
    obtain ⟨count, events_eq⟩ :=
      (history.recorded fits found).event_visitsAt (history.orderly fits).2 found
    rw [← List.pairwise_map (R := fun a b => a ≤ b), events_eq]
    exact List.pairwise_le_range'
  · refine List.Pairwise.filter _ (List.pairwise_flatMap.mpr ⟨?_, ?_⟩)
    · intro event _
      refine List.pairwise_of_forall_mem_list fun visit foreseen visit' foreseen' => ?_
      rw [(mem_forecast.mp foreseen).1, (mem_forecast.mp foreseen').1]
    · refine List.Pairwise.imp (fun {event event'} le visit foreseen visit' foreseen' => ?_)
        List.pairwise_le_range'
      rwa [(mem_forecast.mp foreseen).1, (mem_forecast.mp foreseen').1]

/-- In a run that succeeds, an instance with a gate has as many visits as there
are events. -/
theorem length_visitsAt (independent : plan.Independent own) (some_worker : 0 < workers)
    (fits : events + workers < 2 ^ 64)
    (history : plan.History events (plan.startPool workers tallies env) acts pool)
    (ended : pool.hasEnded = true) (calm : isCalm acts) {index : Nat}
    (gated : plan.isGated index) : (visitsAt index (visits acts)).length = events := by
  have visited : ∀ event, event ∈ (visitsAt index (visits acts)).map Visit.event ↔
      1 ≤ event ∧ event ≤ events := by
    intro event
    rw [List.mem_map]
    constructor
    · rintro ⟨visit, made, rfl⟩
      obtain ⟨event, within, foreseen⟩ := List.mem_flatMap.mp
        (history.mem_forecasts independent fits (List.mem_filter.mp made).1)
      rw [(mem_forecast.mp foreseen).1]
      rw [List.mem_range'_1] at within
      omega
    · rintro ⟨least, most⟩
      obtain ⟨inst, found, -⟩ := gated
      have tour := history.stops_eq some_worker fits ended calm least most
      obtain ⟨visit, made, event_eq, index_eq⟩ := mem_stops.mp
        (tour ▸ List.mem_range.mpr (List.getElem?_eq_some_iff.mp found).1)
      exact ⟨visit, List.mem_filter.mpr ⟨made, decide_eq_true index_eq⟩, event_eq⟩
  obtain ⟨gate, found⟩ := (history.gate?_iff index).mpr gated
  obtain ⟨count, events_eq⟩ :=
    (history.recorded fits found).event_visitsAt (history.orderly fits).2 found
  have size := congrArg List.length events_eq
  rw [List.length_map, List.length_range'] at size
  rw [events_eq] at visited
  have last := visited count
  have last' := visited events
  rw [List.mem_range'_1] at last last'
  omega

/-- In a run that succeeds, an instance with a gate ends in the state that it has
in the ledger after the last event. -/
theorem own_eq (independent : plan.Independent own) (some_worker : 0 < workers)
    (fits : events + workers < 2 ^ 64)
    (history : plan.History events (plan.startPool workers tallies env) acts pool)
    (ended : pool.hasEnded = true) (calm : isCalm acts) {index : Nat}
    (gated : plan.isGated index) :
    own index pool.env.world = own index (plan.ledgerEnv env events).world := by
  have seen := history.length_visitsAt independent some_worker fits ended calm gated
  rw [(history.loyal independent fits).owns gated, seen]

end RunPlan.History

namespace RunPlan

variable [DecidableEq κ] {plan : RunPlan κ ω} {own : (i : Nat) → ω → σ i}
  {events workers : Nat} {tallies : List Tally} {env : Env ω} {acts : List (Act κ)}
  {pool : Pool κ ω}

/-- A run of a pool and the run on one thread from the same state are in unison.
They succeed both or not at all, unless the count of a worker runs over, which ends
the run of the pool with a panic and takes so many events that one worker can not
count them.  If the pool succeeds, every event was at every instance, and there it
brought along the same, had the same outcome and took on the same, and the instance saw
the same messages, dispatched the same ones and drew the same random words; each
instance with a gate has seen all of that in the same order and ends in the same state;
and the counts are the same. -/
structure Unison (plan : RunPlan κ ω) (own : (i : Nat) → ω → σ i) (events : Nat)
    (first : List Tally × Env ω) (acts : List (Act κ)) (pool : Pool κ ω) : Prop where
  ok_iff : pool.outcome = .ok () ↔
    (plan.runSerial events first).1 = .ok () ∧ .overflowed ∉ acts
  panics : .overflowed ∈ acts → ∃ text, pool.outcome = .panic text
  overflows : .overflowed ∈ acts → countLimit ≤ events
  complete : pool.outcome = .ok () → ∀ {event}, 1 ≤ event → event ≤ events →
    stops event acts = List.range plan.instances.length
  visits_perm : pool.outcome = .ok () →
    (visits acts).Perm (plan.serialVisits events first)
  visitsAt_eq : pool.outcome = .ok () → ∀ {index}, plan.isGated index →
    visitsAt index (visits acts) = visitsAt index (plan.serialVisits events first)
  own_eq : pool.outcome = .ok () → ∀ {index}, plan.isGated index →
    own index pool.env.world = own index (plan.runSerial events first).2.2.world
  tallies_eq : pool.outcome = .ok () → pool.tallies = (plan.runSerial events first).2.1

/-- Whatever the scheduler decides, a pool whose workers are all done is in unison
with the run on one thread. -/
theorem History.unison (independent : plan.Independent own) (some_worker : 0 < workers)
    (fits : events + workers < 2 ^ 64)
    (history : plan.History events (plan.startPool workers tallies env) acts pool)
    (ended : pool.hasEnded = true) : plan.Unison own events (tallies, env) acts pool := by
  have calm_iff := history.outcome_ok_iff ended
  have fine_iff := history.ok_iff_fine independent some_worker fits ended
  have faithful := history.faithful some_worker fits ended
  refine ⟨fine_iff.trans (and_congr_left' runSerial_ok_iff.symm), fun overflowed => ?_,
    faithful.overflows, ?_, ?_, ?_, ?_, ?_⟩
  · obtain ⟨text, -, panics⟩ := faithful.panics (.inr overflowed)
    exact ⟨text, panics⟩
  · intro fine event least most
    exact history.stops_eq some_worker fits ended (calm_iff.mp fine) least most
  · intro fine
    rw [(runSerial_of_fine (fine_iff.mp fine).1 tallies).2]
    exact history.visits_perm independent some_worker fits ended (calm_iff.mp fine)
  · intro fine index gated
    rw [(runSerial_of_fine (fine_iff.mp fine).1 tallies).2]
    exact history.visitsAt_eq independent some_worker fits ended (calm_iff.mp fine) gated
  · intro fine index gated
    rw [(runSerial_of_fine (fine_iff.mp fine).1 tallies).1]
    exact history.own_eq independent some_worker fits ended (calm_iff.mp fine) gated
  · intro fine
    rw [(runSerial_of_fine (fine_iff.mp fine).1 tallies).1,
      (history.loyal independent fits).tallies_eq]
    exact countVisits_perm
      (history.visits_perm independent some_worker fits ended (calm_iff.mp fine)) tallies

open Builtin in
/-- Three events in the chain of all built-in modules on two workers.  If they all go
well, the writer has the same in its file as on one thread. -/
theorem unison_runToEnd_chain :
    ∃ plan acts pool, plan = chain .plain default 0 default (.atOrigin "dut" "silicon") 3 ∧
      pool = plan.runToEnd 3 (plan.startPool 2 plan.noTallies ⟨.ofFiles .empty, .empty⟩) ∧
      plan.Unison (share plan) 3 (plan.noTallies, ⟨.ofFiles .empty, .empty⟩) acts pool ∧
      (pool.outcome = .ok () → pool.env.world.written (writers plan) ⟨3⟩
        = (plan.runSerial 3 (plan.noTallies, ⟨.ofFiles .empty, .empty⟩)).2.2.world.written
            (writers plan) ⟨3⟩) := by
  have standard := isStandard_chain .plain default 0 default (.atOrigin "dut" "silicon") 3
  generalize plan_eq : chain .plain default 0 default (.atOrigin "dut" "silicon") 3 = plan
    at standard
  obtain ⟨acts, history⟩ := exists_history_runToEnd plan 3
    (plan.startPool 2 plan.noTallies ⟨.ofFiles .empty, .empty⟩)
  have unison := history.unison standard.independent (by decide) (by decide)
    (hasEnded_runToEnd (by decide))
  refine ⟨plan, acts, _, rfl, rfl, unison, fun fine => ?_⟩
  obtain ⟨inst, found, sequential, id_eq⟩ : ∃ inst, plan.instances[3]? = some inst ∧
      inst.module.safety = .sequential ∧ inst.receiver.id = ⟨3⟩ := by
    subst plan_eq
    exact ⟨_, rfl, rfl, rfl⟩
  have same := unison.own_eq fine ⟨inst, found, sequential⟩
  rw [share_of_sequential found sequential, share_of_sequential found sequential, id_eq] at same
  exact (Share.kept.inj same).2

/-- A pool may fail where one thread succeeds. -/
theorem not_ok_iff_runSerial : crowdedPool.hasEnded = true ∧
    ¬ (crowdedPool.outcome = .ok () ↔
      (bare.runSerial 4294967295 ([], ⟨0, .empty⟩)).1 = .ok ()) := by
  refine ⟨hasEnded_crowdedPool, fun agree => ?_⟩
  have fine : (bare.runSerial 4294967295 ([], ⟨0, .empty⟩)).1 = .ok () := by
    refine runSerial_ok_iff.mpr fun visit foreseen => ?_
    obtain ⟨event, -, foreseen⟩ := List.mem_flatMap.mp foreseen
    have nothing : bare.forecast ⟨0, .empty⟩ event = [] :=
      List.eq_nil_of_length_eq_zero length_forecast
    rw [nothing] at foreseen
    cases foreseen
  cases (agree.mpr fine).symm.trans outcome_crowdedPool

end RunPlan

/-! ## The files of the built-in writers -/

namespace Builtin.IsStandard

variable {plan : RunPlan PayloadKind Workspace} {events workers : Nat} {tallies : List Tally}
  {env : Env Workspace} {acts : List (Act PayloadKind)} {pool : Pool PayloadKind Workspace}
  {inst : Instance PayloadKind Workspace}

/-- In a run that succeeds each writer has written the same into its file as on one
thread, if all writers had files of their own in the beginning. -/
theorem written_eq (standard : IsStandard plan) (some_worker : 0 < workers)
    (fits : events + workers < 2 ^ 64)
    (history : plan.History events (plan.startPool workers tallies env) acts pool)
    (ended : pool.hasEnded = true) (succeeded : pool.outcome = .ok ())
    (apart : env.world.isApart (writers plan)) (member : inst ∈ plan.instances)
    (sequential : inst.module.safety = .sequential) {key : FileKey}
    (opened : (pool.env.world.writer inst.receiver.id).output = some key) :
    ((plan.runSerial events (tallies, env)).2.2.world.writer inst.receiver.id).output
        = some key ∧
      pool.env.world.files.nodes.find? key
        = (plan.runSerial events (tallies, env)).2.2.world.files.nodes.find? key := by
  have independent := standard.independent
  have calm := (history.outcome_ok_iff ended).mp succeeded
  have fine := ((history.ok_iff_fine independent some_worker fits ended).mp succeeded).1
  obtain ⟨index, found⟩ := List.mem_iff_getElem?.mp member
  have own_eq := history.own_eq independent some_worker fits ended calm
    ⟨inst, found, sequential⟩
  have apart_pool := isApart_of_share_eq
    ((history.loyal independent fits).beyond (Nat.le_refl _)) apart
  have apart_serial := isApart_of_share_eq
    (independent.own_beyond events (Nat.le_refl _)) apart
  rw [(RunPlan.runSerial_of_fine fine tallies).1]
  rw [share_of_sequential found sequential, share_of_sequential found sequential] at own_eq
  obtain ⟨state_eq, file_eq⟩ := Share.kept.inj own_eq
  unfold Workspace.written at file_eq
  rw [if_pos apart_pool, if_pos apart_serial, ← state_eq, opened] at file_eq
  exact ⟨state_eq ▸ opened, file_eq⟩

end Builtin.IsStandard

end DetectorSim
