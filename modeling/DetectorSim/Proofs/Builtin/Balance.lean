import DetectorSim.Proofs.Builtin.Counting
import DetectorSim.Proofs.Module.Lifecycle

/-!
# The totals of digitizers

Whichever worker offers which event to a digitizer, on whichever thread: what is pending
somewhere or merged is what the digitizer has sent.  On a thread where something is
pending there is a worker that is still to finalize the digitizer there.  So nothing is
pending any more when all workers have ended, and the total is the number of hits.  On one
thread all that is pending is on that thread, and is merged there in the end.
-/

set_option autoImplicit false

namespace DetectorSim

/-! ## Threads of a pool -/

section Threads

variable {κ ω : Type} [Payload κ]

/-- A worker at a stage is still to finalize the instance with an index on its thread. -/
def Stage.owes : Stage κ → Nat → Prop
  | .starting _, _ | .checking, _ | .claiming, _ | .closing _, _ => True
  | .arriving .., _ | .running .., _ | .leaving .., _ => True
  | .unwinding _ .event, _ => True
  | .finishing _ first, index => first ≤ index
  | _, _ => False

namespace RunPlan

variable [DecidableEq κ] {plan : RunPlan κ ω} {events workers : Nat} {pool middle : Pool κ ω}
  {choice : Choice} {worker after : Worker κ}

/-- A worker stays on the thread that it has got. -/
theorem thread_of_advance?
    (advanced : plan.advance? events pool choice worker = some (middle, after)) :
    after.thread = worker.thread ∨
      worker.stage = .waiting ∧ pool.isFree after.thread = true := by
  unfold advance? at advanced
  cases stage : worker.stage with
  | waiting =>
    simp only [stage] at advanced
    split at advanced
    · next free =>
      obtain ⟨-, rfl⟩ := Prod.mk.inj (Option.some.inj advanced)
      exact .inr ⟨rfl, free⟩
    · cases advanced
  | arriving event data index =>
    simp only [stage] at advanced
    split at advanced
    · obtain ⟨new, -, advanced⟩ := Option.bind_eq_some_iff.mp advanced
      obtain ⟨-, rfl⟩ := Prod.mk.inj (Option.some.inj advanced)
      exact .inl rfl
    · obtain ⟨-, rfl⟩ := Prod.mk.inj (Option.some.inj advanced)
      exact .inl worker.countEvent_thread
  | running event data index =>
    simp only [stage] at advanced
    obtain ⟨inst, -, advanced⟩ := Option.bind_eq_some_iff.mp advanced
    obtain ⟨-, rfl⟩ := Prod.mk.inj (Option.some.inj advanced)
    exact .inl rfl
  | ended =>
    simp only [stage] at advanced
    cases advanced
  | _ =>
    simp only [stage] at advanced
    obtain ⟨-, rfl⟩ := Prod.mk.inj (Option.some.inj advanced)
    exact .inl rfl

/-- All threads of a pool are numbered from one to the number of workers. -/
theorem History.thread_le {tallies : List Tally} {env : Env ω} {acts : List (Act κ)}
    (history : plan.History events (plan.startPool workers tallies env) acts pool) :
    ∀ worker ∈ pool.workers, worker.thread ≤ pool.workers.length := by
  induction history with
  | start =>
    intro worker among
    rw [(List.mem_replicate.mp among).2]
    exact Nat.zero_le _
  | @step acts pool next worker choice before found step ih =>
    obtain ⟨same, middle, after, found', advanced, rfl⟩ := exists_of_step? step
    obtain rfl := Option.some.inj (found.symm.trans found')
    have workers_eq := (course_of_advance? plan events pool _ advanced).1
    simp only [workers_eq, List.length_set]
    intro other among
    rcases List.mem_or_eq_of_mem_set among with earlier | rfl
    · exact ih other earlier
    · rcases thread_of_advance? advanced with stays | ⟨-, free⟩
      · rw [stays]
        exact ih _ (List.mem_of_getElem? found)
      · simp only [Pool.isFree, Bool.and_eq_true, decide_eq_true_eq] at free
        exact free.1.2

end RunPlan

/-- Calling a hook of an instance on a thread does to the world what the hook does there. -/
theorem Pool.exists_perform_call {pool : Pool κ ω} (inst : Instance κ ω) (letter : String)
    (phase : Phase) (hook : Hook ω Unit) (thread : ThreadId) :
    ∃ env, env.world = pool.env.world ∧ env.journal.thread = thread ∧
      (pool.perform thread (inst.call letter phase hook.exec)).2.env.world
        = (hook.exec env).2.world :=
  let journal := { pool.env.journal with thread }
  ⟨⟨pool.env.world, (journal.enter (letter ++ ":" ++ inst.name)).2⟩, rfl, rfl, rfl⟩

end Threads

namespace Builtin

variable {ω : Type} [HasWorkspace ω] {index : Nat} {id : InstanceId}
  {acts : List (Act PayloadKind)} {act : Option (Act PayloadKind)}

/-! ## What a step does to the counts -/

/-- What a step of a worker does to the counts of the digitizer with an index. -/
inductive Change (index : Nat) (id : InstanceId) (worker : Worker PayloadKind) (before after : ω)
    (new : Stage PayloadKind) : Option (Act PayloadKind) → Prop where
  /-- It does not touch them. -/
  | spared {act : Option (Act PayloadKind)} (same : countsOf id after = countsOf id before)
      (elsewhere : ∀ visit, act.bind Act.visit? = some visit → visit.index ≠ index)
      (owes : worker.stage.owes index → new.owes index) :
      Change index id worker before after new act
  /-- It counts what is sent in a visit. -/
  | gained {visit : Visit PayloadKind} (here : visit.index = index)
      (gains : Counts.Gains worker.thread (hitsIn visit.sights) (countsOf id before)
        (countsOf id after)) (owed : worker.stage.owes index) (owes : new.owes index) :
      Change index id worker before after new (some (.offered visit))
  /-- It merges what was counted on the thread. -/
  | merged {act : Option (Act PayloadKind)} (unvisited : act.bind Act.visit? = none)
      (now : countsOf id after = (countsOf id before).merge worker.thread) :
      Change index id worker before after new act

/-- Where the world stays the same and no event is offered, the counts are not touched. -/
theorem Change.of_eq {worker : Worker PayloadKind} {before after : ω} {new : Stage PayloadKind}
    (same : after = before) (unvisited : act.bind Act.visit? = none)
    (owes : worker.stage.owes index → new.owes index) :
    Change index id worker before after new act := by
  refine .spared (by rw [same]) (fun visit visited => ?_) owes
  rw [unvisited] at visited
  cases visited

section Steps

variable [LawfulWorkspace ω] {plan : RunPlan PayloadKind ω} {events : Nat}
  {pool middle : Pool PayloadKind ω} {choice : Choice} {worker after : Worker PayloadKind}
  {digitizer : Instance PayloadKind ω}
  (held : Private plan.messenger plan.instances) (found : plan.instances[index]? = some digitizer)
  (made : IsDigitizer digitizer)

include held found made

theorem change_start {i : Nat} (stage : worker.stage = .starting i)
    (calm : ∀ outcome ∈ (plan.act? events pool worker).bind Act.call?, outcome = .ok ()) :
    Change index digitizer.receiver.id worker pool.env.world
      (plan.start pool worker i).1.env.world (plan.start pool worker i).2
      (plan.act? events pool worker) := by
  simp only [RunPlan.start, RunPlan.act?, stage] at calm ⊢
  cases there : plan.instances[i]? with
  | none => exact .of_eq rfl rfl fun _ => trivial
  | some inst =>
    have kept : Proc.Keeps (fun env => countsOf digitizer.receiver.id env.world)
        inst.module.threadInit.exec := by
      by_cases here : i = index
      · subst here
        obtain rfl := Option.some.inj (found.symm.trans there)
        obtain ⟨samplers, settings, detector, arrivals, module_eq⟩ := made
        rw [module_eq]
        exact fun _ => rfl
      · exact (held.spares found made there here).threadInit
    obtain ⟨env, world_eq, -, performed⟩ :=
      pool.exists_perform_call inst "I" .threadInit inst.module.threadInit worker.thread
    rw [there] at calm
    have fine := calm _ rfl
    rw [← Instance.threadInit] at performed
    simp only [Option.map_some]
    generalize pool.perform worker.thread inst.threadInit = result at performed fine
    obtain ⟨outcome, next⟩ := result
    obtain rfl : outcome = .ok () := fine
    refine .spared ?_ (fun visit visited => by cases visited) fun _ => trivial
    rw [performed, ← world_eq]
    exact kept env

theorem change_finish {i : Nat} {result : Except Error Unit}
    (stage : worker.stage = .finishing result i)
    (calm : ∀ outcome ∈ (plan.act? events pool worker).bind Act.call?, outcome = .ok ()) :
    Change index digitizer.receiver.id worker pool.env.world
      (plan.finish pool worker result i).1.env.world (plan.finish pool worker result i).2
      (plan.act? events pool worker) := by
  simp only [RunPlan.finish, RunPlan.act?, stage] at calm ⊢
  cases there : plan.instances[i]? with
  | none =>
    -- The worker has passed the last instance, and with it this one.
    have beyond : ¬ worker.stage.owes index := by
      rw [stage]
      intro owed
      have inside := (List.getElem?_eq_some_iff.mp found).1
      have outside := List.getElem?_eq_none_iff.mp there
      exact absurd (Nat.lt_of_lt_of_le inside (Nat.le_trans outside owed)) (Nat.lt_irrefl _)
    cases result <;> exact .of_eq rfl rfl fun owed => absurd owed beyond
  | some inst =>
    obtain ⟨env, world_eq, thread_eq, performed⟩ :=
      pool.exists_perform_call inst "F" .threadFinalize inst.module.threadFinalize worker.thread
    rw [there] at calm
    have fine := calm _ rfl
    rw [← Instance.threadFinalize] at performed
    simp only [Option.map_some]
    generalize pool.perform worker.thread inst.threadFinalize = ended at performed fine
    obtain ⟨outcome, next⟩ := ended
    obtain rfl : outcome = .ok () := fine
    by_cases here : i = index
    · subst here
      obtain rfl := Option.some.inj (found.symm.trans there)
      obtain ⟨samplers, settings, detector, arrivals, module_eq⟩ := made
      refine .merged rfl ?_
      rw [performed, ← world_eq, ← thread_eq, module_eq]
      exact (Digitizer.counts_mergePending _ env).2
    · refine .spared ?_ (fun visit visited => by cases visited) fun owed => ?_
      · rw [performed, ← world_eq]
        exact (held.spares found made there here).threadFinalize env
      · rw [stage] at owed
        exact Nat.lt_of_le_of_ne owed here

theorem change_visitAt {event i : Nat} {data : EventData PayloadKind}
    {inst : Instance PayloadKind ω} (stage : worker.stage = .running event data i)
    (there : plan.instances[i]? = some inst)
    (calm : ∀ outcome ∈ (plan.act? events pool worker).bind Act.call?, outcome = .ok ()) :
    Change index digitizer.receiver.id worker pool.env.world
      (plan.visitAt pool worker event data i inst).1.env.world
      (plan.visitAt pool worker event data i inst).2 (plan.act? events pool worker) := by
  have act_eq : plan.act? events pool worker
      = some (.offered (plan.visitOf pool worker event data i inst)) := by
    simp only [RunPlan.act?, stage, there, Option.map_some]
  rw [act_eq] at calm ⊢
  have fine := calm _ rfl
  rw [RunPlan.visitAt_eq]
  obtain ⟨state, visit_eq, thread_eq, world_eq, after_eq⟩ : ∃ state : EventState PayloadKind ω,
      plan.visitOf pool worker event data i inst = inst.visitBy plan.messenger event i state ∧
        state.env.journal.thread = worker.thread ∧ state.env.world = pool.env.world ∧
        (plan.visitAt pool worker event data i inst).1.env.world
          = (inst.runEvent plan.messenger state).2.env.world := by
    refine ⟨_, rfl, rfl, rfl, ?_⟩
    simp only [RunPlan.visitAt, Proc.onThread, inst.offer_eq plan.messenger event]
    rfl
  rw [visit_eq] at fine ⊢
  rw [after_eq, ← world_eq]
  by_cases here : i = index
  · subst here
    obtain rfl := Option.some.inj (found.symm.trans there)
    obtain ⟨ran, offered, -⟩ := Outcome.map_eq_ok_iff.mp fine
    have unheard := held.listeners digitizer (List.mem_of_getElem? found) made
    refine .gained rfl ?_ (by rw [stage]; trivial) trivial
    rw [← thread_eq]
    exact made.gains unheard (Prod.ext offered rfl)
  · have spares := held.spares found made there here
    refine .spared (spares.runEvent state) ?_ fun _ => trivial
    rintro visit visited rfl
    obtain rfl := Option.some.inj visited
    exact here rfl

omit [LawfulWorkspace ω] held found made in
theorem change_arrive {event i : Nat} {data : EventData PayloadKind} {new : Stage PayloadKind}
    (stage : worker.stage = .arriving event data i) (owes : new.owes index) :
    Change index id worker pool.env.world pool.env.world new (plan.act? events pool worker) := by
  simp only [RunPlan.act?, stage]
  split
  · split <;> exact .of_eq rfl rfl fun _ => owes
  · split <;> exact .of_eq rfl rfl fun _ => owes

omit [LawfulWorkspace ω] [HasWorkspace ω] held found made in
theorem owes_of_arrive? {event i : Nat} {data : EventData PayloadKind} {new : Stage PayloadKind}
    (arrived : RunPlan.arrive? pool event data i = some new) : new.owes index := by
  unfold RunPlan.arrive? at arrived
  split at arrived
  · obtain rfl := Option.some.inj arrived
    trivial
  · split at arrived
    · cases arrived
    · obtain rfl := Option.some.inj arrived
      trivial
    · obtain rfl := Option.some.inj arrived
      trivial

/-- Every step of a worker does as much to the counts, unless a hook has failed. -/
theorem change_of_advance?
    (advanced : plan.advance? events pool choice worker = some (middle, after))
    (calm : ∀ outcome ∈ (plan.act? events pool worker).bind Act.call?, outcome = .ok ()) :
    Change index digitizer.receiver.id worker pool.env.world middle.env.world after.stage
      (plan.act? events pool worker) := by
  have advance := RunPlan.advance_of_advance? advanced
  generalize stage : worker.stage = old at advance
  generalize after.stage = new at advance
  cases advance with
  | started => exact change_start held found made stage calm
  | finished => exact change_finish held found made stage calm
  | visited there => exact change_visitAt held found made stage there calm
  | arrived inside arrived => exact change_arrive stage (owes_of_arrive? arrived)
  | completed => exact change_arrive stage trivial
  | overflowed beyond full =>
    simp only [RunPlan.act?, stage, if_neg beyond, full, Bool.false_eq_true, if_false] at calm
    cases calm _ rfl
  | claimed =>
    simp only [RunPlan.claim, RunPlan.act?, stage]
    split <;> exact .of_eq rfl rfl fun _ => trivial
  | checked =>
    simp only [RunPlan.act?, stage]
    split <;> exact .of_eq rfl rfl fun _ => trivial
  | @left event i data outcome =>
    simp only [RunPlan.act?, stage]
    cases outcome <;> exact .of_eq rfl rfl fun _ => trivial
  | @unwound text what =>
    simp only [RunPlan.act?, stage]
    cases what with
    | event => exact .of_eq rfl rfl fun _ => trivial
    | thread => exact .of_eq rfl rfl fun owed => by rw [stage] at owed; cases owed
  | @closed result text =>
    simp only [RunPlan.act?, stage]
    exact .of_eq rfl rfl fun _ => Nat.zero_le _
  | woken =>
    simp only [RunPlan.act?, stage]
    exact .of_eq rfl rfl fun _ => trivial
  | @failed err =>
    simp only [RunPlan.act?, stage, Pool.keepFailure]
    split <;> exact .of_eq rfl rfl fun owed => by rw [stage] at owed; cases owed
  | raised =>
    simp only [RunPlan.act?, stage]
    exact .of_eq rfl rfl fun owed => by rw [stage] at owed; cases owed
  | released =>
    simp only [RunPlan.act?, stage, RunPlan.release]
    split <;> exact .of_eq rfl rfl fun owed => by rw [stage] at owed; cases owed

end Steps

/-! ## The balance of a pool -/

/-- What is pending on the threads of a pool or merged is what the digitizer with an index
has sent, and somebody is still to merge what is pending. -/
structure Balanced (index : Nat) (id : InstanceId) (acts : List (Act PayloadKind))
    (pool : Pool PayloadKind ω) : Prop where
  sum_eq : (countsOf id pool.env.world).sum (Finset.range (pool.workers.length + 1))
    = hitsAt index (visits acts)
  owed : ∀ {thread}, (countsOf id pool.env.world).pending thread ≠ none →
    ∃ (i : Nat) (worker : Worker PayloadKind), pool.workers[i]? = some worker ∧
      worker.thread = thread ∧ worker.stage.owes index

namespace Balanced

variable {pool next : Pool PayloadKind ω} {i : Nat} {worker after : Worker PayloadKind}

/-- Somebody who was still to merge on a thread is so after a step, or has made it. -/
theorem owed_on (balanced : Balanced index id acts pool) (found : pool.workers[i]? = some worker)
    (workers_eq : next.workers = pool.workers.set i after) {thread : ThreadId}
    (pending : (countsOf id pool.env.world).pending thread ≠ none)
    (goes_on : worker.thread = thread → worker.stage.owes index →
      after.thread = thread ∧ after.stage.owes index) :
    ∃ (j : Nat) (other : Worker PayloadKind), next.workers[j]? = some other ∧
      other.thread = thread ∧ other.stage.owes index := by
  obtain ⟨j, other, there, on, owes⟩ := balanced.owed pending
  rw [workers_eq]
  by_cases same : i = j
  · subst same
    obtain rfl := Option.some.inj (found.symm.trans there)
    have inside := (List.getElem?_eq_some_iff.mp found).1
    exact ⟨i, after, List.getElem?_set_self inside, goes_on on owes⟩
  · exact ⟨j, other, by rw [List.getElem?_set_ne same]; exact there, on, owes⟩

/-- Every step keeps the balance. -/
theorem step (balanced : Balanced index id acts pool) (found : pool.workers[i]? = some worker)
    (inside : worker.thread ≤ pool.workers.length)
    (workers_eq : next.workers = pool.workers.set i after)
    (stays : worker.stage.owes index → after.thread = worker.thread)
    (change : Change index id worker pool.env.world next.env.world after.stage act) :
    Balanced index id (acts ++ act.toList) next := by
  have size : next.workers.length = pool.workers.length := by rw [workers_eq, List.length_set]
  have here : worker.thread ∈ Finset.range (pool.workers.length + 1) :=
    Finset.mem_range.mpr (Nat.lt_succ_of_le inside)
  rw [← size] at here
  have sum_eq := balanced.sum_eq
  rw [← size] at sum_eq
  cases change with
  | spared same elsewhere owes =>
    refine ⟨?_, fun pending => ?_⟩
    · have none_here : hitsAt index (act.bind Act.visit?).toList = 0 :=
        hitsAt_of_ne fun visit among => elsewhere visit (Option.mem_toList.mp among)
      rw [same, sum_eq, visits_append, hitsAt_append, none_here, Nat.add_zero]
    · rw [same] at pending
      refine balanced.owed_on found workers_eq pending fun on owed => ?_
      exact ⟨(stays owed).trans on, owes owed⟩
  | @gained visit place gains owed owes =>
    refine ⟨?_, fun {thread} pending => ?_⟩
    · rw [gains.sum here, sum_eq, visits_of_visit rfl, hitsAt_append, hitsAt_singleton,
        if_pos place]
    · by_cases on : thread = worker.thread
      -- Where the hits were counted, the worker itself is still to merge them.
      · have inside := (List.getElem?_eq_some_iff.mp found).1
        refine ⟨i, after, ?_, (stays owed).trans on.symm, owes⟩
        rw [workers_eq]
        exact List.getElem?_set_self inside
      · rw [gains.pending_of_ne on] at pending
        exact balanced.owed_on found workers_eq pending fun same _ => absurd same.symm on
  | merged unvisited now =>
    refine ⟨?_, fun {thread} pending => ?_⟩
    · rw [now, Counts.sum_merge here, sum_eq, visits_of_unvisited unvisited]
    · rw [now] at pending
      by_cases on : thread = worker.thread
      · rw [on, Counts.pending_merge_self] at pending
        exact absurd rfl pending
      · rw [Counts.pending_merge_of_ne on] at pending
        exact balanced.owed_on found workers_eq pending fun same _ => absurd same.symm on

end Balanced

section Pools

variable [LawfulWorkspace ω] {plan : RunPlan PayloadKind ω} {events workers : Nat}
  {tallies : List Tally} {env : Env ω} {pool : Pool PayloadKind ω}
  {digitizer : Instance PayloadKind ω}

/-- As long as no hook has failed, a pool is balanced whatever the scheduler decides. -/
theorem balanced_of_history (held : Private plan.messenger plan.instances)
    (found : plan.instances[index]? = some digitizer) (made : IsDigitizer digitizer)
    (fresh : countsOf digitizer.receiver.id env.world = .merged 0)
    (history : plan.History events (plan.startPool workers tallies env) acts pool)
    (calm : isCalm acts) : Balanced index digitizer.receiver.id acts pool := by
  induction history with
  | start =>
    have start_eq : countsOf digitizer.receiver.id (plan.startPool workers tallies env).env.world
        = .merged 0 := fresh
    refine ⟨?_, fun pending => ?_⟩
    · rw [start_eq, Counts.sum_merged]
      rfl
    · rw [start_eq] at pending
      exact absurd rfl pending
  | @step acts pool next worker choice before here step ih =>
    obtain ⟨same, middle, after, there, advanced, rfl⟩ := RunPlan.exists_of_step? step
    obtain rfl := Option.some.inj (here.symm.trans there)
    have fine : ∀ outcome ∈ (plan.act? events pool worker).bind Act.call?, outcome = .ok () := by
      intro outcome called
      refine calm outcome ?_
      rw [calls_append]
      exact List.mem_append_right _ (Option.mem_toList.mpr called)
    have change := change_of_advance? held found made advanced fine
    refine (ih (isCalm_of_append calm)).step here
      (before.thread_le worker (List.mem_of_getElem? here)) ?_ (fun owed => ?_) change
    · simp only [(RunPlan.course_of_advance? plan events pool worker advanced).1]
    -- A worker gets its thread while it waits, and then it owes nothing.
    · rcases RunPlan.thread_of_advance? advanced with stays | ⟨waiting, -⟩
      · exact stays
      · rw [waiting] at owed
        cases owed

/-- When a pool has come to its end with success, all that was counted is merged. -/
theorem merged_of_pool (held : Private plan.messenger plan.instances)
    (found : plan.instances[index]? = some digitizer) (made : IsDigitizer digitizer)
    (fresh : countsOf digitizer.receiver.id env.world = .merged 0)
    (history : plan.History events (plan.startPool workers tallies env) acts pool)
    (ended : pool.hasEnded = true) (succeeded : pool.outcome = .ok ()) :
    countsOf digitizer.receiver.id pool.env.world = .merged (hitsAt index (visits acts)) := by
  have balanced := balanced_of_history held found made fresh history
    ((history.outcome_ok_iff ended).mp succeeded)
  rw [← balanced.sum_eq]
  refine Counts.eq_merged fun thread => ?_
  -- Who is still to merge has not ended.
  by_contra pending
  obtain ⟨i, worker, there, -, owes⟩ := balanced.owed pending
  have retired := List.all_eq_true.mp ended worker (List.mem_of_getElem? there)
  cases stage : worker.stage with
  | ended =>
    rw [stage] at owes
    cases owes
  | _ =>
    rw [Worker.hasEnded, stage] at retired
    cases retired

end Pools

/-! ## The balance of one thread -/

section Serial

variable {plan : RunPlan PayloadKind ω} {env : Env ω} {event count events : Nat}
  {tallies : List Tally} {digitizer : Instance PayloadKind ω}

omit [HasWorkspace ω] in
/-- What some instances keep stays as it is while an event is offered to them. -/
theorem ledger_keeps {τ : Type} {view : EventState PayloadKind ω → τ} {first last : Nat}
    (le : first ≤ last) (kept : ∀ i inst, first ≤ i → i < last → plan.instances[i]? = some inst →
      Proc.Keeps view (inst.runEvent plan.messenger)) :
    view (plan.ledger env event last) = view (plan.ledger env event first) := by
  induction le with
  | refl => rfl
  | @step last le ih =>
    rw [← ih fun i inst ge lt => kept i inst ge (Nat.lt_succ_of_lt lt)]
    cases found : plan.instances[last]? with
    | none =>
      unfold RunPlan.ledger
      rw [List.take_add_one, found, Option.toList_none, List.append_nil]
    | some inst =>
      rw [RunPlan.ledger_succ found]
      exact kept last inst le (Nat.lt_succ_self last) found _

omit [HasWorkspace ω] in
/-- All of an event is on one thread. -/
theorem thread_ledger (i : Nat) :
    (plan.ledger env event i).env.journal.thread
      = (plan.ledgerEnv env (event - 1)).journal.thread := by
  have kept : ∀ j inst, 0 ≤ j → j < i → plan.instances[j]? = some inst →
      Proc.Keeps (fun state => state.env.journal.thread) (inst.runEvent plan.messenger) :=
    fun _ inst _ _ _ => inst.keeps_thread_runEvent plan.messenger
  exact ledger_keeps (Nat.zero_le i) kept

omit [HasWorkspace ω] in
theorem thread_ledgerEnv (env : Env ω) (count : Nat) :
    (plan.ledgerEnv env count).journal.thread = env.journal.thread := by
  induction count with
  | zero => rfl
  | succ count ih => rw [RunPlan.ledgerEnv_eq, thread_ledger, Nat.add_sub_cancel, ih]

omit [HasWorkspace ω] in
/-- The visits of an event at an instance are one, that of the ledger. -/
theorem visitsAt_forecast (found : plan.instances[index]? = some digitizer) :
    visitsAt index (plan.forecast env event)
      = [digitizer.visitBy plan.messenger event index (plan.ledger env event index)] := by
  have distinct : ((plan.forecast env event).map Visit.index).Nodup := by
    rw [RunPlan.map_index_forecast]
    exact List.nodup_range
  have among : digitizer.visitBy plan.messenger event index (plan.ledger env event index)
      ∈ plan.forecast env event := by
    refine List.mem_of_getElem? (i := index) ?_
    rw [RunPlan.getElem?_forecast, found]
    rfl
  exact List.filter_key_eq_singleton distinct among

variable [LawfulWorkspace ω]

/-- In an event that goes well a digitizer counts what it sends. -/
theorem gains_event (held : Private plan.messenger plan.instances)
    (found : plan.instances[index]? = some digitizer) (made : IsDigitizer digitizer)
    (fine : ∀ visit ∈ plan.forecast env (count + 1), visit.isFine) :
    Counts.Gains (plan.ledgerEnv env count).journal.thread
      (hitsAt index (plan.forecast env (count + 1)))
      (countsOf digitizer.receiver.id (plan.ledgerEnv env count).world)
      (countsOf digitizer.receiver.id (plan.ledgerEnv env (count + 1)).world) := by
  have inside := (List.getElem?_eq_some_iff.mp found).1
  have before : countsOf digitizer.receiver.id (plan.ledger env (count + 1) index).env.world
      = countsOf digitizer.receiver.id (plan.ledgerEnv env count).world := by
    have spared : ∀ i inst, 0 ≤ i → i < index → plan.instances[i]? = some inst →
        Proc.Keeps (fun state => countsOf digitizer.receiver.id state.env.world)
          (inst.runEvent plan.messenger) :=
      fun i inst _ lt there => (held.spares found made there (Nat.ne_of_lt lt)).runEvent
    exact ledger_keeps (Nat.zero_le index) spared
  have after : countsOf digitizer.receiver.id (plan.ledgerEnv env (count + 1)).world
      = countsOf digitizer.receiver.id (plan.ledger env (count + 1) (index + 1)).env.world := by
    have spared : ∀ i inst, index + 1 ≤ i → i < plan.instances.length →
        plan.instances[i]? = some inst →
        Proc.Keeps (fun state => countsOf digitizer.receiver.id state.env.world)
          (inst.runEvent plan.messenger) :=
      fun i inst ge _ there => (held.spares found made there (Nat.ne_of_gt ge)).runEvent
    rw [RunPlan.ledgerEnv_eq]
    exact ledger_keeps inside spared
  have visits_eq : visitsAt index (plan.forecast env (count + 1))
      = [digitizer.visitBy plan.messenger (count + 1) index
          (plan.ledger env (count + 1) index)] := visitsAt_forecast found
  have ended := fine _ (List.mem_filter.mp (visits_eq ▸ List.mem_cons_self)).1
  obtain ⟨ran, offered, -⟩ := Outcome.map_eq_ok_iff.mp ended
  have gains := made.gains (held.listeners digitizer (List.mem_of_getElem? found) made)
    (Prod.ext offered rfl)
  rw [thread_ledger, Nat.add_sub_cancel, before] at gains
  rw [hitsAt, visits_eq, after, RunPlan.ledger_succ found]
  exact gains

/-- While all goes well on one thread, what is not merged is pending there. -/
theorem due_ledgerEnv (held : Private plan.messenger plan.instances)
    (found : plan.instances[index]? = some digitizer) (made : IsDigitizer digitizer)
    (fresh : countsOf digitizer.receiver.id env.world = .merged 0)
    (fine : ∀ visit ∈ (List.range' 1 events).flatMap (plan.forecast env), visit.isFine) :
    (countsOf digitizer.receiver.id (plan.ledgerEnv env events).world).Due env.journal.thread
      (hitsAt index ((List.range' 1 events).flatMap (plan.forecast env))) := by
  induction events with
  | zero =>
    rw [RunPlan.ledgerEnv, fresh]
    exact Counts.due_merged _ 0
  | succ count ih =>
    rw [List.range'_concat, List.flatMap_append, List.flatMap_singleton, Nat.one_mul,
      Nat.add_comm 1] at fine ⊢
    rw [List.forall_mem_append] at fine
    rw [hitsAt_append]
    have gains := gains_event held found made fine.2
    rw [thread_ledgerEnv] at gains
    exact (ih fine.1).gains gains

/-- When a run on one thread has succeeded, what is not merged is pending there. -/
theorem due_of_serial (held : Private plan.messenger plan.instances)
    (found : plan.instances[index]? = some digitizer) (made : IsDigitizer digitizer)
    (fresh : countsOf digitizer.receiver.id env.world = .merged 0)
    (succeeded : (plan.runSerial events (tallies, env)).1 = .ok ()) :
    (countsOf digitizer.receiver.id (plan.runSerial events (tallies, env)).2.2.world).Due
      env.journal.thread
      (hitsAt index (visits (actsOf (plan.serialRoster events (tallies, env))))) := by
  have fine := RunPlan.runSerial_ok_iff.mp succeeded
  rw [RunPlan.visits_serialRoster succeeded, (RunPlan.runSerial_of_fine fine tallies).1]
  exact due_ledgerEnv held found made fresh fine

end Serial

end Builtin

end DetectorSim
