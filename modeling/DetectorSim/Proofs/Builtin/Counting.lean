import Mathlib.Algebra.BigOperators.Group.Finset.Piecewise
import DetectorSim.Proofs.Builtin.Exchange
import DetectorSim.Proofs.Module.Sparing
import DetectorSim.Rehearsal.Bench

/-!
# What a digitizer has counted

A digitizer counts the hits of an event on the thread that it runs on, and moves what was
counted on a thread to its total when it is finalized there.  So a hit is counted in one
place at a time, and the sum over all places grows by what is dispatched and by nothing
else.
-/

set_option autoImplicit false

namespace DetectorSim.Builtin

/-! ## Counts -/

/-- What was counted on each thread and not merged yet, and what was merged. -/
@[ext]
structure Counts where
  pending : ThreadId → Option Nat
  total : Nat

namespace Counts

/-- Everything is merged. -/
def merged (total : Nat) : Counts :=
  ⟨fun _ => none, total⟩

/-- Count hits on a thread. -/
def add (counts : Counts) (thread : ThreadId) (hits : Nat) : Counts :=
  { counts with
    pending := Function.update counts.pending thread
      (some ((counts.pending thread).getD 0 + hits)) }

/-- Merge what was counted on a thread. -/
def merge (counts : Counts) (thread : ThreadId) : Counts :=
  ⟨Function.update counts.pending thread none,
    counts.total + (counts.pending thread).getD 0⟩

/-- All that was counted on some threads or merged. -/
def sum (threads : Finset ThreadId) (counts : Counts) : Nat :=
  counts.total + ∑ thread ∈ threads, (counts.pending thread).getD 0

/-- All that was counted is merged, but for some of it on one thread. -/
structure Due (thread : ThreadId) (hits : Nat) (counts : Counts) : Prop where
  balance : counts.total + (counts.pending thread).getD 0 = hits
  elsewhere : ∀ {other}, other ≠ thread → counts.pending other = none

/-- Some hits, if any, were counted on a thread. -/
inductive Gains (thread : ThreadId) : Nat → Counts → Counts → Prop where
  | nothing (counts : Counts) : Gains thread 0 counts counts
  | some (counts : Counts) (hits : Nat) : Gains thread hits counts (counts.add thread hits)

variable {counts after : Counts} {thread other : ThreadId} {threads : Finset ThreadId}
  {hits more : Nat}

theorem pending_add_of_ne (apart : other ≠ thread) :
    (counts.add thread hits).pending other = counts.pending other :=
  Function.update_of_ne apart _ _

theorem pending_merge_of_ne (apart : other ≠ thread) :
    (counts.merge thread).pending other = counts.pending other :=
  Function.update_of_ne apart _ _

theorem pending_merge_self : (counts.merge thread).pending thread = none :=
  Function.update_self _ _ _

theorem merge_of_none (nothing : counts.pending thread = none) : counts.merge thread = counts := by
  refine Counts.ext ?_ ?_
  · exact (congrArg _ nothing.symm).trans (Function.update_eq_self _ _)
  · show counts.total + _ = _
    rw [nothing, Option.getD_none, Nat.add_zero]

theorem pending_add_self :
    (counts.add thread hits).pending thread = .some ((counts.pending thread).getD 0 + hits) :=
  Function.update_self _ _ _

/-- On the threads other than one, nothing changes with what is counted on that one. -/
theorem sum_erase_congr
    (same : ∀ other, other ≠ thread → after.pending other = counts.pending other) :
    ∑ other ∈ threads.erase thread, (after.pending other).getD 0
      = ∑ other ∈ threads.erase thread, (counts.pending other).getD 0 :=
  Finset.sum_congr rfl fun other among => by rw [same other (Finset.ne_of_mem_erase among)]

/-- What is counted on one of the threads is added to the sum. -/
theorem sum_add (inside : thread ∈ threads) :
    (counts.add thread hits).sum threads = counts.sum threads + hits := by
  unfold sum
  rw [← Finset.add_sum_erase _ _ inside, ← Finset.add_sum_erase _ _ inside,
    sum_erase_congr fun other => pending_add_of_ne, pending_add_self, Option.getD_some]
  have kept : (counts.add thread hits).total = counts.total := rfl
  omega

/-- Merging moves hits from one place to another. -/
theorem sum_merge (inside : thread ∈ threads) :
    (counts.merge thread).sum threads = counts.sum threads := by
  unfold sum
  rw [← Finset.add_sum_erase _ _ inside, ← Finset.add_sum_erase _ _ inside,
    sum_erase_congr fun other => pending_merge_of_ne, pending_merge_self, Option.getD_none]
  have moved : (counts.merge thread).total
    = counts.total + (counts.pending thread).getD 0 := rfl
  omega

theorem sum_merged (total : Nat) : (merged total).sum threads = total :=
  congrArg (total + ·) Finset.sum_const_zero

/-- Where nothing is pending, all is merged. -/
theorem eq_merged (drained : ∀ thread, counts.pending thread = none) :
    counts = merged (counts.sum threads) := by
  have total : counts.sum threads = counts.total := by
    unfold sum
    rw [Finset.sum_eq_zero fun thread _ => by rw [drained, Option.getD_none], Nat.add_zero]
  rw [total]
  refine Counts.ext (funext fun thread => ?_) ?_
  · exact drained thread
  · rfl

theorem Gains.sum (gains : Gains thread hits counts after) (inside : thread ∈ threads) :
    after.sum threads = counts.sum threads + hits := by
  cases gains with
  | nothing => rfl
  | some => exact sum_add inside

theorem Gains.pending_of_ne (gains : Gains thread hits counts after) (apart : other ≠ thread) :
    after.pending other = counts.pending other := by
  cases gains with
  | nothing => rfl
  | some => exact pending_add_of_ne apart

theorem due_merged (thread : ThreadId) (total : Nat) : (merged total).Due thread total :=
  ⟨rfl, fun _ => rfl⟩

/-- What is gained on the thread is due as well. -/
theorem Due.gains (due : counts.Due thread hits) (gains : Gains thread more counts after) :
    after.Due thread (hits + more) := by
  refine ⟨?_, fun apart => (gains.pending_of_ne apart).trans (due.elsewhere apart)⟩
  have balance := due.balance
  cases gains with
  | nothing => exact balance
  | some =>
    rw [pending_add_self, Option.getD_some]
    have kept : (counts.add thread more).total = counts.total := rfl
    omega

/-- Merging on the thread settles what is due. -/
theorem Due.merge (due : counts.Due thread hits) : counts.merge thread = merged hits := by
  refine Counts.ext (funext fun other => ?_) ?_
  · by_cases same : other = thread
    · rw [same, pending_merge_self]
      rfl
    · exact (pending_merge_of_ne same).trans (due.elsewhere same)
  · exact due.balance

end Counts

/-! ## Counts in a world -/

/-- A place for the workspace that keeps what is put there. -/
class LawfulWorkspace (ω : Type) [HasWorkspace ω] : Prop where
  workspace_withWorkspace (workspace : Workspace) (world : ω) :
    HasWorkspace.workspace (HasWorkspace.withWorkspace workspace world) = workspace

instance : LawfulWorkspace Workspace :=
  ⟨fun _ _ => rfl⟩

instance : LawfulWorkspace Rehearsal.Bench :=
  ⟨fun _ _ => rfl⟩

/-- What is counted under a handle. -/
def countsOf {ω : Type} [HasWorkspace ω] (id : InstanceId) (world : ω) : Counts where
  pending thread := (HasWorkspace.workspace world).pending? thread id
  total := (HasWorkspace.workspace world).total id

section Worlds

variable {ω : Type} [HasWorkspace ω] [LawfulWorkspace ω] {id other : InstanceId}

theorem workspace_onWorkspace (f : Workspace → Workspace) (world : ω) :
    HasWorkspace.workspace (onWorkspace f world) = f (HasWorkspace.workspace world) :=
  LawfulWorkspace.workspace_withWorkspace _ _

theorem countsOf_countHits (thread : ThreadId) (hits : Nat) (world : ω) :
    countsOf id (onWorkspace (fun workspace => workspace.countHits thread id hits) world)
      = (countsOf id world).add thread hits := by
  unfold countsOf
  rw [workspace_onWorkspace]
  refine Counts.ext (funext fun place => ?_) ?_
  · simp only [Workspace.pending?, Workspace.countHits, Table.find?_alter, Counts.add]
    by_cases same : place = thread
    · subst same
      rw [if_pos rfl, Function.update_self]
    · rw [if_neg fun equal => same (Prod.mk.inj equal).1.symm, Function.update_of_ne same]
  · rfl

/-- Hits are credited to nobody else. -/
theorem countsOf_countHits_of_ne (apart : id ≠ other) (thread : ThreadId) (hits : Nat)
    (world : ω) :
    countsOf other (onWorkspace (fun workspace => workspace.countHits thread id hits) world)
      = countsOf other world := by
  unfold countsOf
  rw [workspace_onWorkspace]
  refine Counts.ext (funext fun place => ?_) ?_
  · simp only [Workspace.pending?, Workspace.countHits, Table.find?_alter]
    rw [if_neg fun equal => apart (Prod.mk.inj equal).2]
  · rfl

theorem countsOf_merge (thread : ThreadId) (world : ω) :
    countsOf id (onWorkspace (fun workspace => workspace.merge thread id) world)
      = (countsOf id world).merge thread := by
  unfold countsOf
  rw [workspace_onWorkspace]
  generalize HasWorkspace.workspace world = workspace
  unfold Workspace.merge
  cases pending : workspace.pending? thread id with
  | none => exact (Counts.merge_of_none pending).symm
  | some hits =>
    refine Counts.ext (funext fun place => ?_) ?_
    · simp only [Workspace.pending?, Table.find?_erase, Counts.merge]
      by_cases same : place = thread
      · subst same
        rw [if_pos rfl, Function.update_self]
      · rw [if_neg fun equal => same (Prod.mk.inj equal).1.symm, Function.update_of_ne same]
    · simp only [Workspace.total, Table.find?_alter, Counts.merge, if_true, pending,
        Option.getD_some]

theorem countsOf_merge_of_ne (apart : id ≠ other) (thread : ThreadId) (world : ω) :
    countsOf other (onWorkspace (fun workspace => workspace.merge thread id) world)
      = countsOf other world := by
  unfold countsOf
  rw [workspace_onWorkspace]
  generalize HasWorkspace.workspace world = workspace
  unfold Workspace.merge
  cases workspace.pending? thread id with
  | none => rfl
  | some hits =>
    refine Counts.ext (funext fun place => ?_) ?_
    · simp only [Workspace.pending?, Table.find?_erase]
      rw [if_neg fun equal => apart (Prod.mk.inj equal).2]
    · simp only [Workspace.total, Table.find?_alter, if_neg apart]

end Worlds

/-! ## Hits that are sent -/

/-- The number of hits that are sent where something is seen. -/
def hitsSent : Sight PayloadKind → Nat
  | .dispatched ⟨.hits, message⟩ _ => (Writer.hitsOf message).length
  | _ => 0

/-- The number of hits that are sent while an instance runs. -/
def hitsIn (sights : List (Sight PayloadKind)) : Nat :=
  (sights.map hitsSent).sum

/-- The number of hits that the instance with an index sends in some visits. -/
def hitsAt (index : Nat) (made : List (Visit PayloadKind)) : Nat :=
  ((visitsAt index made).map fun visit => hitsIn visit.sights).sum

theorem hitsIn_append (sights more : List (Sight PayloadKind)) :
    hitsIn (sights ++ more) = hitsIn sights + hitsIn more := by
  rw [hitsIn, List.map_append, List.sum_append_nat, ← hitsIn, ← hitsIn]

theorem hitsAt_append (index : Nat) (made more : List (Visit PayloadKind)) :
    hitsAt index (made ++ more) = hitsAt index made + hitsAt index more := by
  rw [hitsAt, visitsAt, List.filter_append, List.map_append, List.sum_append_nat, ← visitsAt,
    ← visitsAt, ← hitsAt, ← hitsAt]

theorem hitsAt_singleton (index : Nat) (visit : Visit PayloadKind) :
    hitsAt index [visit] = if visit.index = index then hitsIn visit.sights else 0 := by
  by_cases here : visit.index = index <;> simp [hitsAt, visitsAt, here]

theorem hitsAt_of_ne {index : Nat} {made : List (Visit PayloadKind)}
    (apart : ∀ visit ∈ made, visit.index ≠ index) : hitsAt index made = 0 := by
  have none_here : visitsAt index made = [] :=
    List.filter_eq_nil_iff.mpr fun visit among => by simpa using apart visit among
  rw [hitsAt, none_here]
  rfl

end DetectorSim.Builtin

/-! ## Code that only draws -/

namespace DetectorSim

namespace EventCode

variable {κ ω α β : Type} [Payload κ] [DecidableEq κ] {messenger : Messenger κ ω}
  {receiver : Receiver}

/-- Code that ends well has got its first reply. -/
theorem exists_of_exec_ask {op : EventOp κ ω} {next : op.Reply → EventCode κ ω α}
    {state ended : EventState κ ω} {value : α}
    (ran : EventCode.exec messenger receiver (.ask op next) state = (.ok value, ended)) :
    ∃ reply mid, op.perform messenger receiver state = (.ok reply, mid) ∧
      (next reply).exec messenger receiver mid = (.ok value, ended) := by
  cases performed : op.perform messenger receiver state with
  | mk outcome mid =>
    cases outcome with
    | ok reply => exact ⟨reply, mid, rfl, (exec_ask performed).symm.trans ran⟩
    | error err =>
      simp only [exec, Routine.run, performed] at ran
      cases ran
    | panic text =>
      simp only [exec, Routine.run, performed] at ran
      cases ran

/-- What a sequence shows, if its first part ends well. -/
theorem sights_andThen {first : EventCode κ ω α} {next : α → EventCode κ ω β}
    {state mid : EventState κ ω} {value : α}
    (ran : first.exec messenger receiver state = (.ok value, mid)) :
    EventCode.sights messenger receiver (Routine.andThen first next) state
      = first.sights messenger receiver state ++ (next value).sights messenger receiver mid := by
  induction first generalizing state with
  | done other =>
    cases ran
    rfl
  | fail err => cases ran
  | panic text => cases ran
  | ask op rest ih =>
    obtain ⟨reply, after, performed, later⟩ := exists_of_exec_ask ran
    rw [Routine.andThen, sights_ask performed, sights_ask performed, ih reply later,
      List.append_assoc]

/-- Drawing random words leaves the environment alone. -/
theorem keeps_env_of_draws {code : EventCode κ ω α} {fails : Error → Prop}
    (draws : code.Within EventOp.IsDraw fails) :
    Proc.Keeps EventState.env (code.exec messenger receiver) := by
  have kept : code.Within (fun op => Proc.Keeps EventState.env (op.perform messenger receiver))
      fails := by
    refine draws.mono (fun op draw => ?_) fun _ => id
    cases op with
    | draw => exact fun _ => rfl
    | _ => cases draw
  exact kept.keeps

end EventCode

namespace Builtin

theorem hitsIn_of_draws {ω α : Type} {messenger : Messenger PayloadKind ω} {receiver : Receiver}
    {code : EventCode PayloadKind ω α} {fails : Error → Prop}
    (draws : code.Within EventOp.IsDraw fails) (state : EventState PayloadKind ω) :
    hitsIn (code.sights messenger receiver state) = 0 := by
  refine List.sum_eq_zero fun count among => ?_
  obtain ⟨sight, seen, rfl⟩ := List.mem_map.mp among
  obtain ⟨op, reply, draw, shown⟩ := EventCode.exists_of_mem_sights draws seen
  cases op with
  | draw =>
    rw [List.mem_singleton.mp shown]
    rfl
  | _ => cases draw

/-! ## What a digitizer does to the counts -/

namespace Digitizer

variable {ω : Type} [HasWorkspace ω] [LawfulWorkspace ω] {id other : InstanceId}
  {messenger : Messenger PayloadKind ω} {receiver : Receiver}

/-- The counts under a handle, as a view of the world. -/
abbrev view (id : InstanceId) (world : ω) (_ : ThreadId) : Counts :=
  countsOf id world

/-- What a digitizer does with the hits of an event. -/
def send (id : InstanceId) (detector : Detector) (hits : List PixelHit) :
    EventCode PayloadKind ω Unit := do
  let thread ← EventCode.thread
  let _ ← EventCode.update (onWorkspace fun workspace =>
    workspace.countHits thread id hits.length)
  EventCode.dispatch PayloadKind.hits hits (some detector)

omit [LawfulWorkspace ω] in
theorem counts_dispatch (unheard : messenger.Spares (view (ω := ω) id))
    {message : Message PayloadKind .hits} {state ended : EventState PayloadKind ω}
    (ran : EventCode.exec messenger receiver
      (.ask (.dispatch ⟨.hits, message⟩) Routine.ofExcept) state = (.ok (), ended)) :
    countsOf id ended.env.world = countsOf id state.env.world ∧
      hitsIn (EventCode.sights messenger receiver
        (.ask (.dispatch ⟨.hits, message⟩) Routine.ofExcept : EventCode PayloadKind ω Unit) state)
        = (Writer.hitsOf message).length := by
  obtain ⟨reply, mid, performed, later⟩ := EventCode.exists_of_exec_ask ran
  cases reply with
  | ok value =>
    cases later
    have kept : Proc.Keeps (fun state => state.env.shows (view id))
        ((EventOp.dispatch ⟨.hits, message⟩).perform messenger receiver) :=
      unheard.perform receiver nofun
    have same := kept state
    rw [performed] at same
    exact ⟨same, congrArg hitsIn (EventCode.sights_ask performed)⟩
  | error err => cases later

/-- It counts them on its thread, and sends them. -/
theorem counts_send (unheard : messenger.Spares (view (ω := ω) id)) (hits : List PixelHit)
    (detector : Detector) {state ended : EventState PayloadKind ω}
    (ran : (send id detector hits).exec messenger receiver state = (.ok (), ended)) :
    countsOf id ended.env.world
        = (countsOf id state.env.world).add state.env.journal.thread hits.length ∧
      hitsIn ((send id detector hits).sights messenger receiver state) = hits.length := by
  obtain ⟨kept, sent⟩ := counts_dispatch unheard ran
  refine ⟨kept.trans (countsOf_countHits _ _ _), ?_⟩
  exact (hitsIn_append [_] _).trans ((Nat.zero_add _).trans sent)

/-- What a digitizer does with the charges that it finds. -/
def digitizeHeld (samplers : Samplers) (settings : DigitizerSettings) (id : InstanceId)
    (detector : Detector) :
    Option (Message PayloadKind .propagated) → EventCode PayloadKind ω Unit
  | none => .done ()
  | some message => digitize samplers settings message.data >>= send id detector

/-- What it has counted on its thread it has sent, if there was anything to digitize. -/
theorem gains_digitizeHeld (unheard : messenger.Spares (view (ω := ω) id))
    {samplers : Samplers} {settings : DigitizerSettings} {detector : Detector}
    {held : Option (Message PayloadKind .propagated)} {state ended : EventState PayloadKind ω}
    (ran : (digitizeHeld samplers settings id detector held).exec messenger receiver state
      = (.ok (), ended)) :
    Counts.Gains state.env.journal.thread
      (hitsIn ((digitizeHeld samplers settings id detector held).sights messenger receiver state))
      (countsOf id state.env.world) (countsOf id ended.env.world) := by
  cases held with
  | none =>
    cases ran
    exact .nothing _
  | some message =>
    -- Digitizing draws only, so the hits are added to what was counted before it.
    have draws : (digitize samplers settings message.data : EventCode PayloadKind ω _).IsSampling :=
      isSampling_digitize samplers settings message.data
    have kept : Proc.Keeps EventState.env
        ((digitize samplers settings message.data).exec messenger receiver) :=
      EventCode.keeps_env_of_draws draws
    obtain ⟨hits, mid, drawn, ran⟩ := Proc.andThen_eq_ok.mp
      ((Routine.run_andThen _ (digitize samplers settings message.data) (send id detector)
        state).symm.trans ran)
    have same := kept state
    rw [EventCode.exec, drawn] at same
    obtain ⟨counted, sent⟩ := counts_send unheard hits detector ran
    have sum_eq : hitsIn ((digitizeHeld samplers settings id detector (some message)).sights
        messenger receiver state) = hits.length := by
      calc hitsIn ((digitizeHeld samplers settings id detector (some message)).sights messenger
            receiver state)
          = hitsIn ((digitize samplers settings message.data).sights messenger receiver state
              ++ (send id detector hits).sights messenger receiver mid) :=
            congrArg hitsIn (EventCode.sights_andThen drawn)
        _ = hits.length := by
            rw [hitsIn_append, hitsIn_of_draws draws, sent, Nat.zero_add]
    rw [sum_eq, counted, same]
    exact .some _ _

/-- A digitizer that runs well has counted on its thread what it has sent. -/
theorem gains_run (unheard : messenger.Spares (view (ω := ω) id)) {samplers : Samplers}
    {settings : DigitizerSettings} {detector : Detector}
    {arrivals : SingleSlot PayloadKind .propagated} {state ended : EventState PayloadKind ω}
    (ran : (Digitizer.module samplers settings id detector arrivals).run.exec messenger receiver
      state = (.ok (), ended)) :
    Counts.Gains state.env.journal.thread
      (hitsIn ((Digitizer.module samplers settings id detector arrivals).run.sights messenger
        receiver state))
      (countsOf id state.env.world) (countsOf id ended.env.world) := by
  have exec_eq :
      (Digitizer.module samplers settings id detector arrivals).run.exec messenger receiver state
        = (digitizeHeld samplers settings id detector (state.data.store.single arrivals)).exec
            messenger receiver state := rfl
  have sights_eq :
      (Digitizer.module samplers settings id detector arrivals).run.sights messenger receiver state
        = [.single .propagated arrivals (state.data.store.single arrivals)]
          ++ (digitizeHeld samplers settings id detector (state.data.store.single arrivals)).sights
            messenger receiver state := rfl
  rw [exec_eq] at ran
  rw [sights_eq, hitsIn_append, show hitsIn [_] = 0 from rfl, Nat.zero_add]
  exact gains_digitizeHeld unheard ran

/-- It does not touch what others have counted. -/
theorem spares_run (apart : id ≠ other) (samplers : Samplers) (settings : DigitizerSettings)
    (detector : Detector)
    (arrivals : SingleSlot PayloadKind .propagated) :
    (Digitizer.module samplers settings id detector arrivals : Module PayloadKind ω).run.Spares
      (view other) := by
  refine (EventCode.spares_single arrivals).bind fun held => ?_
  cases held with
  | none => exact .done ()
  | some message =>
    refine ((isSampling_digitize samplers settings message.data).mono ?_ fun _ _ => trivial).bind
      fun hits => ?_
    · rintro op draw hook rfl
      cases draw
    · refine EventCode.spares_thread.bind fun thread => ?_
      refine (EventCode.spares_update fun world _ => ?_).bind fun _ => ?_
      · exact countsOf_countHits_of_ne apart thread hits.length world
      · exact EventCode.spares_dispatch PayloadKind.hits hits (some detector)

/-! ## Merging -/

/-- Merging what was counted on a thread always ends well. -/
theorem counts_mergePending (id : InstanceId) (env : Env ω) :
    ((mergePending id : Hook ω Unit).exec env).1 = .ok () ∧
      countsOf id ((mergePending id : Hook ω Unit).exec env).2.world
        = (countsOf id env.world).merge env.journal.thread := by
  simp only [mergePending, Hook.thread, Hook.world, bind, Routine.andThen, Hook.exec,
    Routine.run, HookOp.perform]
  cases pending : (HasWorkspace.workspace env.world).pending? env.journal.thread id with
  | none =>
    have nothing : (countsOf id env.world).pending env.journal.thread = none := pending
    exact ⟨rfl, (Counts.merge_of_none nothing).symm⟩
  | some hits => exact ⟨rfl, countsOf_merge _ _⟩

theorem counts_finalize (id : InstanceId) (detector : Detector) (env : Env ω) :
    countsOf id ((finalize id detector : Hook ω Unit).exec env).2.world
      = (countsOf id env.world).merge env.journal.thread := by
  obtain ⟨ended, merged⟩ := counts_mergePending id env
  simp only [finalize, bind, Hook.exec, Routine.run_andThen, Proc.andThen] at ended merged ⊢
  generalize Routine.run HookOp.perform (mergePending id) env = result at ended merged ⊢
  obtain ⟨outcome, after⟩ := result
  obtain rfl : outcome = .ok () := ended
  exact merged

theorem spares_mergePending (apart : id ≠ other) :
    (mergePending id : Hook ω Unit).Spares (view other) := by
  refine Hook.spares_thread.bind fun thread => Hook.spares_world.bind fun world => ?_
  cases (HasWorkspace.workspace world).pending? thread id with
  | none => exact .done ()
  | some hits =>
    refine (Hook.spares_log _ _).bind fun _ => Hook.spares_update fun world _ => ?_
    exact countsOf_merge_of_ne apart thread world

end Digitizer

/-! ## Digitizers among other instances -/

section Instances

variable {ω : Type} [HasWorkspace ω] {id : InstanceId} {messenger : Messenger PayloadKind ω}
  {instances : List (Instance PayloadKind ω)} {inst digitizer : Instance PayloadKind ω}

/-- An instance is a digitizer, which counts under its own handle. -/
def IsDigitizer (inst : Instance PayloadKind ω) : Prop :=
  ∃ samplers settings detector arrivals,
    inst.module = Digitizer.module samplers settings inst.receiver.id detector arrivals

/-- Once it is made, an instance does not touch what is counted under a handle. -/
structure Spares (messenger : Messenger PayloadKind ω) (id : InstanceId)
    (inst : Instance PayloadKind ω) : Prop where
  threadInit : Proc.Keeps (fun env => countsOf id env.world) inst.module.threadInit.exec
  run : Proc.Keeps (fun state => countsOf id state.env.world)
    (inst.module.run.exec messenger inst.receiver)
  threadFinalize : Proc.Keeps (fun env => countsOf id env.world) inst.module.threadFinalize.exec
  finalize : Proc.Keeps (fun env => countsOf id env.world) inst.module.finalize.exec

/-- Neither does an event that is offered to it. -/
theorem Spares.runEvent (spares : Spares messenger id inst) :
    Proc.Keeps (fun state => countsOf id state.env.world) (inst.runEvent messenger) := by
  have kept : Proc.Keeps (fun state => state.env.shows (Digitizer.view id))
      (inst.module.run.exec messenger inst.receiver) := spares.run
  exact Instance.keeps_runEvent kept

/-- Digitizers have handles of their own, and nobody else touches what they have counted:
no other instance and no listener. -/
structure Private (messenger : Messenger PayloadKind ω)
    (instances : List (Instance PayloadKind ω)) : Prop where
  distinct : ∀ {i j : Nat} {first second : Instance PayloadKind ω}, instances[i]? = some first →
    instances[j]? = some second → IsDigitizer first → IsDigitizer second →
    first.receiver.id = second.receiver.id → i = j
  others : ∀ digitizer ∈ instances, IsDigitizer digitizer → ∀ inst ∈ instances,
    ¬ IsDigitizer inst → Spares messenger digitizer.receiver.id inst
  listeners : ∀ digitizer ∈ instances, IsDigitizer digitizer → ∀ message,
    ∀ delegate ∈ messenger.accepting message, ∀ callback, delegate.kind = .listener callback →
    Proc.Keeps (fun env => countsOf digitizer.receiver.id env.world) (callback message).exec

variable [LawfulWorkspace ω]

/-- Digitizers do not touch what others have counted. -/
theorem IsDigitizer.spares (made : IsDigitizer inst) (apart : inst.receiver.id ≠ id)
    (unheard : messenger.Spares (Digitizer.view id)) : Spares messenger id inst := by
  obtain ⟨samplers, settings, detector, arrivals, module_eq⟩ := made
  have merges : Proc.Keeps (Env.shows (Digitizer.view id))
      (Digitizer.mergePending inst.receiver.id : Hook ω Unit).exec :=
    (Digitizer.spares_mergePending apart).keeps
  constructor <;> rw [module_eq]
  · exact fun _ => rfl
  · exact (Digitizer.spares_run apart samplers settings detector arrivals).keeps unheard
      inst.receiver
  · exact merges
  · exact ((Digitizer.spares_mergePending apart).bind fun _ => Hook.spares_world.bind fun _ =>
      Hook.spares_log _ _).keeps

/-- So nobody but a digitizer itself touches what it has counted. -/
theorem Private.spares (held : Private messenger instances) {index j : Nat}
    (found : instances[index]? = some digitizer) (made : IsDigitizer digitizer)
    (found' : instances[j]? = some inst) (apart : j ≠ index) :
    Spares messenger digitizer.receiver.id inst := by
  have among := List.mem_of_getElem? found
  by_cases made' : IsDigitizer inst
  · exact made'.spares (fun same => apart (held.distinct found' found made' made same))
      (held.listeners digitizer among made)
  · exact held.others digitizer among made inst (List.mem_of_getElem? found') made'

/-- A digitizer that runs or is skipped has counted what it has sent. -/
theorem IsDigitizer.gains (made : IsDigitizer inst)
    (unheard : messenger.Spares (Digitizer.view inst.receiver.id))
    {state after : EventState PayloadKind ω} {ran : Bool}
    (offered : inst.runEvent messenger state = (.ok ran, after)) :
    Counts.Gains state.env.journal.thread (hitsIn (inst.sights messenger state))
      (countsOf inst.receiver.id state.env.world) (countsOf inst.receiver.id after.env.world) := by
  by_cases missing : messenger.missingRequired inst.receiver.id state.data.store = []
  · rw [Instance.runEvent_of_missing_eq_nil missing] at offered
    obtain ⟨ended, called, world_eq⟩ := Instance.exists_exec_of_called offered
    rw [Instance.sights_of_missing_eq_nil missing, world_eq]
    obtain ⟨samplers, settings, detector, arrivals, module_eq⟩ := made
    rw [module_eq] at called ⊢
    exact Digitizer.gains_run unheard called
  · obtain ⟨text, skipped⟩ := Instance.exists_of_missing_ne_nil missing
    obtain ⟨-, rfl⟩ := Prod.mk.inj (skipped.symm.trans offered)
    rw [Instance.sights_of_missing_ne_nil missing]
    exact .nothing _

end Instances

end Builtin

end DetectorSim
