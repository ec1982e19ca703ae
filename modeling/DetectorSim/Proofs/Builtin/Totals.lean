import DetectorSim.Proofs.Builtin.Balance

/-!
# The totals of digitizers in the end

When a manager has run and finalized its instances well, the total of every digitizer is
the number of hits that it has sent: on a pool its workers have merged all of them, and on
one thread its finalization merges them there.
-/

set_option autoImplicit false

namespace DetectorSim

/-! ## Finalizing -/

section Turns

variable {κ ω : Type} [Payload κ]

theorem Round.keeps_thread_turn_finalize (inst : Instance κ ω) :
    Proc.Keeps (fun state => state.2.journal.thread) (Round.finalize.turn inst) := by
  have kept : Proc.Keeps (Env.shows fun _ thread => thread) inst.finalize :=
    Instance.keeps_call inst.module.finalize.keeps_thread_exec inst "F" .finalize
  exact fun state => kept _

end Turns

/-! ## The way to the first event -/

namespace Manager

variable {κ ω τ : Type} [Payload κ] (view : ω → ThreadId → τ)

/-- What comes before the first event shows in the log only. -/
theorem keeps_planWorkers (host : Host) (settings : Settings) :
    Proc.Keeps (fun state => state.2.shows view)
      (planWorkers host settings : Proc (Manager κ ω × Env ω) Nat) := by
  rintro ⟨manager, env⟩
  unfold planWorkers
  simp only [Proc.bind_apply, Proc.andThen, Proc.get]
  cases settings.concurrency with
  | singleThreaded => rfl
  | pooled =>
    by_cases few : settings.workers host.processors < 2
    · simp only [few, if_true]
      rfl
    · simp only [few, if_false]
      cases manager.unsafeNames with
      | nil => rfl
      | cons name rest => cases settings.strict <;> rfl

theorem keeps_outset (host : Host) (settings : Settings) :
    Proc.Keeps (fun state => state.2.shows view)
      (outset host settings : Proc (Manager κ ω × Env ω) (Nat × RunPlan κ ω)) := by
  have expects : Proc.Keeps (fun state => state.2.shows view)
      (expect .initialized "run" : Proc (Manager κ ω × Env ω) Unit) := by
    rintro ⟨manager, env⟩
    unfold expect
    by_cases due : manager.state = .initialized
    · simp only [due, if_true]
    · simp only [due, if_false]
  refine expects.andThen fun _ => (keeps_planWorkers view host settings).andThen fun workers => ?_
  exact .andThen (fun _ => rfl) fun _ => .andThen (fun _ => rfl) fun _ => fun _ => rfl

end Manager

namespace Builtin

open Manager (Scheduler Shows outset processEvents runWith)

variable {ω : Type} [HasWorkspace ω] {index hits : Nat} {id : InstanceId} {thread : ThreadId}

section Finalizing

variable {messenger : Messenger PayloadKind ω} {instances : List (Instance PayloadKind ω)}
  {digitizer inst : Instance PayloadKind ω} {state after : Manager PayloadKind ω × Env ω}

/-- On the thread of some calls is all that a digitizer has counted and not merged. -/
def Pends (id : InstanceId) (hits : Nat) (state : Manager PayloadKind ω × Env ω) : Prop :=
  (countsOf id state.2.world).Due state.2.journal.thread hits

/-- Finalizing others leaves the counts of a digitizer alone. -/
theorem Spares.keeps_turn (spares : Spares messenger id inst) :
    Proc.Keeps (fun state => countsOf id state.2.world) (Round.finalize.turn inst) := by
  intro state
  obtain ⟨env, world_eq, -, -, turned⟩ := Round.finalize.exists_turn inst state
  exact (congrArg (countsOf id) turned).trans
    ((spares.finalize env).trans (congrArg (countsOf id) world_eq))

theorem Spares.pends_turn (spares : Spares messenger id inst)
    (turned : Round.finalize.turn inst state = (.ok (), after)) (pends : Pends id hits state) :
    Pends id hits after := by
  have counts_eq := spares.keeps_turn state
  have thread_eq := Round.keeps_thread_turn_finalize inst state
  rw [turned] at counts_eq thread_eq
  dsimp only at counts_eq thread_eq
  rw [Pends, counts_eq, thread_eq]
  exact pends

variable [LawfulWorkspace ω]

/-- Finalizing a digitizer merges what is left. -/
theorem IsDigitizer.merged_of_turn (made : IsDigitizer digitizer)
    (turned : Round.finalize.turn digitizer state = (.ok (), after))
    (pends : Pends digitizer.receiver.id hits state) :
    countsOf digitizer.receiver.id after.2.world = .merged hits := by
  obtain ⟨env, world_eq, thread_eq, -, finalized⟩ := Round.finalize.exists_turn digitizer state
  obtain ⟨samplers, settings, detector, arrivals, module_eq⟩ := made
  have merges : countsOf digitizer.receiver.id
      (Hook.exec (Round.finalize.hook digitizer.module) env).2.world
      = (countsOf digitizer.receiver.id env.world).merge env.journal.thread := by
    rw [module_eq]
    exact Digitizer.counts_finalize _ detector env
  rw [turned] at finalized
  rw [finalized, merges, world_eq, thread_eq]
  exact pends.merge

/-- When all instances were finalized well, all that a digitizer has counted is merged. -/
theorem merged_of_finalize (held : Private messenger instances)
    (found : instances[index]? = some digitizer) (made : IsDigitizer digitizer)
    (instances_eq : state.1.instances = instances)
    (finalized : Manager.finalize state = (.ok (), after))
    (pends : Pends digitizer.receiver.id hits state) :
    countsOf digitizer.receiver.id after.2.world = .merged hits := by
  obtain ⟨⟨⟩, begun, due, rest⟩ := Proc.andThen_eq_ok.mp finalized
  obtain ⟨-, rfl⟩ := Manager.expect_eq_ok_iff.mp due
  obtain ⟨⟨⟩, done, called, entered⟩ := Proc.andThen_eq_ok.mp rest
  obtain ⟨-, rfl⟩ := Prod.mk.inj entered
  have turns : Proc.each (Round.finalize : Round PayloadKind ω).turn instances begun
      = (.ok (), done) := by
    rw [← instances_eq, ← Round.callAll_eq]
    exact called
  have spares {i : Nat} {inst : Instance PayloadKind ω} (there : instances[i]? = some inst)
      (apart : i ≠ index) : Spares messenger digitizer.receiver.id inst :=
    held.spares found made there apart
  change countsOf digitizer.receiver.id done.2.world = .merged hits
  -- Who comes before the digitizer keeps what is pending, who comes later what is merged.
  refine Proc.holds_of_each_at (P := Pends digitizer.receiver.id hits)
    (Q := fun state => countsOf digitizer.receiver.id state.2.world = .merged hits) found
    (fun i inst there lt => (spares there (Nat.ne_of_lt lt)).pends_turn) made.merged_of_turn
    (fun i inst there gt => ?_) turns pends
  intro state after turned merged
  have kept := (spares there (Nat.ne_of_gt gt)).keeps_turn state
  rw [turned] at kept
  exact kept.trans merged

end Finalizing

/-! ## Runs -/

section Runs

variable [LawfulWorkspace ω] {scheduler : Scheduler PayloadKind ω} {host : Host}
  {settings : Settings} {manager : Manager PayloadKind ω} {env left : Env ω}
  {digitizer : Instance PayloadKind ω}

/-- When all events were processed well, all that a digitizer has sent is merged or, if the
events were on one thread, is pending there. -/
theorem due_of_processEvents {plan : RunPlan PayloadKind ω} {events workers : Nat}
    {roster : List (Nat × Act PayloadKind)} {tallies : List Tally}
    {after : Manager PayloadKind ω} (fair : scheduler.Fair)
    (fits : 1 < workers → events + workers < 2 ^ 64)
    (held : Private plan.messenger plan.instances)
    (found : plan.instances[index]? = some digitizer) (made : IsDigitizer digitizer)
    (fresh : countsOf digitizer.receiver.id env.world = .merged 0)
    (shows : Shows scheduler plan events workers env roster)
    (processed : processEvents scheduler plan events workers (manager, env)
      = (.ok tallies, (after, left)))
    (there : ¬ 1 < workers → thread = env.journal.thread) :
    (countsOf digitizer.receiver.id left.world).Due thread
      (hitsAt index (visits (actsOf roster))) := by
  have env_eq := congrArg (fun result => result.2.2) processed
  cases shows with
  | serial alone =>
    obtain ⟨succeeded, -⟩ := Manager.of_processEvents processed (if_neg alone)
    simp only [processEvents, if_neg alone] at env_eq
    rw [← env_eq, there alone]
    exact due_of_serial held found made fresh succeeded
  | pooled several signed =>
    obtain ⟨succeeded, -⟩ := Manager.of_processEvents processed (if_pos several)
    simp only [processEvents, if_pos several] at env_eq
    have ended := fair.ends plan events workers plan.noTallies env (fits several)
    rw [← env_eq]
    refine Eq.subst (motive := fun counts => Counts.Due thread _ counts) ?_
      (Counts.due_merged thread _)
    exact (merged_of_pool held found made fresh signed.history ended succeeded).symm

/-- **No hit is lost, and none is counted twice.**  When the run of a manager has succeeded,
on one thread or on a pool whatever the scheduler decides, and its instances were finalized
well after that, if need be on the thread of the run, then the total of every digitizer is
the number of hits that it has sent in its visits, and nothing is left pending. -/
theorem merged_of_run {after done : Manager PayloadKind ω} {report : RunReport}
    {later last : Env ω} (fair : scheduler.Fair)
    (fits : 1 < report.workers → settings.events + report.workers < 2 ^ 64)
    (held : Private manager.messenger manager.instances)
    (fresh : ∀ inst ∈ manager.instances, IsDigitizer inst →
      countsOf inst.receiver.id env.world = .merged 0)
    (ran : runWith scheduler host settings (manager, env) = (.ok report, (after, left)))
    (world_eq : later.world = left.world)
    (thread_eq : ¬ 1 < report.workers → later.journal.thread = env.journal.thread)
    (finalized : Manager.finalize (after, later) = (.ok (), (done, last))) :
    ∃ plan begun start,
      outset host settings (manager, env) = (.ok (report.workers, plan), (begun, start)) ∧
        plan.instances = manager.instances ∧
        (∃ roster, Shows scheduler plan settings.events report.workers start roster) ∧
        ∀ roster, Shows scheduler plan settings.events report.workers start roster →
          ∀ index inst, manager.instances[index]? = some inst → IsDigitizer inst →
            countsOf inst.receiver.id last.world
              = .merged (hitsAt index (visits (actsOf roster))) := by
  rw [Manager.runWith_eq] at ran
  obtain ⟨⟨workers, plan⟩, ⟨begun, start⟩, started, ran⟩ := Proc.andThen_eq_ok.mp ran
  obtain ⟨tallies, ⟨mid, behind⟩, processed, ran⟩ := Proc.andThen_eq_ok.mp ran
  obtain ⟨⟨⟩, noted, logged, ran⟩ := Proc.andThen_eq_ok.mp ran
  cases ran
  cases logged
  obtain ⟨instances_eq, messenger_eq⟩ := Manager.plan_of_outset started
  refine ⟨plan, begun, start, started, instances_eq, Manager.exists_shows fair fits, ?_⟩
  intro roster shows index digitizer found made
  -- Up to the first event only the log changes, so the counts are fresh when it starts.
  have start_world : start.world = env.world := by
    have kept := Manager.keeps_outset (fun world _ => world) host settings (manager, env)
    rwa [started] at kept
  have start_thread : start.journal.thread = env.journal.thread := by
    have kept := Manager.keeps_outset (fun _ thread => thread) host settings (manager, env)
    rwa [started] at kept
  have left_world : later.world = behind.world := world_eq
  have same : mid.instances = manager.instances := by
    obtain rfl : mid = begun := congrArg (fun result => result.2.1) processed.symm
    rw [Manager.begun_of_outset started]
  have pends : Pends digitizer.receiver.id (hitsAt index (visits (actsOf roster)))
      (mid, later) := by
    rw [Pends, left_world]
    refine due_of_processEvents fair fits ?_ (instances_eq ▸ found) made ?_ shows processed
      fun serial => (thread_eq serial).trans start_thread.symm
    · rw [instances_eq, messenger_eq]
      exact held
    · rw [start_world]
      exact fresh digitizer (List.mem_of_getElem? found) made
  exact merged_of_finalize held found made same finalized pends

end Runs

/-! ## Digitizers to try things on -/

/-- An instance that sends one charge for a detector in each event. -/
def lamp (index : Nat) (detector : Detector) : Instance PayloadKind Workspace where
  identifier := ⟨"Lamp", detector.name, .wildcard⟩
  receiver := known index ⟨"Lamp", detector.name, .wildcard⟩ (some detector)
  module := { (Module.idle : Module PayloadKind Workspace) with
    safety := .threadSafe
    run := EventCode.dispatch PayloadKind.propagated [⟨0.01, 0.01, 5000.0⟩] (some detector) }

/-- The handle of a digitizer of a detector. -/
def counter (index : Nat) (detector : Detector) : Receiver :=
  known index ⟨"DefaultDigitizer", detector.name, .wildcard⟩ (some detector)

/-- A digitizer of a detector. -/
def counting (index : Nat) (detector : Detector) : Instance PayloadKind Workspace where
  identifier := ⟨"DefaultDigitizer", detector.name, .wildcard⟩
  receiver := counter index detector
  module := Digitizer.module .plain ⟨0.055, 0.055, 1000.0, ⟨0.0, 0.0⟩⟩ ⟨index⟩ detector
    ⟨⟨⟨index⟩, 0⟩⟩

/-- A lamp and a digitizer on the left, and the same on the right. -/
def lit : Manager PayloadKind Workspace :=
  let left := Detector.atOrigin "left" "sensor"
  let right := Detector.atOrigin "right" "sensor"
  { messenger := (Messenger.empty.bind (counter 1 left) .propagated .requiredInput .single).bind
      (counter 3 right) .propagated .requiredInput .single
    instances := [lamp 0 left, counting 1 left, lamp 2 right, counting 3 right]
    nextId := 4
    state := .initialized }

/-- Lamps leave what digitizers count alone, and nobody listens. -/
theorem private_lit : Private lit.messenger lit.instances := by
  have single : ∀ kind, ∀ delegate ∈ lit.messenger.liveOf kind,
      delegate.kind.slotKind = .single := by
    intro kind
    cases kind <;> decide +kernel
  have unheard (id : InstanceId) : lit.messenger.Spares (Digitizer.view (ω := Workspace) id) := by
    intro message delegate accepted callback heard
    rw [Messenger.accepting_eq] at accepted
    have alone := single _ delegate (List.mem_filter.mp accepted).1
    rw [heard] at alone
    cases alone
  have ids : ∀ (i : Nat) inst, lit.instances[i]? = some inst → inst.receiver.id = ⟨i⟩ := by
    intro i inst found
    rcases i with _ | _ | _ | _ | i <;> cases found <;> rfl
  have spares (id : InstanceId) (index : Nat) (detector : Detector) :
      Spares lit.messenger id (lamp index detector) := by
    refine ⟨fun _ => rfl, ?_, fun _ => rfl, fun _ => rfl⟩
    exact (EventCode.spares_dispatch _ _ _).keeps (unheard id) _
  have digitizes (index : Nat) (detector : Detector) : IsDigitizer (counting index detector) :=
    ⟨_, _, _, _, rfl⟩
  refine ⟨fun found found' _ _ same => ?_, fun digitizer _ _ => ?_, fun digitizer _ _ => unheard _⟩
  · rw [ids _ _ found, ids _ _ found'] at same
    exact InstanceId.mk.inj same
  · simp only [lit, List.forall_mem_cons]
    exact ⟨fun _ => spares _ _ _, fun other => absurd (digitizes _ _) other,
      fun _ => spares _ _ _, fun other => absurd (digitizes _ _) other, nofun⟩

/-- What comes of three events on two workers. -/
def shone : Outcome RunReport × (Manager PayloadKind Workspace × Env Workspace) :=
  Manager.run ⟨4, 0, mixedWords⟩ Manager.threeOnTwo (lit, ⟨.ofFiles .empty, .empty⟩)

/-- The digitizers on both sides have run in all events, and have merged in the end what each
of them has sent. -/
theorem merged_of_run_lit :
    shone.1 = .ok ⟨3, 2, [⟨"Lamp:left", ⟨3, 0⟩⟩, ⟨"DefaultDigitizer:left", ⟨3, 0⟩⟩,
        ⟨"Lamp:right", ⟨3, 0⟩⟩, ⟨"DefaultDigitizer:right", ⟨3, 0⟩⟩]⟩ ∧
      (Manager.finalize shone.2).1 = .ok () ∧
      ∃ (plan : RunPlan PayloadKind Workspace) (env : Env Workspace)
          (roster : List (Nat × Act PayloadKind)), Shows RunPlan.runToEnd plan 3 2 env roster ∧
        countsOf ⟨1⟩ (Manager.finalize shone.2).2.2.world
          = .merged (hitsAt 1 (visits (actsOf roster))) ∧
        countsOf ⟨3⟩ (Manager.finalize shone.2).2.2.world
          = .merged (hitsAt 3 (visits (actsOf roster))) := by
  have succeeded : shone.1 = .ok ⟨3, 2, [⟨"Lamp:left", ⟨3, 0⟩⟩,
      ⟨"DefaultDigitizer:left", ⟨3, 0⟩⟩, ⟨"Lamp:right", ⟨3, 0⟩⟩,
      ⟨"DefaultDigitizer:right", ⟨3, 0⟩⟩]⟩ := by decide +kernel
  have finalized : (Manager.finalize shone.2).1 = .ok () := by decide +kernel
  refine ⟨succeeded, finalized, ?_⟩
  have fresh : ∀ inst ∈ lit.instances, IsDigitizer inst →
      countsOf inst.receiver.id (Workspace.ofFiles .empty) = .merged 0 := fun _ _ _ => rfl
  have ran : runWith RunPlan.runToEnd ⟨4, 0, mixedWords⟩ Manager.threeOnTwo
      (lit, ⟨.ofFiles .empty, .empty⟩) = shone := rfl
  generalize shone = result at ran succeeded finalized ⊢
  obtain ⟨outcome, after, left⟩ := result
  obtain rfl := succeeded
  obtain ⟨plan, begun, start, -, -, ⟨roster, shows⟩, merged⟩ :=
    merged_of_run Manager.fair_runToEnd (fun _ => by decide) private_lit fresh ran rfl
      (fun alone => absurd (by decide) alone) (Proc.eq_of_fst_eq finalized)
  exact ⟨plan, start, roster, shows, merged roster shows 1 _ rfl ⟨_, _, _, _, rfl⟩,
    merged roster shows 3 _ rfl ⟨_, _, _, _, rfl⟩⟩

end Builtin

end DetectorSim
