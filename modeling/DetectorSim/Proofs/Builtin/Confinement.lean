import DetectorSim.Builtin.Collection
import DetectorSim.Proofs.Pool.Independence

/-!
# The built-in modules are confined

Whatever the built-in modules make of an event follows from the event.  Only a
writer keeps a state of its own from event to event: what it has counted, and the
file that it has open.  The hits that a digitizer counts for its thread show in
nobody's own state.
-/

set_option autoImplicit false

namespace DetectorSim

/-! ## Code side by side -/

namespace EventCode.Alike

variable {κ ω α β : Type} [Payload κ] {σ : Nat → Type} {own : (i : Nat) → ω → σ i}
  {index : Nat}

theorem andThen {first first' : EventCode κ ω α} {next next' : α → EventCode κ ω β}
    (alike : Alike own index first first')
    (rest : ∀ value, Alike own index (next value) (next' value)) :
    Alike own index (Routine.andThen first next) (Routine.andThen first' next') := by
  induction alike with
  | done value => exact rest value
  | fail err => exact .fail err
  | panic text => exact .panic text
  | event apart _ ih => exact .event apart ih
  | left quiet _ ih => exact .left quiet ih
  | right quiet _ ih => exact .right quiet ih
  | update same frame frame' _ ih => exact .update same frame frame' ih

theorem bind {first first' : EventCode κ ω α} {next next' : α → EventCode κ ω β}
    (alike : Alike own index first first')
    (rest : ∀ value, Alike own index (next value) (next' value)) :
    Alike own index (first >>= next) (first' >>= next') :=
  alike.andThen rest

/-- An operation on the event goes side by side with itself. -/
theorem call {op : EventOp κ ω} (apart : ∀ hook, op ≠ .hook hook) :
    Alike (α := op.Reply) own index (.ask op .done) (.ask op .done) :=
  .event apart .done

theorem number : Alike own index (EventCode.number : EventCode κ ω Nat) EventCode.number :=
  call nofun

theorem single {kind : κ} (slot : SingleSlot κ kind) :
    Alike own index (EventCode.single (ω := ω) slot) (EventCode.single slot) :=
  call nofun

theorem multi {kind : κ} (slot : MultiSlot κ kind) :
    Alike own index (EventCode.multi (ω := ω) slot) (EventCode.multi slot) :=
  call nofun

theorem hasReceiver (kind : κ) (data : Payload.Data kind) (detector : Option Detector) :
    Alike own index (EventCode.hasReceiver (ω := ω) kind data detector)
      (EventCode.hasReceiver kind data detector) :=
  .event (by simp) fun _ => .event (by simp) .done

theorem ofExcept (result : Except Error α) :
    Alike own index (Routine.ofExcept result : EventCode κ ω α) (Routine.ofExcept result) := by
  cases result with
  | ok value => exact .done value
  | error err => exact .fail err

theorem dispatch (kind : κ) (data : Payload.Data kind) (detector : Option Detector) :
    Alike own index (EventCode.dispatch (ω := ω) kind data detector)
      (EventCode.dispatch kind data detector) :=
  .event (by simp) fun _ => .event (by simp) fun result => ofExcept result

/-- Log records are nobody's own state. -/
theorem log (level level' : Level) (text text' : String) :
    Alike own index (EventCode.log level text : EventCode κ ω Unit)
      (EventCode.log level' text') := by
  have quiet : ∀ level text, (HookOp.log level text).isQuiet own := fun _ _ => trivial
  exact .left (quiet level text) fun _ => .right (quiet level' text') fun _ => .done ()

/-- What code does with its thread may be different on different threads. -/
theorem onThread {next next' : ThreadId → EventCode κ ω β}
    (rest : ∀ thread thread', Alike own index (next thread) (next' thread')) :
    Alike own index (EventCode.thread >>= next) (EventCode.thread >>= next') := by
  have quiet : HookOp.thread.isQuiet own := trivial
  exact .left quiet fun thread => .right quiet fun thread' => rest thread thread'

/-- Changes that nobody's own state shows may be different as well. -/
theorem quietly {f f' : ω → ω} (quiet : (HookOp.update f).isQuiet own)
    (quiet' : (HookOp.update f').isQuiet own) {next next' : ω → EventCode κ ω β}
    (rest : ∀ world world', Alike own index (next world) (next' world')) :
    Alike own index (EventCode.update f >>= next) (EventCode.update f' >>= next') :=
  .left quiet fun world => .right quiet' fun world' => rest world world'

theorem each {f : α → EventCode κ ω Unit} (alike : ∀ a, Alike own index (f a) (f a))
    (items : List α) : Alike own index (Routine.each f items) (Routine.each f items) := by
  induction items with
  | nil => exact .done ()
  | cons a rest ih => exact (alike a).andThen fun _ => ih

theorem collect {f : α → EventCode κ ω β} (alike : ∀ a, Alike own index (f a) (f a))
    (items : List α) : Alike own index (Routine.collect f items) (Routine.collect f items) := by
  unfold Routine.collect
  generalize ([] : List β) = found
  induction items generalizing found with
  | nil => exact .done _
  | cons a rest ih => exact (alike a).andThen fun b => ih (b :: found)

theorem times {code : EventCode κ ω α} (alike : Alike own index code code) (count : Nat) :
    Alike own index (Routine.times code count) (Routine.times code count) := by
  unfold Routine.times
  generalize ([] : List α) = found
  induction count generalizing found with
  | zero => exact .done _
  | succ count ih => exact alike.andThen fun a => ih (a :: found)

end EventCode.Alike

namespace Builtin

open EventCode (Alike)

/-! ## Random numbers -/

section Sampling

variable {κ ω : Type} [Payload κ] {σ : Nat → Type} {own : (i : Nat) → ω → σ i} {index : Nat}

/-- Drawing a sample only asks for random words. -/
theorem Sampler.alike_draw {α : Type} (sampler : Sampler α) :
    Alike own index (sampler.draw : EventCode κ ω α) sampler.draw := by
  induction sampler with
  | done value => exact .done value
  | word next ih => exact .event (by simp) ih

theorem alike_sampleBelow (samplers : Samplers) (limit : Float) :
    Alike own index (sampleBelow samplers limit : EventCode κ ω Float)
      (sampleBelow samplers limit) := by
  unfold sampleBelow
  split
  · exact Sampler.alike_draw _
  · exact .panic _

end Sampling

/-! ## Modules without a state of their own -/

section Modules

variable {ω : Type} {σ : Nat → Type} {own : (i : Nat) → ω → σ i} {index : Nat}
  (samplers : Samplers)

theorem Deposition.alike_sampleDeposit (settings : DepositionSettings) :
    Alike own index (sampleDeposit (ω := ω) samplers settings)
      (sampleDeposit samplers settings) :=
  (alike_sampleBelow _ _).bind fun _ => (alike_sampleBelow _ _).bind fun _ =>
    (alike_sampleBelow _ _).bind fun _ => (Sampler.alike_draw _).bind fun _ => .done _

theorem Deposition.alike_sampleDeposits (settings : DepositionSettings) :
    Alike own index (sampleDeposits (ω := ω) samplers settings)
      (sampleDeposits samplers settings) := by
  refine (Sampler.alike_draw _).bind fun value => ?_
  dsimp only
  split
  · exact (alike_sampleDeposit samplers settings).times _
  · exact .panic _

theorem Deposition.alike_depositIn (settings : DepositionSettings) (detector : Detector) :
    Alike own index (depositIn (ω := ω) samplers settings detector)
      (depositIn samplers settings detector) := by
  refine (Alike.hasReceiver _ _ _).bind fun found => ?_
  split
  · refine (alike_sampleDeposits samplers settings).bind fun charges => ?_
    exact (Alike.log _ _ _ _).bind fun _ => .dispatch _ _ _
  · exact .done ()

theorem Deposition.isConfined_run (settings : DepositionSettings) (geometry : Geometry) :
    (Deposition.module (ω := ω) samplers settings geometry).run.IsConfined own index :=
  (Alike.each (alike_depositIn samplers settings) _).isConfined

theorem Propagation.alike_sampleShift (spread : Float) :
    Alike own index (sampleShift (ω := ω) samplers spread) (sampleShift samplers spread) := by
  unfold sampleShift
  split
  · split
    · exact .fail _
    · exact (Sampler.alike_draw _).bind fun _ => (Sampler.alike_draw _).bind fun _ => .done _
  · exact .done _

theorem Propagation.alike_propagate (diffusion : Float) (deposit : DepositedCharge) :
    Alike own index (propagate (ω := ω) samplers diffusion deposit)
      (propagate samplers diffusion deposit) :=
  (alike_sampleShift samplers _).bind fun _ => .done _

theorem Propagation.isConfined_run (diffusion : Float) (detector : Detector)
    (deposits : SingleSlot PayloadKind .deposited) :
    (Propagation.module (ω := ω) samplers diffusion detector deposits).run.IsConfined own
      index := by
  refine Alike.isConfined ((Alike.single deposits).bind fun held => ?_)
  cases held with
  | none => exact .done ()
  | some message =>
    refine (Alike.collect (alike_propagate samplers diffusion) _).bind fun arrivals => ?_
    exact (Alike.log _ _ _ _).bind fun _ => .dispatch _ _ _

theorem Digitizer.alike_digitizePixel (settings : DigitizerSettings) (entry : Pixel × Float) :
    Alike own index (digitizePixel (ω := ω) samplers settings entry)
      (digitizePixel samplers settings entry) :=
  (Sampler.alike_draw _).bind fun _ => .done _

theorem Digitizer.alike_digitize (settings : DigitizerSettings)
    (arrivals : List PropagatedCharge) :
    Alike own index (digitize (ω := ω) samplers settings arrivals)
      (digitize samplers settings arrivals) :=
  (Alike.collect (alike_digitizePixel samplers settings) _).bind fun _ => .done _

end Modules

/-! ## What a writer keeps -/

namespace Workspace

/-- No two of some writers have the same file open. -/
def isApart (workspace : Workspace) (ids : List InstanceId) : Prop :=
  ∀ first ∈ ids, ∀ second ∈ ids, first = second ∨ (workspace.writer first).output = none ∨
    (workspace.writer first).output ≠ (workspace.writer second).output

instance (workspace : Workspace) (ids : List InstanceId) :
    Decidable (workspace.isApart ids) :=
  inferInstanceAs (Decidable (∀ first ∈ ids, ∀ second ∈ ids, first = second ∨
    (workspace.writer first).output = none ∨
      (workspace.writer first).output ≠ (workspace.writer second).output))

/-- The file that a writer has open, if none of some writers has the same one. -/
def written (workspace : Workspace) (ids : List InstanceId) (id : InstanceId) :
    Option FileNode :=
  if workspace.isApart ids then
    (workspace.writer id).output.bind workspace.files.nodes.find?
  else none

end Workspace

namespace Writer

variable {id other : InstanceId} {line : String} {hits : Nat} {workspace : Workspace}
  {ids : List InstanceId}

/-- A writer that has no file open writes nothing. -/
theorem addLine_of_closed (closed : (workspace.writer id).output = none) :
    addLine id line hits workspace = workspace := by
  unfold addLine
  rw [closed]

theorem addLine_of_open {key : FileKey} (opened : (workspace.writer id).output = some key) :
    addLine id line hits workspace
      = { workspace with files := workspace.files.append key line }.changeWriter id
          fun state => { state with events := state.events + 1, hits := state.hits + hits } := by
  unfold addLine
  rw [opened]

theorem writer_addLine_of_ne (apart : id ≠ other) :
    (addLine id line hits workspace).writer other = workspace.writer other := by
  cases opened : (workspace.writer id).output with
  | none => rw [addLine_of_closed opened]
  | some key =>
    rw [addLine_of_open opened, Workspace.writer_changeWriter, if_neg apart]
    rfl

/-- What a writer has counted after an event follows from what it had counted. -/
theorem writer_addLine :
    (addLine id line hits workspace).writer id
      = if (workspace.writer id).output.isSome then
          { workspace.writer id with
            events := (workspace.writer id).events + 1
            hits := (workspace.writer id).hits + hits }
        else workspace.writer id := by
  cases opened : (workspace.writer id).output with
  | none => rw [addLine_of_closed opened]; rfl
  | some key =>
    rw [addLine_of_open opened, Workspace.writer_changeWriter, if_pos rfl]
    simp [Workspace.writer]

/-- Writing opens and closes no file. -/
@[simp] theorem output_addLine :
    ((addLine id line hits workspace).writer other).output
      = (workspace.writer other).output := by
  by_cases same : id = other
  · subst same
    rw [writer_addLine]
    split <;> rfl
  · rw [writer_addLine_of_ne same]

@[simp] theorem isApart_addLine :
    (addLine id line hits workspace).isApart ids ↔ workspace.isApart ids := by
  simp [Workspace.isApart]

/-- What a writer writes goes to the end of its own file. -/
theorem written_addLine :
    (addLine id line hits workspace).written ids id
      = (workspace.written ids id).map fun node =>
          match node with
          | .file content added => .file content (line :: added)
          | .directory => .directory := by
  unfold Workspace.written
  simp only [isApart_addLine, output_addLine]
  split
  · cases opened : (workspace.writer id).output with
    | none => rfl
    | some key =>
      rw [addLine_of_open opened, Option.bind_some, Option.bind_some]
      exact (workspace.files.find?_append key key line).trans (if_pos rfl)
  · rfl

/-- A writer leaves the files of others alone. -/
theorem written_addLine_of_ne (apart : id ≠ other) (listed : id ∈ ids) (listed' : other ∈ ids) :
    (addLine id line hits workspace).written ids other = workspace.written ids other := by
  unfold Workspace.written
  simp only [isApart_addLine, output_addLine]
  split
  · next separate =>
    cases opened : (workspace.writer id).output with
    | none => rw [addLine_of_closed opened]
    | some key =>
      cases opened' : (workspace.writer other).output with
      | none => rfl
      | some key' =>
        have differ : key ≠ key' := by
          rcases separate id listed other listed' with same | closed | differ
          · exact absurd same apart
          · rw [opened] at closed
            cases closed
          · rw [opened, opened'] at differ
            exact fun same => differ (congrArg some same)
        rw [addLine_of_open opened, Option.bind_some, Option.bind_some]
        exact (workspace.files.find?_append key key' line).trans (if_neg differ)
  · rfl

end Writer

/-! ## Plans of built-in modules -/

/-- A module that one of the built-in factories makes for an instance. -/
inductive Makes (id : InstanceId) : Module PayloadKind Workspace → Prop where
  | deposition (samplers : Samplers) (settings : DepositionSettings) (geometry : Geometry) :
      Makes id (Deposition.module samplers settings geometry)
  | propagation (samplers : Samplers) (diffusion : Float) (detector : Detector)
      (deposits : SingleSlot PayloadKind .deposited) :
      Makes id (Propagation.module samplers diffusion detector deposits)
  | digitizer (samplers : Samplers) (settings : DigitizerSettings) (detector : Detector)
      (arrivals : SingleSlot PayloadKind .propagated) :
      Makes id (Digitizer.module samplers settings id detector arrivals)
  | writer (path : String) (hits : MultiSlot PayloadKind .hits) :
      Makes id (Writer.module id path hits)

/-- The instances of a plan are built-in modules, and there are no listeners. -/
structure IsStandard (plan : RunPlan PayloadKind Workspace) : Prop where
  modules : ∀ inst ∈ plan.instances, Makes inst.receiver.id inst.module
  distinct : (plan.instances.map fun inst => inst.receiver.id).Nodup
  unheard : ∀ message, ∀ delegate ∈ plan.messenger.accepting message, ∀ callback,
    delegate.kind ≠ .listener callback

/-- The writers of a plan. -/
def writers (plan : RunPlan PayloadKind Workspace) : List InstanceId :=
  (plan.instances.filter fun inst => inst.module.safety = .sequential).map
    fun inst => inst.receiver.id

/-- What an index has to do with the workspace. -/
inductive Share where
  | nothing
  /-- What a writer has counted, and its file. -/
  | kept (state : WriterState) (file : Option FileNode)
  /-- Whether all writers have files of their own; that is nobody's own state. -/
  | apart (holds : Bool)

/-- The own states of the instances of a plan. -/
def share (plan : RunPlan PayloadKind Workspace) (index : Nat) (workspace : Workspace) :
    Share :=
  match plan.instances[index]? with
  | some inst =>
      if inst.module.safety = .sequential then
        .kept (workspace.writer inst.receiver.id)
          (workspace.written (writers plan) inst.receiver.id)
      else .nothing
  | none => .apart (decide (workspace.isApart (writers plan)))

section Plans

variable {plan : RunPlan PayloadKind Workspace} {index : Nat}
  {inst : Instance PayloadKind Workspace}

theorem share_of_sequential (found : plan.instances[index]? = some inst)
    (sequential : inst.module.safety = .sequential) (workspace : Workspace) :
    share plan index workspace
      = .kept (workspace.writer inst.receiver.id)
          (workspace.written (writers plan) inst.receiver.id) := by
  unfold share
  rw [found]
  exact if_pos sequential

theorem mem_writers (found : plan.instances[index]? = some inst)
    (sequential : inst.module.safety = .sequential) : inst.receiver.id ∈ writers plan :=
  List.mem_map_of_mem
    (List.mem_filter.mpr ⟨List.mem_of_getElem? found, decide_eq_true sequential⟩)

/-- Instances with different indices have different handles. -/
theorem IsStandard.ne_of_ne (standard : IsStandard plan) {other : Nat}
    {inst' : Instance PayloadKind Workspace} (apart : index ≠ other)
    (found : plan.instances[index]? = some inst) (found' : plan.instances[other]? = some inst') :
    inst.receiver.id ≠ inst'.receiver.id := by
  intro same
  have inside : index < (plan.instances.map fun inst => inst.receiver.id).length := by
    rw [List.length_map]
    exact (List.getElem?_eq_some_iff.mp found).1
  refine apart ((List.getElem?_inj inside standard.distinct).mp ?_)
  rw [List.getElem?_map, List.getElem?_map, found, found', Option.map_some, Option.map_some,
    same]

/-- What a writer writes into its file shows in no other share. -/
theorem IsStandard.share_addLine (standard : IsStandard plan)
    (found : plan.instances[index]? = some inst)
    (sequential : inst.module.safety = .sequential) {other : Nat} (apart : other ≠ index)
    (line : String) (hits : Nat) (workspace : Workspace) :
    share plan other (Writer.addLine inst.receiver.id line hits workspace)
      = share plan other workspace := by
  unfold share
  cases found' : plan.instances[other]? with
  | none => simp only [Writer.isApart_addLine]
  | some inst' =>
    have differ := standard.ne_of_ne (Ne.symm apart) found found'
    simp only
    split
    · next sequential' =>
      rw [Writer.writer_addLine_of_ne differ, Writer.written_addLine_of_ne differ
        (mem_writers found sequential) (mem_writers found' sequential')]
    · rfl

/-- The code of a writer is a function of the event and of what it keeps. -/
theorem IsStandard.isConfined_writer (standard : IsStandard plan)
    (found : plan.instances[index]? = some inst)
    (sequential : inst.module.safety = .sequential) (hits : MultiSlot PayloadKind .hits) :
    (Writer.run (ω := Workspace) inst.receiver.id hits).IsConfined (share plan) index := by
  refine Alike.isConfined
    ((Alike.multi hits).bind fun messages => Alike.number.bind fun event => ?_)
  apply Alike.update
  · intro workspace workspace' same
    rw [share_of_sequential found sequential, share_of_sequential found sequential] at same ⊢
    obtain ⟨state_eq, file_eq⟩ := Share.kept.inj same
    have onWorkspace_eq : ∀ f workspace, onWorkspace f workspace = f workspace := fun _ _ => rfl
    rw [onWorkspace_eq, onWorkspace_eq, Writer.written_addLine, Writer.written_addLine,
      Writer.writer_addLine, Writer.writer_addLine, state_eq, file_eq]
  · exact fun other apart workspace =>
      standard.share_addLine found sequential apart _ _ workspace
  · exact fun other apart workspace =>
      standard.share_addLine found sequential apart _ _ workspace
  · intro before before' same
    rw [share_of_sequential found sequential, share_of_sequential found sequential] at same
    obtain ⟨state_eq, -⟩ := Share.kept.inj same
    have workspace_eq : ∀ workspace : Workspace, HasWorkspace.workspace workspace = workspace :=
      fun _ => rfl
    simp only [Routine.andThen, workspace_eq, state_eq]
    cases (before'.writer inst.receiver.id).output with
    | none => exact .fail _
    | some key => exact .log _ _ _ _

/-- Hits that are counted for a thread show in no share. -/
theorem share_countHits (thread : ThreadId) (id : InstanceId) (hits : Nat)
    (workspace : Workspace) :
    share plan index (workspace.countHits thread id hits) = share plan index workspace :=
  rfl

theorem share_merge (thread : ThreadId) (id : InstanceId) (workspace : Workspace) :
    share plan index (workspace.merge thread id) = share plan index workspace := by
  unfold Workspace.merge
  split <;> rfl

theorem isConfined_digitizer (samplers : Samplers) (settings : DigitizerSettings)
    (id : InstanceId) (detector : Detector) (arrivals : SingleSlot PayloadKind .propagated) :
    (Digitizer.module samplers settings id detector arrivals).run.IsConfined (share plan)
      index := by
  refine Alike.isConfined ((Alike.single arrivals).bind fun held => ?_)
  cases held with
  | none => exact .done ()
  | some message =>
    refine (Digitizer.alike_digitize samplers settings _).bind fun hits => ?_
    refine Alike.onThread fun thread thread' => ?_
    refine Alike.quietly ?_ ?_ fun _ _ => .dispatch _ _ _
    · exact fun j workspace => share_countHits thread id _ workspace
    · exact fun j workspace => share_countHits thread' id _ workspace

/-- Merging the hits of a thread always ends well. -/
theorem exec_mergePending (id : InstanceId) (env : Env Workspace) :
    (Hook.exec (Digitizer.mergePending id) env).1 = .ok () ∧
      (Hook.exec (Digitizer.mergePending id) env).2.world
        = env.world.merge env.journal.thread id := by
  have workspace_eq : ∀ workspace : Workspace, HasWorkspace.workspace workspace = workspace :=
    fun _ => rfl
  simp only [Digitizer.mergePending, Hook.thread, Hook.world, bind, Routine.andThen, Hook.exec,
    Routine.run, HookOp.perform, workspace_eq]
  cases pending : env.world.pending? env.journal.thread id with
  | none =>
    refine ⟨rfl, ?_⟩
    unfold Workspace.merge
    rw [pending]
    rfl
  | some hits => exact ⟨rfl, rfl⟩

theorem steady_mergePending (id : InstanceId) :
    (Digitizer.mergePending id : Hook Workspace Unit).Steady (share plan) (.ok ()) := by
  refine ⟨fun env => (exec_mergePending id env).1, fun env j => ?_⟩
  rw [(exec_mergePending id env).2]
  exact share_merge _ _ _

/-- The instances of a standard plan are independent. -/
theorem IsStandard.independent (standard : IsStandard plan) :
    plan.Independent (share plan) := by
  have idle : Hook.Steady (share plan) (.done ()) (.ok ()) :=
    ⟨fun _ => rfl, fun _ _ => rfl⟩
  refine ⟨?_, ?_, ?_, ?_, ?_, ?_⟩
  · intro inst member
    have made := standard.modules inst member
    generalize inst.module = module at made ⊢
    cases made <;> nofun
  · intro index inst found safety workspace workspace'
    unfold share
    simp only [found, safety]
    rfl
  · intro index inst found
    have made := standard.modules inst (List.mem_of_getElem? found)
    generalize module_eq : inst.module = module at made ⊢
    cases made with
    | deposition samplers settings geometry =>
      exact Deposition.isConfined_run samplers settings geometry
    | propagation samplers diffusion detector deposits =>
      exact Propagation.isConfined_run samplers diffusion detector deposits
    | digitizer samplers settings detector arrivals =>
      exact isConfined_digitizer samplers settings _ _ _
    | writer path hits =>
      refine standard.isConfined_writer found ?_ hits
      rw [module_eq]
      rfl
  · intro inst member
    have made := standard.modules inst member
    generalize inst.module = module at made ⊢
    cases made <;> exact idle
  · intro inst member
    have made := standard.modules inst member
    generalize inst.module = module at made ⊢
    cases made with
    | digitizer samplers settings detector arrivals => exact steady_mergePending _
    | _ => exact idle
  · intro message delegate accepted callback heard
    exact absurd heard (standard.unheard message delegate accepted callback)

/-- If nothing happens beyond the instances, writers that had files of their own
still have. -/
theorem isApart_of_share_eq {workspace workspace' : Workspace}
    (same : share plan plan.instances.length workspace
      = share plan plan.instances.length workspace')
    (apart : workspace'.isApart (writers plan)) : workspace.isApart (writers plan) := by
  unfold share at same
  rw [List.getElem?_eq_none (Nat.le_refl _)] at same
  have decided := Share.apart.inj same
  rw [decide_eq_true apart] at decided
  exact of_decide_eq_true decided

end Plans

/-! ## The chain of all built-in modules -/

/-- An instance that is known by its identifier. -/
def known (index : Nat) (identifier : Identifier) (detector : Option Detector) : Receiver :=
  ⟨⟨index⟩, identifier.display, detector⟩

/-- The chain of all built-in modules for one detector. -/
def chain (samplers : Samplers) (settings : DepositionSettings) (diffusion : Float)
    (digitizer : DigitizerSettings) (detector : Detector) (seed : UInt64) :
    RunPlan PayloadKind Workspace :=
  let inDetector (name : String) : Identifier := ⟨name, detector.name, .wildcard⟩
  let first := known 0 (.unique "DepositionGenerator") none
  let second := known 1 (inDetector "SimplePropagation") (some detector)
  let third := known 2 (inDetector "DefaultDigitizer") (some detector)
  let fourth := known 3 (.unique "JsonWriter") none
  { instances := [
      ⟨.unique "DepositionGenerator", first, Deposition.module samplers settings ⟨[detector]⟩⟩,
      ⟨inDetector "SimplePropagation", second,
        Propagation.module samplers diffusion detector ⟨⟨second.id, 0⟩⟩⟩,
      ⟨inDetector "DefaultDigitizer", third,
        Digitizer.module samplers digitizer third.id detector ⟨⟨third.id, 0⟩⟩⟩,
      ⟨.unique "JsonWriter", fourth, Writer.module fourth.id "output.jsonl" ⟨⟨fourth.id, 0⟩⟩⟩]
    messenger := ((Messenger.empty.bind second .deposited .requiredInput .single).bind
      third .propagated .requiredInput .single).bind fourth .hits .none .multi
    source := mixedWords
    seed }

/-- The chain is a standard plan. -/
theorem isStandard_chain (samplers : Samplers) (settings : DepositionSettings)
    (diffusion : Float) (digitizer : DigitizerSettings) (detector : Detector) (seed : UInt64) :
    IsStandard (chain samplers settings diffusion digitizer detector seed) := by
  refine ⟨?_, by simp [chain, known], ?_⟩
  · simp only [chain, List.forall_mem_cons]
    exact ⟨.deposition _ _ _, .propagation _ _ _ _, .digitizer _ _ _ _, .writer _ _, nofun⟩
  · rintro ⟨kind, message⟩ delegate accepted
    cases kind with
    | deposited =>
      obtain rfl := List.mem_singleton.mp (List.mem_filter.mp accepted).1
      exact nofun
    | propagated =>
      obtain rfl := List.mem_singleton.mp (List.mem_filter.mp accepted).1
      exact nofun
    | hits =>
      obtain rfl := List.mem_singleton.mp (List.mem_filter.mp accepted).1
      exact nofun

end Builtin

end DetectorSim
