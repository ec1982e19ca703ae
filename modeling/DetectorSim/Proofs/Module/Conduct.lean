import DetectorSim.Proofs.Messaging.Topics
import DetectorSim.Proofs.Module.Gating
import DetectorSim.Proofs.Pool.Arrival

/-!
# What code in an event comes to

The code of an instance reaches the messages of an event by a few operations only: it
reads a slot, asks whether there is a receiver, or dispatches.  Between these it computes,
draws random words and calls hooks, which leaves the messages alone.  So code is specified
by what the store holds before and after it, and specifications are put together as the
code is.  An error that it ends with is of a kind that is known beforehand.
-/

set_option autoImplicit false

namespace DetectorSim

/-! ## What a routine asks for -/

namespace Routine

variable {Op : Type} {Reply : Op → Type} {α β : Type} {asks : Op → Prop} {fails : Error → Prop}

/-- A routine asks for certain operations only, and fails with certain errors only. -/
inductive Within (asks : Op → Prop) (fails : Error → Prop) {α : Type} :
    Routine Op Reply α → Prop where
  | done (value : α) : Within asks fails (.done value)
  | fail {err : Error} (known : fails err) : Within asks fails (.fail err)
  | panic (text : String) : Within asks fails (.panic text)
  | ask {op : Op} {next : Reply op → Routine Op Reply α} (allowed : asks op)
      (rest : ∀ reply, Within asks fails (next reply)) : Within asks fails (.ask op next)

namespace Within

theorem andThen {first : Routine Op Reply α} {next : α → Routine Op Reply β}
    (within : first.Within asks fails) (rest : ∀ value, (next value).Within asks fails) :
    (Routine.andThen first next).Within asks fails := by
  induction within with
  | done value => exact rest value
  | fail known => exact .fail known
  | panic text => exact .panic text
  | ask allowed _ ih => exact .ask allowed ih

theorem bind {first : Routine Op Reply α} {next : α → Routine Op Reply β}
    (within : first.Within asks fails) (rest : ∀ value, (next value).Within asks fails) :
    (first >>= next).Within asks fails :=
  within.andThen rest

theorem mono {routine : Routine Op Reply α} {asks' : Op → Prop} {fails' : Error → Prop}
    (within : routine.Within asks fails) (more : ∀ op, asks op → asks' op)
    (worse : ∀ err, fails err → fails' err) : routine.Within asks' fails' := by
  induction within with
  | done value => exact .done value
  | fail known => exact .fail (worse _ known)
  | panic text => exact .panic text
  | ask allowed _ ih => exact .ask (more _ allowed) ih

theorem collect {f : α → Routine Op Reply β} (within : ∀ a, (f a).Within asks fails)
    (items : List α) : (Routine.collect f items).Within asks fails := by
  unfold Routine.collect
  generalize ([] : List β) = found
  induction items generalizing found with
  | nil => exact .done _
  | cons a rest ih => exact (within a).andThen fun b => ih (b :: found)

theorem times {routine : Routine Op Reply α} (within : routine.Within asks fails)
    (count : Nat) : (Routine.times routine count).Within asks fails := by
  unfold Routine.times
  generalize ([] : List α) = found
  induction count generalizing found with
  | zero => exact .done _
  | succ count ih => exact within.andThen fun a => ih (a :: found)

end Within

end Routine

/-! ## Hooks -/

namespace Hook

variable {ω α : Type}

/-- Hooks get all that they ask for. -/
theorem exists_perform (op : HookOp ω) (env : Env ω) :
    ∃ reply after, op.perform env = (.ok reply, after) := by
  cases op <;> exact ⟨_, _, rfl⟩

end Hook

/-! ## Operations -/

namespace EventOp

variable {κ ω : Type} [Payload κ]

/-- Operations that have nothing to do with messages. -/
def IsInner : EventOp κ ω → Prop
  | .hook _ => True
  | .draw => True
  | _ => False

/-- Drawing a random word. -/
def IsDraw : EventOp κ ω → Prop
  | .draw => True
  | _ => False

theorem IsDraw.inner {op : EventOp κ ω} (draw : op.IsDraw) : op.IsInner := by
  cases op with
  | draw => trivial
  | _ => cases draw

/-- Reading a slot. -/
def IsReading : EventOp κ ω → Prop
  | .single .. => True
  | .multi .. => True
  | _ => False

theorem IsInner.not_isReading {op : EventOp κ ω} (inner : op.IsInner) : ¬ op.IsReading := by
  cases op <;> first | exact id | cases inner

variable [DecidableEq κ]

/-- Operations that have nothing to do with messages succeed and leave them alone. -/
theorem IsInner.exists_perform {op : EventOp κ ω} (inner : op.IsInner)
    (messenger : Messenger κ ω) (receiver : Receiver) (state : EventState κ ω) :
    ∃ reply after, op.perform messenger receiver state = (.ok reply, after) ∧
      after.data.store = state.data.store := by
  cases op with
  | hook op =>
    obtain ⟨reply, env, performed⟩ := Hook.exists_perform op state.env
    refine ⟨reply, { state with env }, ?_, rfl⟩
    simp only [perform, EventState.onEnv, Proc.zoom, performed]
    rfl
  | draw => exact ⟨_, _, rfl, rfl⟩
  | _ => cases inner

/-- No operation changes the number of the event. -/
theorem keeps_event_perform (messenger : Messenger κ ω) (receiver : Receiver)
    (op : EventOp κ ω) :
    Proc.Keeps (fun state => state.data.store.event) (op.perform messenger receiver) := by
  cases op with
  | dispatch message =>
    intro state
    have kept := messenger.keeps_event_dispatch receiver message
      (state.data.store, state.env)
    simp only [perform, caught, EventState.onStore, Proc.zoom]
    generalize messenger.dispatch receiver message (state.data.store, state.env) = result at kept ⊢
    obtain ⟨outcome, store, env⟩ := result
    cases outcome <;> exact kept
  | _ => exact fun _ => rfl

end EventOp

/-! ## Specifications -/

namespace EventCode

variable {κ ω α β : Type} [Payload κ] [DecidableEq κ] {messenger : Messenger κ ω}
  {receiver : Receiver} {fails : Error → Prop} {before : MessageStore κ → Prop}
  {after : α → MessageStore κ → Prop}

/-- From a store as described before, code ends with a value and a store as described
after, unless it panics or fails with an error of the given kind. -/
def Leads (messenger : Messenger κ ω) (receiver : Receiver) (fails : Error → Prop)
    (before : MessageStore κ → Prop) (code : EventCode κ ω α)
    (after : α → MessageStore κ → Prop) : Prop :=
  ∀ state, before state.data.store →
    match code.exec messenger receiver state with
    | (.ok value, ended) => after value ended.data.store
    | (.error err, _) => fails err
    | (.panic _, _) => True

namespace Leads

theorem done {value : α} (same : ∀ store, before store → after value store) :
    Leads messenger receiver fails before (.done value) after :=
  fun state held => same state.data.store held

theorem fail {err : Error} (known : fails err) :
    Leads messenger receiver fails before (.fail err) after :=
  fun _ _ => known

theorem panic (text : String) : Leads messenger receiver fails before (.panic text) after :=
  fun _ _ => trivial

theorem andThen {code : EventCode κ ω β} {next : β → EventCode κ ω α}
    {mid : β → MessageStore κ → Prop}
    (first : Leads messenger receiver fails before code mid)
    (rest : ∀ value, Leads messenger receiver fails (mid value) (next value) after) :
    Leads messenger receiver fails before (Routine.andThen code next) after := by
  intro state held
  have step := first state held
  unfold exec at step ⊢
  rw [Routine.run_andThen, Proc.andThen]
  rcases ran : Routine.run (EventOp.perform messenger receiver) code state with ⟨outcome, ended⟩
  simp only [ran] at step ⊢
  cases outcome with
  | ok value => exact rest value ended step
  | error err => exact step
  | panic text => trivial

theorem bind {code : EventCode κ ω β} {next : β → EventCode κ ω α}
    {mid : β → MessageStore κ → Prop}
    (first : Leads messenger receiver fails before code mid)
    (rest : ∀ value, Leads messenger receiver fails (mid value) (next value) after) :
    Leads messenger receiver fails before (code >>= next) after :=
  first.andThen rest

theorem mono {code : EventCode κ ω α} {before' : MessageStore κ → Prop}
    {after' : α → MessageStore κ → Prop}
    (leads : Leads messenger receiver fails before code after)
    (less : ∀ store, before' store → before store)
    (more : ∀ value store, after value store → after' value store) :
    Leads messenger receiver fails before' code after' := by
  intro state held
  have step := leads state (less _ held)
  generalize code.exec messenger receiver state = result at step ⊢
  obtain ⟨outcome, ended⟩ := result
  cases outcome with
  | ok value => exact more value _ step
  | error err => exact step
  | panic text => trivial

/-- An operation that is answered, and the code that goes on with its reply. -/
theorem ask {op : EventOp κ ω} {next : op.Reply → EventCode κ ω α}
    (mid : op.Reply → MessageStore κ → Prop)
    (answered : ∀ state, before state.data.store → ∃ reply ended,
      op.perform messenger receiver state = (.ok reply, ended) ∧ mid reply ended.data.store)
    (rest : ∀ reply, Leads messenger receiver fails (mid reply) (next reply) after) :
    Leads messenger receiver fails before (.ask op next) after := by
  intro state held
  obtain ⟨reply, ended, performed, now⟩ := answered state held
  have step := rest reply ended now
  simp only [exec, Routine.run, performed] at step ⊢
  exact step

/-- Code that has nothing to do with messages leaves the store as it was. -/
theorem inner {code : EventCode κ ω α} (within : code.Within EventOp.IsInner fails) :
    Leads messenger receiver fails before code fun _ => before := by
  induction within with
  | done value => exact .done fun _ => id
  | fail known => exact .fail known
  | panic text => exact .panic text
  | @ask op next allowed _ ih =>
    apply ask fun _ => before
    · intro state held
      obtain ⟨reply, ended, performed, kept⟩ := allowed.exists_perform messenger receiver state
      exact ⟨reply, ended, performed, kept ▸ held⟩
    · exact ih

theorem single {kind : κ} (slot : SingleSlot κ kind) :
    Leads messenger receiver fails before (EventCode.single slot)
      fun held store => before store ∧ store.single slot = held :=
  fun _ held => ⟨held, rfl⟩

theorem multi {kind : κ} (slot : MultiSlot κ kind) :
    Leads messenger receiver fails before (EventCode.multi slot)
      fun _ => before :=
  fun _ held => held

theorem number : Leads messenger receiver fails before EventCode.number fun _ => before :=
  fun _ held => held

section Sending

variable {bonds : List (Bond κ ω)} {kind : κ} {detector : Option Detector}

/-- There is a receiver exactly if some bond takes the topic. -/
theorem hasReceiver (wired : messenger.Wired bonds) (data : Payload.Data kind) :
    Leads messenger receiver fails before (EventCode.hasReceiver kind data detector)
      fun found store => before store ∧
        (found = true ↔ ∃ bond ∈ bonds, bond.Takes (kind, detector.map Detector.name)) :=
  fun _ held => ⟨held, wired.hasReceiver_iff⟩

/-- A message is sent with success if every slot for one message that would take it is
empty. -/
theorem dispatch {topics : Topic κ → Prop} (wired : messenger.Wired bonds)
    (unheard : Messenger.Unheard bonds)
    (free : ∀ bond ∈ bonds, bond.delegate.kind.slotKind = .single →
      bond.Takes (kind, detector.map Detector.name) →
      ∀ topic, topics topic → ¬ bond.Takes topic)
    (data : Payload.Data kind) :
    Leads messenger receiver fails (MessageStore.Laden bonds topics)
      (EventCode.dispatch kind data detector)
      fun _ => MessageStore.Laden bonds fun topic =>
        topics topic ∨ topic = (kind, detector.map Detector.name) := by
  unfold EventCode.dispatch
  refine ask (fun (message : Message κ kind) store =>
    store.Laden bonds topics ∧ message.detector = detector) ?_ ?_
  · exact fun state laden => ⟨_, _, rfl, laden, rfl⟩
  intro (message : Message κ kind)
  refine ask (fun (result : Except Error Unit) store => result = .ok () ∧
    store.Laden bonds fun topic => topics topic ∨ topic = (kind, detector.map Detector.name)) ?_ ?_
  · rintro state ⟨laden, rfl⟩
    obtain ⟨store, env, ran, now⟩ :=
      laden.exists_dispatch wired unheard ⟨kind, message⟩ free receiver state.env
    refine ⟨.ok (), { data := { state.data with store }, env }, ?_, rfl, now⟩
    simp only [EventOp.perform, EventOp.caught, EventState.onStore, Proc.zoom, ran]
    rfl
  intro result
  rintro state ⟨rfl, now⟩
  exact now

end Sending

end Leads

/-- Code keeps what every operation keeps. -/
theorem keeps_exec {τ : Type} {view : EventState κ ω → τ}
    (kept : ∀ op : EventOp κ ω, Proc.Keeps view (op.perform messenger receiver))
    (code : EventCode κ ω α) : Proc.Keeps view (code.exec messenger receiver) := by
  induction code with
  | done value => exact fun _ => rfl
  | fail err => exact fun _ => rfl
  | panic text => exact fun _ => rfl
  | ask op next ih =>
    intro state
    have same := kept op state
    simp only [exec, Routine.run]
    generalize op.perform messenger receiver state = result at same ⊢
    obtain ⟨outcome, mid⟩ := result
    cases outcome with
    | ok reply => exact (ih reply mid).trans same
    | error err => exact same
    | panic text => exact same

/-- What code shows comes from operations that it asks for. -/
theorem exists_of_mem_sights {asks : EventOp κ ω → Prop} {code : EventCode κ ω α}
    (within : code.Within asks fails) {state : EventState κ ω} {sight : Sight κ}
    (seen : sight ∈ code.sights messenger receiver state) :
    ∃ op reply, asks op ∧ sight ∈ op.sights reply := by
  induction within generalizing state with
  | done value => cases seen
  | fail known => cases seen
  | panic text => cases seen
  | @ask op next allowed _ ih =>
    unfold sights at seen
    split at seen
    · next reply mid performed =>
      rcases List.mem_append.mp seen with here | later
      · exact ⟨op, reply, allowed, here⟩
      · exact ih reply later
    · cases seen

end EventCode

/-! ## Instances -/

namespace Instance

variable {κ ω : Type} [Payload κ] [DecidableEq κ] {inst : Instance κ ω}
  {messenger : Messenger κ ω} {fails : Error → Prop}

omit [DecidableEq κ] in
/-- An error of a call is one of the procedure that is called, wrapped. -/
theorem exists_cause_of_call_error {σ α : Type} [HasJournal σ] {letter : String} {phase : Phase}
    {proc : Proc σ α} {state : σ} {err : Error}
    (failed : (inst.call letter phase proc state).1 = .error err) :
    ∃ journal cause, (proc (HasJournal.withJournal journal state)).1 = .error cause ∧
      err = cause.inModule inst.name phase := by
  simp only [call, Proc.within, Proc.mapError] at failed
  generalize (HasJournal.journal state).enter _ = entered at failed
  refine ⟨entered.2, ?_⟩
  generalize proc (HasJournal.withJournal entered.2 state) = result at failed ⊢
  obtain ⟨outcome, after⟩ := result
  cases outcome with
  | ok value => cases failed
  | error cause => exact ⟨cause, rfl, (Outcome.error.inj failed).symm⟩
  | panic text => cases failed

/-- An instance whose code is called in an event does what its code is specified to do. -/
theorem called_of_leads {before after : MessageStore κ → Prop}
    (leads : EventCode.Leads messenger inst.receiver fails before inst.module.run fun _ => after)
    {state : EventState κ ω} (held : before state.data.store) :
    match inst.called messenger state with
    | (.ok ran, ended) => ran = true ∧ after ended.data.store
    | (.error err, _) => ∃ cause, fails cause ∧ err = cause.inModule inst.name .run
    | (.panic _, _) => True := by
  simp only [called, Proc.bind_apply, Proc.andThen, call, Proc.within, Proc.mapError]
  generalize (HasJournal.journal state).enter _ = entered
  have step := leads (HasJournal.withJournal entered.2 state) held
  generalize EventCode.exec messenger inst.receiver inst.module.run _ = result at step ⊢
  obtain ⟨outcome, ended⟩ := result
  cases outcome with
  | ok value => exact ⟨rfl, step⟩
  | error cause => exact ⟨cause, step, rfl⟩
  | panic text => trivial

/-- Offering an event to an instance keeps of the event what every operation keeps. -/
theorem keeps_data_runEvent {τ : Type} {view : EventData κ → τ} {inst : Instance κ ω}
    {messenger : Messenger κ ω}
    (kept : ∀ op : EventOp κ ω,
      Proc.Keeps (fun state => view state.data) (op.perform messenger inst.receiver)) :
    Proc.Keeps (fun state => view state.data) (inst.runEvent messenger) := by
  have called : Proc.Keeps (fun state => view state.data) (inst.called messenger) := by
    refine Proc.Keeps.andThen (fun state => ?_) fun _ => .done true
    exact EventCode.keeps_exec kept inst.module.run _
  intro state
  by_cases missing : messenger.missingRequired inst.receiver.id state.data.store = []
  · rw [runEvent_of_missing_eq_nil missing]
    exact called state
  · obtain ⟨text, skipped⟩ := exists_of_missing_ne_nil missing
    rw [skipped]

end Instance

namespace RunPlan.Arrives

variable {κ ω : Type} [Payload κ] [DecidableEq κ] {plan : RunPlan κ ω} {event index : Nat}
  {data : EventData κ}

/-- An event keeps on its way what every operation keeps. -/
theorem view_eq {τ : Type} (view : EventData κ → τ)
    (kept : ∀ receiver (op : EventOp κ ω),
      Proc.Keeps (fun state => view state.data) (op.perform plan.messenger receiver))
    (arrives : plan.Arrives event index data) : view data = view (plan.startEvent event) := by
  induction arrives with
  | start => rfl
  | @next index inst state ran before found ended ih =>
    exact (Instance.keeps_data_runEvent (kept inst.receiver) state).trans ih

/-- An event keeps its number on its way. -/
theorem event_eq (arrives : plan.Arrives event index data) : data.store.event = event :=
  arrives.view_eq (fun data => data.store.event) (EventOp.keeps_event_perform plan.messenger)

end RunPlan.Arrives

end DetectorSim
