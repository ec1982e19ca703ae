import DetectorSim.Builtin.Payload
import DetectorSim.Run.Pool

/-!
# Histories of a pool

A run of a pool leaves a trace: the hooks that were called on the threads, the
events that were taken from the counter, and for every instance the events that
came in, were offered and went out again.  A history is such a trace together
with the pool at its end.  The histories of a pool are exactly its runs, so what
holds of every history holds under every scheduler.
-/

set_option autoImplicit false

namespace DetectorSim

/-! ## Visits -/

/-- What an instance sees and does while it runs in an event. -/
inductive Sight (κ : Type) [Payload κ] where
  | number (event : Nat)
  | single (kind : κ) (slot : SingleSlot κ kind) (held : Option (Message κ kind))
  | multi (kind : κ) (slot : MultiSlot κ kind) (held : List (Message κ kind))
  | composed (message : AnyMessage κ)
  | probed (message : AnyMessage κ) (found : Bool)
  | dispatched (message : AnyMessage κ) (result : Except Error Unit)
  | drew (word : UInt64)

/-- What an operation shows of the event; hooks show nothing of it. -/
def EventOp.sights {κ ω : Type} [Payload κ] :
    (op : EventOp κ ω) → op.Reply → List (Sight κ)
  | .hook _, _ => []
  | .number, event => [.number event]
  | .single kind slot, held => [.single kind slot held]
  | .multi kind slot, held => [.multi kind slot held]
  | .compose kind _ _, message => [.composed ⟨kind, message⟩]
  | .hasReceiver message, found => [.probed message found]
  | .dispatch message, result => [.dispatched message result]
  | .draw, word => [.drew word]

/-- What code of an instance sees and does in an event, in order. -/
def EventCode.sights {κ ω α : Type} [Payload κ] [DecidableEq κ] (messenger : Messenger κ ω)
    (receiver : Receiver) : EventCode κ ω α → EventState κ ω → List (Sight κ)
  | .ask op next, state =>
      match op.perform messenger receiver state with
      | (.ok reply, state) =>
          op.sights reply ++ EventCode.sights messenger receiver (next reply) state
      | _ => []
  | _, _ => []

/-- An event at an instance: what it brought along, what the instance saw and
did, whether it ran or how it failed, and what the event took on. -/
structure Visit (κ : Type) [Payload κ] where
  event : Nat
  index : Nat
  before : EventData κ
  sights : List (Sight κ)
  outcome : Outcome Bool
  after : EventData κ

namespace Instance

variable {κ ω : Type} [Payload κ] [DecidableEq κ]

/-- What an instance sees and does in an event; an instance that is skipped sees
nothing. -/
def sights (inst : Instance κ ω) (messenger : Messenger κ ω) (state : EventState κ ω) :
    List (Sight κ) :=
  match messenger.missingRequired inst.receiver.id state.data.store with
  | [] =>
      EventCode.sights messenger inst.receiver inst.module.run
        (HasJournal.withJournal
          ((HasJournal.journal state).enter ("R" ++ ":" ++ inst.name)).2 state)
  | _ => []

/-- The visit of an event at the instance with an index. -/
def visitBy (inst : Instance κ ω) (messenger : Messenger κ ω) (event index : Nat)
    (state : EventState κ ω) : Visit κ where
  event := event
  index := index
  before := state.data
  sights := inst.sights messenger state
  outcome := (inst.runEvent messenger state).1
  after := (inst.runEvent messenger state).2.data

end Instance

/-! ## Acts -/

/-- What is seen of a step of a worker. -/
inductive Act (κ : Type) [Payload κ] where
  /-- A hook of the thread was called for the instance with an index. -/
  | hooked (phase : Phase) (index : Nat) (outcome : Outcome Unit)
  /-- An event was taken from the counter. -/
  | took (event : Nat)
  /-- An event went in to the instance with an index.  At a gate it was granted
  the turn. -/
  | entered (event index : Nat)
  /-- An event was offered to an instance. -/
  | offered (visit : Visit κ)
  /-- An event went out of the instance with an index.  At a gate it handed on
  the turn. -/
  | left (event index : Nat)
  /-- The count of a worker ran over. -/
  | overflowed
  /-- A panic was contained. -/
  | contained (text : String)

/-- What an event does at an instance. -/
inductive Passage where
  | enters
  | runs
  | leaves
  deriving DecidableEq, Repr

namespace Act

variable {κ : Type} [Payload κ]

/-- The event that was taken. -/
def taken? : Act κ → Option Nat
  | .took event => some event
  | _ => none

/-- The visit that was made. -/
def visit? : Act κ → Option (Visit κ)
  | .offered visit => some visit
  | _ => none

/-- What an event did at the instance with an index. -/
def passage? (index : Nat) : Act κ → Option (Nat × Passage)
  | .entered event place => if place = index then some (event, .enters) else none
  | .offered visit => if visit.index = index then some (visit.event, .runs) else none
  | .left event place => if place = index then some (event, .leaves) else none
  | _ => none

end Act

/-- The events that were taken from the counter, in order. -/
def takenEvents {κ : Type} [Payload κ] (acts : List (Act κ)) : List Nat :=
  acts.filterMap Act.taken?

/-- The visits that were made, in order. -/
def visits {κ : Type} [Payload κ] (acts : List (Act κ)) : List (Visit κ) :=
  acts.filterMap Act.visit?

/-- What events did at the instance with an index, in order. -/
def passages {κ : Type} [Payload κ] (index : Nat) (acts : List (Act κ)) :
    List (Nat × Passage) :=
  acts.filterMap (Act.passage? index)

theorem mem_takenEvents {κ : Type} [Payload κ] {acts : List (Act κ)} {event : Nat} :
    event ∈ takenEvents acts ↔ .took event ∈ acts := by
  rw [takenEvents, List.mem_filterMap]
  constructor
  · rintro ⟨act, done, taken⟩
    cases act with
    | took number =>
      obtain rfl := Option.some.inj taken
      exact done
    | _ => cases taken
  · exact fun done => ⟨_, done, rfl⟩

theorem mem_visits {κ : Type} [Payload κ] {acts : List (Act κ)} {visit : Visit κ} :
    visit ∈ visits acts ↔ .offered visit ∈ acts := by
  rw [visits, List.mem_filterMap]
  constructor
  · rintro ⟨act, done, visited⟩
    cases act with
    | offered other =>
      obtain rfl := Option.some.inj visited
      exact done
    | _ => cases visited
  · exact fun done => ⟨_, done, rfl⟩

/-- What is picked from the acts grows with what is picked from the last one. -/
theorem filterMap_append_act {α β : Type} (pick : α → Option β) (acts : List α)
    (act : Option α) :
    (acts ++ act.toList).filterMap pick = acts.filterMap pick ++ (act.bind pick).toList := by
  rw [List.filterMap_append]
  cases act with
  | none => rfl
  | some last => cases picked : pick last <;> simp [picked]

section Traces

variable {κ : Type} [Payload κ] {acts : List (Act κ)} {act : Option (Act κ)}

theorem takenEvents_append :
    takenEvents (acts ++ act.toList) = takenEvents acts ++ (act.bind Act.taken?).toList :=
  filterMap_append_act Act.taken? acts act

theorem visits_append :
    visits (acts ++ act.toList) = visits acts ++ (act.bind Act.visit?).toList :=
  filterMap_append_act Act.visit? acts act

theorem passages_append {index : Nat} :
    passages index (acts ++ act.toList)
      = passages index acts ++ (act.bind (Act.passage? index)).toList :=
  filterMap_append_act (Act.passage? index) acts act

theorem visits_of_unvisited (unvisited : act.bind Act.visit? = none) :
    visits (acts ++ act.toList) = visits acts := by
  rw [visits_append, unvisited, Option.toList_none, List.append_nil]

theorem visits_of_visit {visit : Visit κ} (visited : act.bind Act.visit? = some visit) :
    visits (acts ++ act.toList) = visits acts ++ [visit] := by
  rw [visits_append, visited, Option.toList_some]

end Traces

namespace RunPlan

variable {κ ω : Type} [Payload κ] [DecidableEq κ]

/-- An event as a worker offers it to an instance. -/
def visitOf (plan : RunPlan κ ω) (pool : Pool κ ω) (worker : Worker κ) (event : Nat)
    (data : EventData κ) (index : Nat) (inst : Instance κ ω) : Visit κ :=
  inst.visitBy plan.messenger event index
    ⟨data, { pool.env with journal := { pool.env.journal with thread := worker.thread } }⟩

/-- What is seen of the next step of a worker. -/
def act? (plan : RunPlan κ ω) (events : Nat) (pool : Pool κ ω) (worker : Worker κ) :
    Option (Act κ) :=
  match worker.stage with
  | .starting index =>
      plan.instances[index]?.map fun inst =>
        .hooked .threadInit index (pool.perform worker.thread inst.threadInit).1
  | .claiming => if events < pool.next then none else some (.took pool.next)
  | .arriving event data index =>
      if index < plan.instances.length then
        match arrive? pool event data index with
        | some (.running event _ index) => some (.entered event index)
        | _ => none
      else if worker.hasRoom then none
      else some .overflowed
  | .running event data index =>
      plan.instances[index]?.map fun inst =>
        .offered (plan.visitOf pool worker event data index inst)
  | .leaving event _ index _ => some (.left event index)
  | .unwinding text _ => some (.contained text)
  | .finishing _ index =>
      plan.instances[index]?.map fun inst =>
        .hooked .threadFinalize index (pool.perform worker.thread inst.threadFinalize).1
  | _ => none

/-- The acts of a worker at a stage. -/
inductive Performs (plan : RunPlan κ ω) (pool : Pool κ ω) (worker : Worker κ) :
    Stage κ → Act κ → Prop where
  | started {index : Nat} {inst : Instance κ ω} (found : plan.instances[index]? = some inst) :
      Performs plan pool worker (.starting index)
        (.hooked .threadInit index (pool.perform worker.thread inst.threadInit).1)
  | took : Performs plan pool worker .claiming (.took pool.next)
  | entered {event index event' index' : Nat} {data : EventData κ} :
      Performs plan pool worker (.arriving event data index) (.entered event' index')
  | overflowed {event index : Nat} {data : EventData κ} (full : worker.hasRoom = false) :
      Performs plan pool worker (.arriving event data index) .overflowed
  | offered {event index : Nat} {data : EventData κ} {inst : Instance κ ω}
      (found : plan.instances[index]? = some inst) :
      Performs plan pool worker (.running event data index)
        (.offered (plan.visitOf pool worker event data index inst))
  | left {event index : Nat} {data : EventData κ} {outcome : Outcome Unit} :
      Performs plan pool worker (.leaving event data index outcome) (.left event index)
  | contained {text : String} {what : Interrupted} :
      Performs plan pool worker (.unwinding text what) (.contained text)
  | finished {result : Except Error Unit} {index : Nat} {inst : Instance κ ω}
      (found : plan.instances[index]? = some inst) :
      Performs plan pool worker (.finishing result index)
        (.hooked .threadFinalize index (pool.perform worker.thread inst.threadFinalize).1)

/-- What is seen of a worker is an act at its stage. -/
theorem performs_of_act? {plan : RunPlan κ ω} {events : Nat} {pool : Pool κ ω}
    {worker : Worker κ} {act : Act κ} (seen : plan.act? events pool worker = some act) :
    plan.Performs pool worker worker.stage act := by
  unfold act? at seen
  cases stage : worker.stage with
  | starting index =>
    simp only [stage] at seen
    obtain ⟨inst, found, rfl⟩ := Option.map_eq_some_iff.mp seen
    exact .started found
  | claiming =>
    simp only [stage] at seen
    split at seen <;> cases seen
    exact .took
  | arriving event data index =>
    simp only [stage] at seen
    split at seen
    · split at seen <;> cases seen
      exact .entered
    · split at seen <;> cases seen
      next full => exact .overflowed (Bool.eq_false_iff.mpr full)
  | running event data index =>
    simp only [stage] at seen
    obtain ⟨inst, found, rfl⟩ := Option.map_eq_some_iff.mp seen
    exact .offered found
  | leaving event data index outcome =>
    obtain rfl : .left event index = act := by simpa [stage] using seen
    exact .left
  | unwinding text what =>
    obtain rfl : .contained text = act := by simpa [stage] using seen
    exact .contained
  | finishing result index =>
    simp only [stage] at seen
    obtain ⟨inst, found, rfl⟩ := Option.map_eq_some_iff.mp seen
    exact .finished found
  | _ => simp [stage] at seen

/-- What a pool can come to, and what is seen on the way. -/
inductive History (plan : RunPlan κ ω) (events : Nat) (first : Pool κ ω) :
    List (Act κ) → Pool κ ω → Prop where
  | start : History plan events first [] first
  | step {acts : List (Act κ)} {pool next : Pool κ ω} {worker : Worker κ} (choice : Choice)
      (before : History plan events first acts pool)
      (found : pool.workers[choice.worker]? = some worker)
      (step : plan.step? events pool choice = some next) :
      History plan events first (acts ++ (plan.act? events pool worker).toList) next

/-- A step is made by a worker of the pool, which is replaced by what it has
become. -/
theorem exists_of_step? {plan : RunPlan κ ω} {events : Nat} {pool next : Pool κ ω}
    {choice : Choice} (step : plan.step? events pool choice = some next) :
    ∃ worker middle after, pool.workers[choice.worker]? = some worker ∧
      plan.advance? events pool choice worker = some (middle, after) ∧
      next = { middle with workers := middle.workers.set choice.worker after } := by
  unfold step? at step
  cases found : pool.workers[choice.worker]? with
  | none => simp [found] at step
  | some worker =>
    simp only [found] at step
    cases advanced : plan.advance? events pool choice worker with
    | none => simp [advanced] at step
    | some result =>
      obtain ⟨middle, after⟩ := result
      simp only [advanced, Option.some.injEq] at step
      exact ⟨worker, middle, after, rfl, advanced, step.symm⟩

/-- Every run has a history. -/
theorem exists_history_of_reaches {plan : RunPlan κ ω} {events : Nat}
    {first pool : Pool κ ω} (reached : plan.Reaches events first pool) :
    ∃ acts, plan.History events first acts pool := by
  induction reached with
  | refl => exact ⟨[], .start⟩
  | tail choice _ step ih =>
    obtain ⟨acts, history⟩ := ih
    obtain ⟨worker, _, _, found, _⟩ := exists_of_step? step
    exact ⟨_, .step choice history found step⟩

/-- Every history is that of a run. -/
theorem reaches_of_history {plan : RunPlan κ ω} {events : Nat} {first pool : Pool κ ω}
    {acts : List (Act κ)} (history : plan.History events first acts pool) :
    plan.Reaches events first pool := by
  induction history with
  | start => exact .refl first
  | step choice _ _ step ih => exact .tail choice ih step

/-- What is driven goes on from what was reached. -/
theorem reaches_drive {plan : RunPlan κ ω} {events : Nat} {first pool : Pool κ ω}
    (reached : plan.Reaches events first pool) (fuel : Nat) :
    plan.Reaches events first (plan.drive events fuel pool) := by
  induction fuel generalizing pool with
  | zero => exact reached
  | succ fuel ih =>
    unfold drive
    cases stepped : plan.firstStep? events pool with
    | none => exact reached
    | some next =>
      obtain ⟨worker, -, step⟩ := List.exists_of_findSome?_eq_some stepped
      exact ih (reached.tail _ step)

/-- Running to the end is one of the runs, so it has a history. -/
theorem exists_history_runToEnd (plan : RunPlan κ ω) (events : Nat) (first : Pool κ ω) :
    ∃ acts, plan.History events first acts (plan.runToEnd events first) :=
  exists_history_of_reaches (reaches_drive (.refl first) _)

end RunPlan

/-! ## A plan to try things on -/

/-- A plan for modules that exchange no messages. -/
def RunPlan.ofModules {κ ω : Type} [Payload κ] (modules : List (Module κ ω)) :
    RunPlan κ ω where
  instances := modules.zipIdx.map fun (module, index) =>
    ⟨.unique s!"M{index}", ⟨⟨index⟩, s!"M{index}", none⟩, module⟩
  messenger := .empty
  source := mixedWords
  seed := 0

/-- A module that sees the events in order and counts them; it fails in one of
them. -/
def Module.counting (poor : Nat) : Module Builtin.PayloadKind Nat where
  safety := .sequential
  init := .done ()
  threadInit := .done ()
  run := do
    let event ← EventCode.number
    if event = poor then Routine.fail (.runtime "no more")
    let _ ← EventCode.update Nat.succ
  threadFinalize := .done ()
  finalize := .done ()
  release := .done ()

end DetectorSim
