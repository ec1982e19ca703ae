import DetectorSim.Run.Serial
import DetectorSim.Proofs.Messaging.Forecast
import DetectorSim.Proofs.Module.Sparing
import DetectorSim.Proofs.Module.Unread

/-!
# Code that sends only what is taken

Code may ask whether a message would be taken before it sends the message, and send it only
then.  Nobody can tell it from code that sends all of its messages, but by the log: the
events hold the same, the same listeners are called, and everything ends in the same way.
-/

set_option autoImplicit false

namespace DetectorSim

/-! ## Listeners that are called -/

/-- The calls of listeners that an operation makes. -/
def EventOp.calls {κ ω : Type} [Payload κ] [DecidableEq κ] (messenger : Messenger κ ω) :
    EventOp κ ω → EventState κ ω → List (Messenger.ListenerCall κ ω)
  | .dispatch message, state => messenger.callsOf message (state.data.store, state.env)
  | _, _ => []

/-- The calls of listeners that code of an instance makes in an event, in order. -/
def EventCode.calls {κ ω α : Type} [Payload κ] [DecidableEq κ] (messenger : Messenger κ ω)
    (receiver : Receiver) : EventCode κ ω α → EventState κ ω → List (Messenger.ListenerCall κ ω)
  | .ask op next, state =>
      op.calls messenger state ++
        Proc.thereafter (op.perform messenger receiver)
          (fun reply => EventCode.calls messenger receiver (next reply)) state
  | _, _ => []

/-- The calls of listeners that an instance makes in an event. -/
def Instance.calls {κ ω : Type} [Payload κ] [DecidableEq κ] (inst : Instance κ ω)
    (messenger : Messenger κ ω) (state : EventState κ ω) : List (Messenger.ListenerCall κ ω) :=
  match messenger.missingRequired inst.receiver.id state.data.store with
  | [] => EventCode.calls messenger inst.receiver inst.module.run (inst.entered state)
  | _ => []

/-- What is left of an event: how it ended, what it held in the end, how often instances
have run by then, and the calls of listeners. -/
structure EventReport (κ ω : Type) [Payload κ] where
  outcome : Outcome Unit
  data : EventData κ
  tallies : List Tally
  calls : List (Messenger.ListenerCall κ ω)

namespace RunPlan

variable {κ ω : Type} [Payload κ] [DecidableEq κ]

/-- The calls of listeners that some instances make in an event, in order. -/
def callsBy (plan : RunPlan κ ω) :
    Nat → List (Instance κ ω) → List Tally × EventState κ ω → List (Messenger.ListenerCall κ ω)
  | _, [], _ => []
  | index, inst :: rest, state =>
      inst.calls plan.messenger state.2 ++
        Proc.thereafter (inst.offer plan.messenger index)
          (fun _ => plan.callsBy (index + 1) rest) state

/-- An event as it comes to the first instance. -/
def opened (plan : RunPlan κ ω) (event : Nat) (state : List Tally × Env ω) :
    List Tally × EventState κ ω :=
  (state.1, ⟨plan.startEvent event,
    (Proc.log .debug s!"Running event {event}" state.2).2⟩)

/-- The report on one event. -/
def report (plan : RunPlan κ ω) (event : Nat) (state : List Tally × Env ω) : EventReport κ ω :=
  match plan.visit 0 plan.instances (plan.opened event state) with
  | (outcome, (tallies, after)) =>
      ⟨outcome, after.data, tallies, plan.callsBy 0 plan.instances (plan.opened event state)⟩

/-- The reports on a number of events from a given one on. -/
def reports (plan : RunPlan κ ω) : Nat → Nat → List Tally × Env ω → List (EventReport κ ω)
  | _, 0, _ => []
  | event, count + 1, state =>
      plan.report event state ::
        Proc.thereafter (plan.processEvent event) (fun _ => plan.reports (event + 1) count) state

/-! ### One after the other -/

theorem visit_cons (plan : RunPlan κ ω) (index : Nat) (inst : Instance κ ω)
    (rest : List (Instance κ ω)) :
    plan.visit index (inst :: rest)
      = Proc.andThen (inst.offer plan.messenger index) fun _ => plan.visit (index + 1) rest := by
  funext state
  rcases ran : inst.offer plan.messenger index state with ⟨_ | _ | _, after⟩ <;>
    simp only [visit, Proc.andThen, ran]

theorem processFrom_succ (plan : RunPlan κ ω) (event count : Nat) :
    plan.processFrom event (count + 1)
      = Proc.andThen (plan.processEvent event) fun _ => plan.processFrom (event + 1) count := by
  funext state
  rcases ran : plan.processEvent event state with ⟨_ | _ | _, after⟩ <;>
    simp only [processFrom, Proc.andThen, ran]

end RunPlan

/-! ## Asking first -/

namespace EventCode

variable {κ ω α : Type} [Payload κ]

/-- Two pieces of code do the same, but for records in the log, and for messages that the
first one sends and the second one sends only if somebody would take a message on their
topic.  Where it does not, it goes on as if that had ended well. -/
inductive Thrifty : EventCode κ ω α → EventCode κ ω α → Prop
  | done (value : α) : Thrifty (.done value) (.done value)
  | fail (err : Error) : Thrifty (.fail err) (.fail err)
  | panic (text : String) : Thrifty (.panic text) (.panic text)
  | both (op : EventOp κ ω) {next next' : op.Reply → EventCode κ ω α}
      (rest : ∀ reply, Thrifty (next reply) (next' reply)) :
      Thrifty (.ask op next) (.ask op next')
  | asked {message query : AnyMessage κ} (same : query.topic = message.topic)
      {next : (EventOp.dispatch message : EventOp κ ω).Reply → EventCode κ ω α}
      {next' : (EventOp.hasReceiver query : EventOp κ ω).Reply → EventCode κ ω α}
      (taken : Thrifty (.ask (.dispatch message) next) (next' true))
      (spared : Thrifty (next (.ok ())) (next' false)) :
      Thrifty (.ask (.dispatch message) next) (.ask (.hasReceiver query) next')
  | left (level : Level) (text : String)
      {next : (EventOp.hook (.log level text) : EventOp κ ω).Reply → EventCode κ ω α}
      {code : EventCode κ ω α} (rest : Thrifty (next ()) code) :
      Thrifty (.ask (.hook (.log level text)) next) code
  | right (level : Level) (text : String)
      {next : (EventOp.hook (.log level text) : EventOp κ ω).Reply → EventCode κ ω α}
      {code : EventCode κ ω α} (rest : Thrifty code (next ())) :
      Thrifty code (.ask (.hook (.log level text)) next)

/-- Code that asks before each message whether it would be taken. -/
def askFirst : EventCode κ ω α → EventCode κ ω α
  | .done value => .done value
  | .fail err => .fail err
  | .panic text => .panic text
  | .ask (.dispatch message) next =>
      .ask (.hasReceiver message) fun
        | true => .ask (.dispatch message) fun reply => askFirst (next reply)
        | false => askFirst (next (.ok ()))
  | .ask op next => .ask op fun reply => askFirst (next reply)

theorem thrifty_askFirst (code : EventCode κ ω α) : Thrifty code code.askFirst := by
  induction code with
  | done value => exact .done value
  | fail err => exact .fail err
  | panic text => exact .panic text
  | ask op next ih =>
    cases op with
    | dispatch message =>
      rw [askFirst]
      exact .asked rfl (.both _ ih) (ih (Except.ok ()))
    | _ => exact .both _ ih

end EventCode

/-! ## Running thrifty code -/

section Running

variable {κ ω α : Type} [Payload κ] [DecidableEq κ] {messenger : Messenger κ ω}

theorem EventOp.calls_eq (op : EventOp κ ω) {state state' : EventState κ ω}
    (like : unlogged state = unlogged state') :
    op.calls messenger state = op.calls messenger state' := by
  obtain ⟨data, env_like⟩ := EventState.unlogged_eq_iff.mp like
  cases op with
  | dispatch message =>
    exact messenger.callsOf_eq message (unlogged_pair_eq_iff.mpr ⟨congrArg _ data, env_like⟩)
  | _ => rfl

/-- To ask whether a message would be taken changes the log only. -/
theorem EventOp.exists_perform_hasReceiver (receiver : Receiver) (query : AnyMessage κ)
    (state : EventState κ ω) :
    ∃ after, (EventOp.hasReceiver query).perform messenger receiver state
        = (.ok (messenger.hasReceiver query), after) ∧ unlogged after = unlogged state :=
  ⟨_, rfl, unlogged_log .trace _ state⟩

/-- To send a message that nobody would take changes the log only, and ends well. -/
theorem EventOp.exists_perform_dispatch {message : AnyMessage κ}
    (nobody : messenger.hasReceiver message = false) (receiver : Receiver)
    (state : EventState κ ω) :
    ∃ after, (EventOp.dispatch message).perform messenger receiver state
        = (.ok (Except.ok ()), after) ∧ unlogged after = unlogged state := by
  obtain ⟨text, sent⟩ := Messenger.dispatch_of_hasReceiver_eq_false nobody receiver
    (state.data.store, state.env)
  refine ⟨_, ?_, unlogged_log .trace text state⟩
  simp only [perform, caught, EventState.onStore, Proc.zoom, sent]
  rfl

theorem EventOp.calls_dispatch_eq_nil {message : AnyMessage κ}
    (nobody : messenger.hasReceiver message = false) (state : EventState κ ω) :
    (EventOp.dispatch message).calls messenger state = [] :=
  Messenger.callsOf_of_hasReceiver_eq_false nobody _

/-- Two pieces of code end in the same way, leave the same but for the log, and call the same
listeners, from states that are the same but for the log. -/
structure EventCode.SameRuns (messenger : Messenger κ ω) (receiver : Receiver)
    (code code' : EventCode κ ω α) : Prop where
  same : Proc.Same (code.exec messenger receiver) (code'.exec messenger receiver)
  calls : ∀ state state', unlogged state = unlogged state' →
    code.calls messenger receiver state = code'.calls messenger receiver state'

namespace EventCode

variable {receiver : Receiver} {code code' : EventCode κ ω α}

theorem SameRuns.both (op : EventOp κ ω) {next next' : op.Reply → EventCode κ ω α}
    (rest : ∀ reply, SameRuns messenger receiver (next reply) (next' reply)) :
    SameRuns messenger receiver (.ask op next) (.ask op next') := by
  have performed := op.same_perform messenger receiver
  constructor
  · unfold exec
    rw [Routine.run_ask, Routine.run_ask]
    exact performed.andThen fun reply => (rest reply).same
  · intro state state' like
    rw [EventCode.calls, EventCode.calls, op.calls_eq like]
    exact congrArg _ (performed.thereafter (fun reply => (rest reply).calls) like)

/-- An operation that shows in nothing but the log may be left out on one side. -/
theorem SameRuns.left {op : EventOp κ ω} {next : op.Reply → EventCode κ ω α} {reply : op.Reply}
    (quiet : ∀ state, ∃ after, op.perform messenger receiver state = (.ok reply, after) ∧
      unlogged after = unlogged state)
    (silent : ∀ state, op.calls messenger state = [])
    (rest : SameRuns messenger receiver (next reply) code) :
    SameRuns messenger receiver (.ask op next) code := by
  constructor
  · intro state state' like
    obtain ⟨after, ran, left⟩ := quiet state
    simp only [exec, Routine.run, ran]
    exact rest.same after state' (left.trans like)
  · intro state state' like
    obtain ⟨after, ran, left⟩ := quiet state
    simp only [EventCode.calls, silent, Proc.thereafter, ran, List.nil_append]
    exact rest.calls after state' (left.trans like)

theorem SameRuns.symm (runs : SameRuns messenger receiver code code') :
    SameRuns messenger receiver code' code where
  same state state' like :=
    have ⟨ends, left⟩ := runs.same state' state like.symm
    ⟨ends.symm, left.symm⟩
  calls state state' like := (runs.calls state' state like.symm).symm

theorem SameRuns.right {op : EventOp κ ω} {next : op.Reply → EventCode κ ω α}
    {reply : op.Reply}
    (quiet : ∀ state, ∃ after, op.perform messenger receiver state = (.ok reply, after) ∧
      unlogged after = unlogged state)
    (silent : ∀ state, op.calls messenger state = [])
    (rest : SameRuns messenger receiver code (next reply)) :
    SameRuns messenger receiver code (.ask op next) :=
  (rest.symm.left quiet silent).symm

/-- Thrifty code can not be told from code that sends everything, but by the log. -/
theorem Thrifty.sameRuns (thrifty : Thrifty code code') (messenger : Messenger κ ω)
    (receiver : Receiver) : SameRuns messenger receiver code code' := by
  have log_quiet (level : Level) (text : String) (state : EventState κ ω) :
      ∃ after, (EventOp.hook (.log level text)).perform messenger receiver state
        = (.ok (), after) ∧ unlogged after = unlogged state :=
    ⟨_, rfl, unlogged_log level text state⟩
  induction thrifty with
  | done value => exact ⟨fun _ _ like => ⟨rfl, like⟩, fun _ _ _ => rfl⟩
  | fail err => exact ⟨fun _ _ like => ⟨rfl, like⟩, fun _ _ _ => rfl⟩
  | panic text => exact ⟨fun _ _ like => ⟨rfl, like⟩, fun _ _ _ => rfl⟩
  | both op _ ih => exact .both op ih
  | left level text _ ih => exact ih.left (log_quiet level text) fun _ => rfl
  | right level text _ ih => exact ih.right (log_quiet level text) fun _ => rfl
  | @asked message query same next next' _ _ taken spared =>
    have answer : messenger.hasReceiver query = messenger.hasReceiver message :=
      Messenger.hasReceiver_congr same
    refine .right (EventOp.exists_perform_hasReceiver receiver query) (fun _ => rfl) ?_
    cases found : messenger.hasReceiver message with
    | true =>
      rw [answer, found]
      exact taken
    | false =>
      rw [answer, found]
      exact spared.left (EventOp.exists_perform_dispatch found receiver)
        (EventOp.calls_dispatch_eq_nil found)

end EventCode

/-! ## Instances and plans -/

/-- An instance with thrifty code instead of code that sends everything. -/
structure Instance.Thrifty (inst inst' : Instance κ ω) : Prop where
  identifier : inst'.identifier = inst.identifier
  receiver : inst'.receiver = inst.receiver
  run : EventCode.Thrifty inst.module.run inst'.module.run
  rest : inst'.module = { inst.module with run := inst'.module.run }

/-- A plan in which instances may have thrifty code instead of code that sends
everything. -/
structure RunPlan.Thrifty (plan plan' : RunPlan κ ω) : Prop where
  instances : List.Forall₂ Instance.Thrifty plan.instances plan'.instances
  messenger : plan'.messenger = plan.messenger
  source : plan'.source = plan.source
  seed : plan'.seed = plan.seed

namespace Instance.Thrifty

variable {inst inst' : Instance κ ω}

omit [DecidableEq κ] in
theorem name_eq (thrifty : inst.Thrifty inst') : inst'.name = inst.name :=
  congrArg Identifier.display thrifty.identifier

theorem same_called (thrifty : inst.Thrifty inst') (messenger : Messenger κ ω) :
    Proc.Same (inst.called messenger) (inst'.called messenger) := by
  unfold called call
  rw [thrifty.receiver, thrifty.name_eq]
  exact (((thrifty.run.sameRuns messenger inst.receiver).same.mapError _).within _ _).andThen
    fun _ => .done true

theorem same_runEvent (thrifty : inst.Thrifty inst') (messenger : Messenger κ ω) :
    Proc.Same (inst.runEvent messenger) (inst'.runEvent messenger) := by
  intro state state' like
  have data := (EventState.unlogged_eq_iff.mp like).1
  by_cases missing : messenger.missingRequired inst.receiver.id state.data.store = []
  · have missing' : messenger.missingRequired inst'.receiver.id state'.data.store = [] := by
      rw [thrifty.receiver, ← data, missing]
    rw [runEvent_of_missing_eq_nil missing, runEvent_of_missing_eq_nil missing']
    exact thrifty.same_called messenger state state' like
  · have missing' : messenger.missingRequired inst'.receiver.id state'.data.store ≠ [] := by
      rwa [thrifty.receiver, ← data]
    obtain ⟨text, skipped⟩ := exists_of_missing_ne_nil missing
    obtain ⟨text', skipped'⟩ := exists_of_missing_ne_nil missing'
    rw [skipped, skipped']
    exact ⟨rfl, (Proc.Same.log .debug .debug text text' state state' like).2⟩

theorem calls_eq (thrifty : inst.Thrifty inst') (messenger : Messenger κ ω)
    {state state' : EventState κ ω} (like : unlogged state = unlogged state') :
    inst.calls messenger state = inst'.calls messenger state' := by
  have data := (EventState.unlogged_eq_iff.mp like).1
  unfold calls
  rw [thrifty.receiver, ← data]
  split
  · refine (thrifty.run.sameRuns messenger inst.receiver).calls _ _ ?_
    exact (unlogged_enter _ state).trans (like.trans (unlogged_enter _ state').symm)
  · rfl

theorem same_offer (thrifty : inst.Thrifty inst') (messenger : Messenger κ ω) (index : Nat) :
    Proc.Same (inst.offer messenger index) (inst'.offer messenger index) := by
  rintro ⟨tallies, state⟩ ⟨tallies', state'⟩ like
  obtain ⟨rfl, state_like⟩ := unlogged_pair_eq_iff.mp like
  rcases ran : inst.runEvent messenger state with ⟨outcome, after⟩
  obtain ⟨after', ran', left⟩ := (thrifty.same_runEvent messenger).exists_ran state_like ran
  simp only [offer, ran, ran']
  cases outcome <;> exact ⟨rfl, unlogged_pair_eq_iff.mpr ⟨rfl, left⟩⟩

end Instance.Thrifty

namespace RunPlan.Thrifty

variable {plan plan' : RunPlan κ ω}

/-- Some instances in an event. -/
theorem same_visit (thrifty : plan.Thrifty plan') {insts insts' : List (Instance κ ω)}
    (pairs : List.Forall₂ Instance.Thrifty insts insts') (index : Nat) :
    Proc.Same (plan.visit index insts) (plan'.visit index insts') := by
  induction pairs generalizing index with
  | nil => exact fun _ _ like => ⟨rfl, like⟩
  | cons pair _ ih =>
    rw [visit_cons, visit_cons, thrifty.messenger]
    exact (pair.same_offer plan.messenger index).andThen fun _ => ih (index + 1)

theorem callsBy_eq (thrifty : plan.Thrifty plan') {insts insts' : List (Instance κ ω)}
    (pairs : List.Forall₂ Instance.Thrifty insts insts') (index : Nat)
    {state state' : List Tally × EventState κ ω} (like : unlogged state = unlogged state') :
    plan.callsBy index insts state = plan'.callsBy index insts' state' := by
  induction pairs generalizing index state state' with
  | nil => rfl
  | cons pair _ ih =>
    have own := pair.calls_eq plan.messenger (unlogged_pair_eq_iff.mp like).2
    rw [callsBy, callsBy, thrifty.messenger, own]
    exact congrArg _ ((pair.same_offer plan.messenger index).thereafter
      (fun _ _ _ left => ih (index + 1) left) like)

omit [DecidableEq κ] in
theorem startEvent_eq (thrifty : plan.Thrifty plan') (event : Nat) :
    plan'.startEvent event = plan.startEvent event := by
  simp only [startEvent, thrifty.messenger, thrifty.source, thrifty.seed]

omit [DecidableEq κ] in
theorem unlogged_opened (thrifty : plan.Thrifty plan') (event : Nat)
    {state state' : List Tally × Env ω} (like : unlogged state = unlogged state') :
    unlogged (plan.opened event state) = unlogged (plan'.opened event state') := by
  obtain ⟨tallies, env_like⟩ := unlogged_pair_eq_iff.mp like
  refine unlogged_pair_eq_iff.mpr ⟨tallies, EventState.unlogged_eq_iff.mpr ⟨?_, ?_⟩⟩
  · exact (thrifty.startEvent_eq event).symm
  · exact (Proc.Same.log _ _ _ _ _ _ env_like).2

/-- One event. -/
theorem same_processEvent (thrifty : plan.Thrifty plan') (event : Nat) :
    Proc.Same (plan.processEvent event) (plan'.processEvent event) := by
  intro state state' like
  obtain ⟨ends, left⟩ := thrifty.same_visit thrifty.instances 0 _ _
    (thrifty.unlogged_opened event like)
  obtain ⟨tallies, after⟩ := unlogged_pair_eq_iff.mp left
  exact ⟨ends, unlogged_pair_eq_iff.mpr ⟨tallies, (EventState.unlogged_eq_iff.mp after).2⟩⟩

theorem report_eq (thrifty : plan.Thrifty plan') (event : Nat)
    {state state' : List Tally × Env ω} (like : unlogged state = unlogged state') :
    plan.report event state = plan'.report event state' := by
  have start := thrifty.unlogged_opened event like
  obtain ⟨ends, left⟩ := thrifty.same_visit thrifty.instances 0 _ _ start
  obtain ⟨tallies, after⟩ := unlogged_pair_eq_iff.mp left
  have data := (EventState.unlogged_eq_iff.mp after).1
  simp only [report, ends, tallies, data, thrifty.callsBy_eq thrifty.instances 0 start]

/-- Some events one after the other. -/
theorem same_processFrom (thrifty : plan.Thrifty plan') (event count : Nat) :
    Proc.Same (plan.processFrom event count) (plan'.processFrom event count) := by
  induction count generalizing event with
  | zero => exact fun _ _ like => ⟨rfl, like⟩
  | succ count ih =>
    rw [processFrom_succ, processFrom_succ]
    exact (thrifty.same_processEvent event).andThen fun _ => ih (event + 1)

theorem reports_eq (thrifty : plan.Thrifty plan') (event count : Nat)
    {state state' : List Tally × Env ω} (like : unlogged state = unlogged state') :
    plan.reports event count state = plan'.reports event count state' := by
  induction count generalizing event state state' with
  | zero => rfl
  | succ count ih =>
    rw [reports, reports, thrifty.report_eq event like]
    exact congrArg _ ((thrifty.same_processEvent event).thereafter
      (fun _ _ _ left => ih (event + 1) left) like)

end RunPlan.Thrifty

end Running
end DetectorSim
