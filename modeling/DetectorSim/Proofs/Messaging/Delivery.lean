import DetectorSim.Builtin.Payload
import DetectorSim.Proofs.Messaging.Wiring
import DetectorSim.Proofs.Procedure

/-!
# What the slots hold

A store is opened when the last delegate is bound.  Afterwards messages are
dispatched into it, while delegates may still be removed.  At any time every
slot holds what follows from the messages that were dispatched and from its
delegate alone.
-/

set_option autoImplicit false

namespace DetectorSim

section

variable {κ : Type} [Payload κ]

/-- What a slot holds after its delegate took some messages. -/
def SlotKind.contents : SlotKind → List (AnyMessage κ) → SlotState κ
  | .single, taken => .single taken.getLast?
  | .multi, taken => .multi taken
  | .listener, taken => .listener taken.length

theorem SlotKind.contents_nil (kind : SlotKind) :
    kind.contents [] = (SlotState.empty kind : SlotState κ) := by
  cases kind <;> rfl

end

/-! ## Messages for a bond -/

namespace Bond

variable {κ ω : Type} [Payload κ] [DecidableEq κ]

/-- A message concerns a bond if it has the kind of payload and unless it is for
another detector and names are not ignored. -/
def Concerns (bond : Bond κ ω) (message : AnyMessage κ) : Prop :=
  message.kind = bond.kind ∧
    (message.detector.isNone ∨ bond.delegate.receiver.detector.isNone ∨
      message.detector.map Detector.name = bond.delegate.receiver.detector.map Detector.name ∨
      bond.delegate.flags.ignoreName)

instance (bond : Bond κ ω) (message : AnyMessage κ) : Decidable (bond.Concerns message) :=
  inferInstanceAs (Decidable (_ ∧ _))

/-- Those of some messages that concern a bond, in order. -/
def addressed (bond : Bond κ ω) (sent : List (AnyMessage κ)) : List (AnyMessage κ) :=
  sent.filter fun message => bond.Concerns message

omit [DecidableEq κ] in
theorem concerns_iff {bond : Bond κ ω} {message : AnyMessage κ} :
    bond.Concerns message ↔
      message.kind = bond.kind ∧ bond.delegate.accepts message.detector := by
  unfold Concerns Delegate.accepts
  cases message.detector <;> cases bond.delegate.receiver.detector <;>
    simp [MessageFlags.contains, MessageFlags.anyName]

theorem addressed_concat (bond : Bond κ ω) (sent : List (AnyMessage κ))
    (message : AnyMessage κ) :
    bond.addressed (sent ++ [message])
      = if bond.Concerns message then bond.addressed sent ++ [message]
        else bond.addressed sent := by
  unfold addressed
  rw [List.filter_append]
  by_cases concerns : bond.Concerns message <;> simp [concerns]

end Bond

/-! ## Stores -/

namespace MessageStore

variable {κ ω : Type} [Payload κ]

theorem state?_put (store : MessageStore κ) (ref other : SlotRef) (state : SlotState κ) :
    (store.put ref state).state? other
      = if ref = other then (store.state? other).map fun _ => state
        else store.state? other := by
  obtain ⟨owner, index⟩ := ref
  obtain ⟨owner', index'⟩ := other
  simp only [put, state?, Table.find?_change, SlotRef.mk.injEq]
  by_cases same : owner = owner'
  · subst same
    cases store.inboxes.find? owner with
    | none => simp
    | some slots =>
      by_cases here : index = index'
      · subst here
        by_cases inside : index < slots.length <;> simp [inside]
      · simp [here]
  · simp [same]

/-- A slot after a message holds one more. -/
theorem accept_contents {event : Nat} {delegate : Delegate κ ω} {message : AnyMessage κ}
    {kind : SlotKind} {taken : List (AnyMessage κ)} {after : SlotState κ}
    (accepted : accept event delegate message (kind.contents taken) = .ok after) :
    after = kind.contents (taken ++ [message]) ∧
      (kind = .single → delegate.flags.allowOverwrite = false → taken = []) := by
  cases kind with
  | single =>
    simp only [SlotKind.contents, accept] at accepted ⊢
    split at accepted
    · cases accepted
    · next free =>
      obtain rfl := Except.ok.inj accepted
      refine ⟨by rw [List.getLast?_concat], fun _ strict => ?_⟩
      simpa [MessageFlags.contains, MessageFlags.overwriting, strict] using free
  | multi =>
    obtain rfl := Except.ok.inj accepted
    exact ⟨rfl, fun single => nomatch single⟩
  | listener =>
    obtain rfl := Except.ok.inj accepted
    exact ⟨by simp [SlotKind.contents], fun single => nomatch single⟩

end MessageStore

namespace Messenger

variable {κ ω : Type} [Payload κ]

theorem state?_newStore (messenger : Messenger κ ω) (event : Nat) (ref : SlotRef) :
    (messenger.newStore event).state? ref
      = (messenger.layout? ref).map fun layout => layout.kind.contents [] := by
  unfold newStore MessageStore.ofLayouts MessageStore.state? layout? Table.find?
  rw [Table.findIn_map]
  cases Table.findIn ref.owner messenger.layouts.entries <;>
    simp [SlotKind.contents_nil]

/-! ## Calls of listeners -/

/-- What a delegate runs when it gets a message: its listener, if it has one. -/
def hook? (message : AnyMessage κ) (delegate : Delegate κ ω) : Option (Hook ω Unit) :=
  match delegate.kind with
  | .listener callback => some (callback message)
  | _ => none

/-- A call of a listener: whose it is, with which message, what was run, and how that
ended. -/
structure ListenerCall (κ ω : Type) [Payload κ] where
  slot : SlotRef
  message : AnyMessage κ
  hook : Hook ω Unit
  outcome : Outcome Unit

/-- The call of the listener of a delegate in the environment that it finds. -/
def callOf? (message : AnyMessage κ) (delegate : Delegate κ ω) (env : Env ω) :
    Option (ListenerCall κ ω) :=
  (hook? message delegate).map fun hook =>
    ⟨delegate.slotRef, message, hook, (Hook.exec hook env).1⟩

/-- The call of the listener of a delegate, if it ends well. -/
def goodCall? (message : AnyMessage κ) (delegate : Delegate κ ω) : Option (ListenerCall κ ω) :=
  (hook? message delegate).map fun hook => ⟨delegate.slotRef, message, hook, .ok ()⟩

/-- The calls of listeners when some delegates are served one after the other. -/
def callsServing (message : AnyMessage κ) (delegates : List (Delegate κ ω))
    (state : MessageStore κ × Env ω) : List (ListenerCall κ ω) :=
  (Proc.turns (serve message) delegates state).filterMap fun turn =>
    callOf? message turn.1 turn.2.2

/-! ## Serving delegates -/

variable {message : AnyMessage κ} {delegate : Delegate κ ω} {delegates : List (Delegate κ ω)}
  {store after : MessageStore κ} {env env' : Env ω}

/-- A delegate that was served holds the message in its slot. -/
theorem serve_ok (served : serve message delegate (store, env) = (.ok (), (after, env'))) :
    ∃ held taken, store.state? delegate.slotRef = some held ∧
      MessageStore.accept store.event delegate message held = .ok taken ∧
      after = store.put delegate.slotRef taken := by
  have delivered : store.deliver delegate message = .ok after := by
    rcases called : callListener delegate message env with ⟨_ | _ | _, _⟩
    · simp only [serve, called] at served
      cases delivered : store.deliver delegate message with
      | ok => rw [delivered] at served; cases served; rfl
      | error err => rw [delivered] at served; cases served
    · simp only [serve, called] at served
      cases served
    · simp only [serve, called] at served
      cases served
  simp only [MessageStore.deliver] at delivered
  split at delivered
  · cases delivered
  · next held found =>
    split at delivered
    · next taken accepted =>
      obtain rfl := Except.ok.inj delivered
      exact ⟨held, taken, found, accepted, rfl⟩
    · cases delivered

/-- Serving a delegate does to the environment what its listener does, and ends well only
if the listener does. -/
theorem exec_of_serve {outcome : Outcome Unit}
    (served : serve message delegate (store, env) = (outcome, (after, env'))) :
    ∃ ended, Proc.each Hook.exec (hook? message delegate).toList env = (ended, env') ∧
      (outcome = .ok () → ended = .ok ()) := by
  unfold serve at served
  rcases called : callListener delegate message env with ⟨heard, left⟩
  simp only [called] at served
  have kept : env' = left ∧ (outcome = .ok () → heard = .ok ()) := by
    cases heard with
    | error err => cases served; exact ⟨rfl, id⟩
    | panic text => cases served; exact ⟨rfl, id⟩
    | ok =>
      cases delivered : store.deliver delegate message with
      | ok => rw [delivered] at served; cases served; exact ⟨rfl, id⟩
      | error err => rw [delivered] at served; cases served; exact ⟨rfl, fun _ => rfl⟩
  obtain ⟨rfl, fine⟩ := kept
  unfold callListener at called
  unfold hook?
  cases kind : delegate.kind with
  | listener callback =>
    rcases ran : Hook.exec (callback message) env with ⟨ended, worked⟩
    simp only [kind, Proc.mapError, ran, Prod.mk.injEq] at called
    obtain ⟨rfl, rfl⟩ := called
    refine ⟨ended, by rw [Option.toList_some, Proc.each_singleton, ran], fun ended_ok => ?_⟩
    cases ended <;> first | rfl | cases fine ended_ok
  | single =>
    rw [kind] at called
    cases called
    exact ⟨.ok (), rfl, fun _ => rfl⟩
  | multi =>
    rw [kind] at called
    cases called
    exact ⟨.ok (), rfl, fun _ => rfl⟩

theorem filterMap_hook?_cons (message : AnyMessage κ) (first : Delegate κ ω)
    (rest : List (Delegate κ ω)) :
    (first :: rest).filterMap (hook? message)
      = (hook? message first).toList ++ rest.filterMap (hook? message) := by
  cases heard : hook? message first <;> simp [heard]

/-- The call of a listener that ends well. -/
theorem callOf?_eq_goodCall?
    (fine : Proc.each Hook.exec (hook? message delegate).toList env = (.ok (), env')) :
    callOf? message delegate env = goodCall? message delegate := by
  unfold callOf? goodCall?
  cases heard : hook? message delegate with
  | none => rfl
  | some hook =>
    rw [heard, Option.toList_some, Proc.each_singleton] at fine
    rw [Option.map_some, fine, Option.map_some]

/-- When all delegates were served, all calls have ended well, and what has become of the
environment is what they have done to it one after the other. -/
theorem calls_of_each_serve
    (ran : Proc.each (serve message) delegates (store, env) = (.ok (), (after, env'))) :
    callsServing message delegates (store, env) = delegates.filterMap (goodCall? message) ∧
      Proc.each Hook.exec (delegates.filterMap (hook? message)) env = (.ok (), env') := by
  induction delegates generalizing store env with
  | nil => cases ran; exact ⟨rfl, rfl⟩
  | cons first rest ih =>
    obtain ⟨⟨served, mid⟩, start, later⟩ := Proc.each_cons_eq_ok.mp ran
    obtain ⟨ended, heard, fine⟩ := exec_of_serve start
    obtain rfl := fine rfl
    obtain ⟨calls, others⟩ := ih later
    constructor
    · unfold callsServing at calls ⊢
      rw [Proc.turns_cons_of_ok start, List.filterMap_cons, List.filterMap_cons, calls,
        callOf?_eq_goodCall? heard]
    · rw [filterMap_hook?_cons, Proc.each_append, Proc.andThen, heard]
      exact others

/-- Serving some delegates changes nothing in the slots of others. -/
theorem state?_each_serve {ref : SlotRef} (elsewhere : ref ∉ delegates.map Delegate.slotRef)
    (ran : Proc.each (serve message) delegates (store, env) = (.ok (), (after, env'))) :
    after.state? ref = store.state? ref := by
  induction delegates generalizing store env with
  | nil => cases ran; rfl
  | cons first rest ih =>
    obtain ⟨⟨served, mid⟩, start, later⟩ := Proc.each_cons_eq_ok.mp ran
    obtain ⟨held, taken, _, _, rfl⟩ := serve_ok start
    rw [List.map_cons, List.mem_cons, not_or] at elsewhere
    rw [ih elsewhere.2 later, MessageStore.state?_put, if_neg (Ne.symm elsewhere.1)]

/-- Serving some delegates puts one message into the slot of each. -/
theorem accept_each_serve (apart : (delegates.map Delegate.slotRef).Nodup)
    (among : delegate ∈ delegates)
    (ran : Proc.each (serve message) delegates (store, env) = (.ok (), (after, env'))) :
    ∃ event held taken, store.state? delegate.slotRef = some held ∧
      MessageStore.accept event delegate message held = .ok taken ∧
      after.state? delegate.slotRef = some taken := by
  induction delegates generalizing store env with
  | nil => cases among
  | cons first rest ih =>
    obtain ⟨⟨served, mid⟩, start, later⟩ := Proc.each_cons_eq_ok.mp ran
    obtain ⟨held, taken, found, accepted, rfl⟩ := serve_ok start
    obtain ⟨fresh, apart⟩ := List.nodup_cons.mp apart
    rcases List.mem_cons.mp among with rfl | among
    · refine ⟨store.event, held, taken, found, accepted, ?_⟩
      rw [state?_each_serve fresh later, MessageStore.state?_put, if_pos rfl, found]
      rfl
    · have elsewhere : first.slotRef ≠ delegate.slotRef := fun same =>
        fresh (same ▸ List.mem_map_of_mem among)
      obtain ⟨event, held, taken, found, accepted, last⟩ := ih apart among later
      rw [MessageStore.state?_put, if_neg elsewhere] at found
      exact ⟨event, held, taken, found, accepted, last⟩

/-! ## Who is served -/

variable [DecidableEq κ] {messenger : Messenger κ ω} {bonds : List (Bond κ ω)} {bond : Bond κ ω}

/-- The delegates that take a message are those that it concerns. -/
theorem Carries.accepting_perm (carries : Carries bonds messenger) (message : AnyMessage κ) :
    (messenger.accepting message).Perm
      ((bonds.filter fun bond => bond.Concerns message).map Bond.delegate) := by
  rw [accepting_eq]
  refine ((carries.carried message.kind).filter _).trans (.of_eq ?_)
  rw [List.filter_map, List.filter_filter]
  refine congrArg _ (List.filter_congr fun bond _ => ?_)
  rw [Bool.eq_iff_iff, decide_eq_true_iff, Bond.concerns_iff, Bool.and_eq_true,
    decide_eq_true_iff]
  exact ⟨fun ⟨accepts, same⟩ => ⟨same.symm, accepts⟩, fun ⟨same, accepts⟩ => ⟨accepts, same.symm⟩⟩

theorem Carries.mem_accepting_iff (carries : Carries bonds messenger) {message : AnyMessage κ}
    {delegate : Delegate κ ω} :
    delegate ∈ messenger.accepting message ↔
      ∃ bond ∈ bonds, bond.Concerns message ∧ bond.delegate = delegate := by
  simp only [(carries.accepting_perm message).mem_iff, List.mem_map, List.mem_filter,
    decide_eq_true_iff, and_assoc]

theorem Wired.nodup_accepting (wired : Wired bonds messenger) (message : AnyMessage κ) :
    ((messenger.accepting message).map Delegate.slotRef).Nodup := by
  have perm := (wired.toCarries.accepting_perm message).map Delegate.slotRef
  rw [perm.nodup_iff, List.map_map]
  exact wired.apart.sublist (List.filter_sublist.map _)

theorem Wired.mem_accepting (wired : Wired bonds messenger) {message : AnyMessage κ}
    (live : bond ∈ bonds) (concerns : bond.Concerns message) :
    bond.delegate ∈ messenger.accepting message :=
  wired.mem_accepting_iff.mpr ⟨bond, live, concerns, rfl⟩

theorem Wired.slot_notMem_accepting (wired : Wired bonds messenger) {message : AnyMessage κ}
    (live : bond ∈ bonds) (other : ¬ bond.Concerns message) :
    bond.slot ∉ (messenger.accepting message).map Delegate.slotRef := by
  intro used
  obtain ⟨delegate, accepts, same⟩ := List.mem_map.mp used
  obtain ⟨user, among, concerns, rfl⟩ := wired.mem_accepting_iff.mp accepts
  rw [List.inj_on_of_nodup_map wired.apart among live same] at concerns
  exact other concerns

/-! ## One dispatch -/

/-- The calls of listeners that a dispatch makes, in order. -/
def callsOf (messenger : Messenger κ ω) (message : AnyMessage κ)
    (state : MessageStore κ × Env ω) : List (ListenerCall κ ω) :=
  callsServing message (messenger.accepting message) state

/-- A dispatch serves those who take the message, until one of them can not be served.  If
all are, a record is added to the log. -/
theorem each_of_dispatch {source : Receiver} {outcome : Outcome Unit}
    (ran : messenger.dispatch source message (store, env) = (outcome, (after, env'))) :
    ∃ left, Proc.each (serve message) (messenger.accepting message) (store, env)
        = (outcome, (after, left)) ∧
      (outcome ≠ .ok () → env' = left) ∧
      (outcome = .ok () → ∃ text, Proc.log .trace text left = (.ok (), env')) := by
  unfold dispatch at ran
  split at ran
  · rcases worked : Proc.each (serve message) (messenger.accepting message) (store, env) with
      ⟨ended, mid, left⟩
    simp only [Proc.bind_apply, Proc.andThen, worked] at ran
    cases ended with
    | ok => cases ran; exact ⟨left, rfl, fun failed => absurd rfl failed, fun _ => ⟨_, rfl⟩⟩
    | error err => cases ran; exact ⟨_, rfl, fun _ => rfl, by simp⟩
    | panic text => cases ran; exact ⟨_, rfl, fun _ => rfl, by simp⟩
  · next unknown =>
    have nobody : messenger.accepting message = [] := by
      unfold accepting
      rw [Option.not_isSome_iff_eq_none.mp unknown]
    cases ran
    exact ⟨env, by rw [nobody]; rfl, fun failed => absurd rfl failed, fun _ => ⟨_, rfl⟩⟩

/-- A dispatch that succeeds puts a message into the slot of every bond that it
concerns. -/
theorem Wired.state?_dispatch (wired : Wired bonds messenger) {source : Receiver}
    (live : bond ∈ bonds) (concerns : bond.Concerns message) {taken : List (AnyMessage κ)}
    (held : store.state? bond.slot = some (bond.delegate.kind.slotKind.contents taken))
    (sent : messenger.dispatch source message (store, env) = (.ok (), (after, env'))) :
    after.state? bond.slot
        = some (bond.delegate.kind.slotKind.contents (taken ++ [message])) ∧
      (bond.delegate.kind.slotKind = .single → bond.delegate.flags.allowOverwrite = false →
        taken = []) := by
  obtain ⟨mid, ran, -⟩ := each_of_dispatch sent
  obtain ⟨event, before, last, found, accepted, final⟩ :=
    accept_each_serve (wired.nodup_accepting message) (wired.mem_accepting live concerns) ran
  obtain rfl := Option.some.inj (held.symm.trans found)
  obtain ⟨rfl, alone⟩ := MessageStore.accept_contents accepted
  exact ⟨final, alone⟩

/-- A dispatch that succeeds leaves the slots of all other bonds alone. -/
theorem Wired.state?_dispatch_of_not_concerns (wired : Wired bonds messenger)
    {source : Receiver} (live : bond ∈ bonds) (other : ¬ bond.Concerns message)
    (sent : messenger.dispatch source message (store, env) = (.ok (), (after, env'))) :
    after.state? bond.slot = store.state? bond.slot := by
  obtain ⟨mid, ran, -⟩ := each_of_dispatch sent
  exact state?_each_serve (wired.slot_notMem_accepting live other) ran

omit [DecidableEq κ] in
theorem filter_goodCall? (message : AnyMessage κ) (delegate : Delegate κ ω) (ref : SlotRef) :
    (goodCall? message delegate).filter (fun call => call.slot = ref)
      = if delegate.slotRef = ref then goodCall? message delegate else none := by
  unfold goodCall?
  cases hook? message delegate <;> simp [Option.filter]

/-- A dispatch that succeeds calls a listener once if the message concerns it, and then with
success; it does not call the listener otherwise. -/
theorem Wired.callsOf_dispatch (wired : Wired bonds messenger) {source : Receiver}
    (live : bond ∈ bonds) {callback : AnyMessage κ → Hook ω Unit}
    (listens : bond.delegate.kind = .listener callback)
    (sent : messenger.dispatch source message (store, env) = (.ok (), (after, env'))) :
    ((messenger.callsOf message (store, env)).filter fun call => call.slot = bond.slot)
      = if bond.Concerns message then [⟨bond.slot, message, callback message, .ok ()⟩] else [] := by
  obtain ⟨mid, ran, -⟩ := each_of_dispatch sent
  have mine : (messenger.callsOf message (store, env)).filter (fun call => call.slot = bond.slot)
      = ((messenger.accepting message).filter fun delegate =>
          delegate.slotRef = bond.slot).filterMap (goodCall? message) := by
    simp only [callsOf, (calls_of_each_serve ran).1, List.filter_filterMap, filter_goodCall?,
      List.filterMap_filter, decide_eq_true_eq]
  rw [mine]
  split
  · next concerns =>
    have alone := List.filter_key_eq_singleton (wired.nodup_accepting message)
      (wired.mem_accepting live concerns)
    change (messenger.accepting message).filter (fun delegate =>
      delegate.slotRef = bond.slot) = [bond.delegate] at alone
    have call : goodCall? message bond.delegate
        = some ⟨bond.slot, message, callback message, .ok ()⟩ := by
      rw [goodCall?, hook?, listens]
      rfl
    rw [alone, List.filterMap_cons, call]
    rfl
  · next other =>
    rw [List.filter_eq_nil_iff.mpr]
    · rfl
    · intro delegate among same
      exact wired.slot_notMem_accepting live other
        (of_decide_eq_true same ▸ List.mem_map_of_mem among)

/-- What a dispatch that succeeds does to the environment is what the listeners do that it
calls, one after the other, but for a record in the log. -/
theorem exec_of_dispatch {source : Receiver}
    (sent : messenger.dispatch source message (store, env) = (.ok (), (after, env'))) :
    ∃ left text,
      Proc.each Hook.exec ((messenger.callsOf message (store, env)).map ListenerCall.hook) env
        = (.ok (), left) ∧ Proc.log .trace text left = (.ok (), env') := by
  obtain ⟨left, ran, -, noted⟩ := each_of_dispatch sent
  obtain ⟨calls, heard⟩ := calls_of_each_serve ran
  obtain ⟨text, noted⟩ := noted rfl
  refine ⟨left, text, ?_, noted⟩
  rw [callsOf, calls, List.map_filterMap]
  simpa only [goodCall?, Option.map_map, Function.comp_def, Option.map_id'] using heard

/-! ## All dispatches of an event -/

/-- The states that follow from opening a store for an event, dispatching
messages into it and removing delegates: the bonds that are left, the messenger,
the store, the messages that were dispatched and the calls that listeners got,
both in order.  No delegate is bound after the store was opened, and a dispatch
counts if it succeeds. -/
inductive Dispatched (event : Nat) : List (Bond κ ω) → Messenger κ ω → MessageStore κ →
    List (AnyMessage κ) → List (ListenerCall κ ω) → Prop
  | opened {bonds : List (Bond κ ω)} {messenger : Messenger κ ω}
      (built : Built bonds messenger) :
      Dispatched event bonds messenger (messenger.newStore event) [] []
  | sent {bonds : List (Bond κ ω)} {messenger : Messenger κ ω} {store after : MessageStore κ}
      {earlier : List (AnyMessage κ)} {calls : List (ListenerCall κ ω)} {env' : Env ω}
      (before : Dispatched event bonds messenger store earlier calls)
      (source : Receiver) (message : AnyMessage κ) (env : Env ω)
      (sent : messenger.dispatch source message (store, env) = (.ok (), (after, env'))) :
      Dispatched event bonds messenger after (earlier ++ [message])
        (calls ++ messenger.callsOf message (store, env))
  | removed {bonds : List (Bond κ ω)} {messenger after : Messenger κ ω}
      {store : MessageStore κ} {earlier : List (AnyMessage κ)} {calls : List (ListenerCall κ ω)}
      {handle : DelegateHandle κ}
      (before : Dispatched event bonds messenger store earlier calls)
      (removed : messenger.remove handle = .ok after) :
      Dispatched event (bonds.filter fun bond => bond.handle ≠ handle) after store earlier calls
  | removedAll {bonds : List (Bond κ ω)} {messenger : Messenger κ ω}
      {store : MessageStore κ} {earlier : List (AnyMessage κ)} {calls : List (ListenerCall κ ω)}
      (before : Dispatched event bonds messenger store earlier calls) (owner : InstanceId) :
      Dispatched event (bonds.filter fun bond => bond.owner ≠ owner)
        (messenger.removeAll owner).2 store earlier calls

variable {event : Nat} {sent : List (AnyMessage κ)} {calls : List (ListenerCall κ ω)}

theorem Dispatched.wired (history : Dispatched event bonds messenger store sent calls) :
    Wired bonds messenger := by
  induction history with
  | opened built => exact built.wired
  | sent _ _ _ _ _ ih => exact ih
  | removed _ removed ih => exact ih.remove removed
  | removedAll _ owner ih => exact ih.removeAll owner

/-- The slot of a bond holds what follows from the messages that concern it. -/
theorem Dispatched.state?_slot (history : Dispatched event bonds messenger store sent calls)
    (live : bond ∈ bonds) :
    store.state? bond.slot
      = some (bond.delegate.kind.slotKind.contents (bond.addressed sent)) := by
  induction history with
  | opened built =>
    rw [state?_newStore, built.wired.shaped bond live]
    rfl
  | sent before source message env sent ih =>
    rw [Bond.addressed_concat]
    split
    · next concerns => exact (before.wired.state?_dispatch live concerns (ih live) sent).1
    · next other => rw [before.wired.state?_dispatch_of_not_concerns live other sent, ih live]
  | removed before removed ih => exact ih (List.mem_filter.mp live).1
  | removedAll before owner ih => exact ih (List.mem_filter.mp live).1

/-- A slot for one message that must not be overwritten took at most one. -/
theorem Dispatched.length_addressed_le
    (history : Dispatched event bonds messenger store sent calls) (live : bond ∈ bonds)
    (single : bond.delegate.kind.slotKind = .single)
    (strict : bond.delegate.flags.allowOverwrite = false) :
    (bond.addressed sent).length ≤ 1 := by
  induction history with
  | opened built => exact Nat.zero_le 1
  | sent before source message env sent ih =>
    rw [Bond.addressed_concat]
    split
    · next concerns =>
      have none := (before.wired.state?_dispatch live concerns (before.state?_slot live) sent).2
      rw [none single strict]
      exact Nat.le_refl 1
    · exact ih live
  | removed before removed ih => exact ih (List.mem_filter.mp live).1
  | removedAll before owner ih => exact ih (List.mem_filter.mp live).1

/-- The calls of a listener are one for each message that concerns it, and have all ended
well. -/
theorem Dispatched.filter_calls (history : Dispatched event bonds messenger store sent calls)
    (live : bond ∈ bonds) {callback : AnyMessage κ → Hook ω Unit}
    (listens : bond.delegate.kind = .listener callback) :
    (calls.filter fun call => call.slot = bond.slot)
      = (bond.addressed sent).map fun message =>
          ⟨bond.slot, message, callback message, .ok ()⟩ := by
  induction history with
  | opened built => rfl
  | sent before source message env sent ih =>
    rw [List.filter_append, ih live, before.wired.callsOf_dispatch live listens sent,
      Bond.addressed_concat]
    split
    · rw [List.map_append]
      rfl
    · exact List.append_nil _
  | removed before removed ih => exact ih (List.mem_filter.mp live).1
  | removedAll before owner ih => exact ih (List.mem_filter.mp live).1

end Messenger

namespace Bond

variable {κ ω : Type} [Payload κ] [DecidableEq κ]

theorem open?_of_mem_addressed {bond : Bond κ ω} {sent : List (AnyMessage κ)}
    {message : AnyMessage κ} (among : message ∈ bond.addressed sent) :
    (message.open? bond.kind).map (AnyMessage.mk bond.kind) = some message := by
  obtain ⟨kind, content⟩ := message
  obtain ⟨same, _⟩ := of_decide_eq_true (List.mem_filter.mp among).2
  obtain rfl : kind = bond.kind := same
  rw [AnyMessage.open?_self]
  rfl

end Bond

/-- A listener for a kind of payload gets the messages of that kind as they are. -/
theorem listenerFor_mk {κ ω : Type} [Payload κ] [DecidableEq κ] (receiverName : String)
    (kind : κ) (callback : Message κ kind → Hook ω Unit) (message : Message κ kind) :
    listenerFor receiverName kind callback ⟨kind, message⟩ = callback message := by
  simp [listenerFor]

namespace Messenger

variable {κ ω : Type} [Payload κ] [DecidableEq κ]

/-- **The slots hold the dispatch history.**  As long as a delegate is bound, its
slot for all messages holds those that concern it, in order; its slot for one
message holds the last of them, which is the only one unless overwriting is
allowed; and its listener was called once for each of them, in order, and has ended
well.  What a dispatch does to the world is what the listeners do that it calls, one
after the other. -/
theorem Dispatched.delivered {event : Nat} {bonds : List (Bond κ ω)}
    {messenger : Messenger κ ω} {store : MessageStore κ} {sent : List (AnyMessage κ)}
    {calls : List (ListenerCall κ ω)} {bond : Bond κ ω}
    (history : Dispatched event bonds messenger store sent calls) (live : bond ∈ bonds) :
    (match bond.delegate.kind with
    | .multi =>
        (store.multi (MultiSlot.mk bond.slot : MultiSlot κ bond.kind)).map
            (AnyMessage.mk bond.kind)
          = bond.addressed sent
    | .single =>
        (store.single (SingleSlot.mk bond.slot : SingleSlot κ bond.kind)).map
            (AnyMessage.mk bond.kind)
          = (bond.addressed sent).getLast? ∧
        (bond.delegate.flags.allowOverwrite = false → (bond.addressed sent).length ≤ 1)
    | .listener callback =>
        (calls.filter fun call => call.slot = bond.slot)
          = (bond.addressed sent).map fun message =>
              ⟨bond.slot, message, callback message, .ok ()⟩) ∧
    ∀ (source : Receiver) (message : AnyMessage κ) (env : Env ω) (after : MessageStore κ)
      (env' : Env ω),
      messenger.dispatch source message (store, env) = (.ok (), (after, env')) →
      Dispatched event bonds messenger after (sent ++ [message])
        (calls ++ messenger.callsOf message (store, env)) ∧
      ∃ left text,
        Proc.each Hook.exec ((messenger.callsOf message (store, env)).map ListenerCall.hook) env
          = (.ok (), left) ∧ Proc.log .trace text left = (.ok (), env') := by
  refine ⟨?_, fun source message env after env' ran =>
    ⟨history.sent source message env ran, exec_of_dispatch ran⟩⟩
  have held := history.state?_slot live
  have few := history.length_addressed_le live
  cases kind : bond.delegate.kind with
  | multi =>
    rw [kind] at held
    simp only [MessageStore.multi, held, DelegateKind.slotKind, SlotKind.contents,
      List.map_filterMap]
    exact (List.filterMap_congr fun message among => Bond.open?_of_mem_addressed among).trans
      List.filterMap_some
  | single =>
    rw [kind] at held few
    refine ⟨?_, few rfl⟩
    simp only [MessageStore.single, held, DelegateKind.slotKind, SlotKind.contents]
    cases last : (bond.addressed sent).getLast? with
    | none => rfl
    | some message => exact Bond.open?_of_mem_addressed (List.mem_of_getLast? last)
  | listener callback => exact history.filter_calls live kind

end Messenger

/-! ## A messenger to try things on -/

open Builtin

/-- A message without hits, for a detector. -/
def AnyMessage.hitless (serial : Nat) (detector : String) : AnyMessage PayloadKind :=
  ⟨.hits, ⟨⟨1, serial⟩, ([] : List PixelHit), some (.atOrigin detector "sensor")⟩⟩

/-- A display of the detector on the left. -/
def Receiver.leftDisplay : Receiver :=
  ⟨⟨0⟩, "display", some (.atOrigin "left" "sensor")⟩

/-- Its first bond, a slot that may be overwritten. -/
def Bond.shown : Bond PayloadKind Unit :=
  ⟨⟨.hits, "left", 0⟩, ⟨.leftDisplay, 0, .overwriting, .single⟩⟩

/-- Its second bond, a listener that ignores names. -/
def Bond.heard : Bond PayloadKind Unit :=
  ⟨⟨.hits, "left", 1⟩, ⟨.leftDisplay, 1, .anyName, .listener fun _ => .done ()⟩⟩

namespace Messenger

/-- The messenger with both bonds. -/
def displaying : Messenger PayloadKind Unit :=
  (empty.bind .leftDisplay PayloadKind.hits .overwriting .single).bind .leftDisplay .hits .anyName
    (.listener fun _ => .done ())

end Messenger

/-- The slot of a display that counts. -/
def Bond.counted : Bond PayloadKind Nat :=
  ⟨⟨.hits, "left", 0⟩, ⟨.leftDisplay, 0, .overwriting, .single⟩⟩

/-- Its listener, which ignores names and counts in the world. -/
def Bond.counting : Bond PayloadKind Nat :=
  ⟨⟨.hits, "left", 1⟩, ⟨.leftDisplay, 1, .anyName, .listener fun _ => .update Nat.succ⟩⟩

namespace Messenger

/-- The messenger with both bonds of the display that counts. -/
def counting : Messenger PayloadKind Nat :=
  (empty.bind .leftDisplay PayloadKind.hits .overwriting .single).bind .leftDisplay .hits .anyName
    (.listener fun _ => .update Nat.succ)

/-- Of two messages the slot holds the one for its own detector, and the listener was called
for both; a third message makes it count on from five to six. -/
theorem delivered_counting :
    ∃ store calls env',
      Dispatched 1 [.counted, .counting] counting store [.hitless 0 "left", .hitless 1 "right"]
        calls ∧
      (store.single (SingleSlot.mk Bond.counted.slot : SingleSlot PayloadKind .hits)).map
          (AnyMessage.mk PayloadKind.hits)
        = some (.hitless 0 "left") ∧
      (calls.filter fun call => call.slot = Bond.counting.slot)
        = [⟨Bond.counting.slot, .hitless 0 "left", .update Nat.succ, .ok ()⟩,
            ⟨Bond.counting.slot, .hitless 1 "right", .update Nat.succ, .ok ()⟩] ∧
      env'.world = 6 ∧ ∃ left text,
        Proc.each Hook.exec ((counting.callsOf (.hitless 2 "left") (store, ⟨5, .empty⟩)).map
          ListenerCall.hook) ⟨5, .empty⟩ = (.ok (), left) ∧
        Proc.log .trace text left = (.ok (), env') := by
  have built : Built [.counted, .counting] counting :=
    (Built.empty.bound .leftDisplay PayloadKind.hits .overwriting .single).bound .leftDisplay
      PayloadKind.hits .anyName (.listener fun _ => .update Nat.succ)
  obtain ⟨store, calls, after, env', history, ran, grown⟩ : ∃ store calls after env',
      Dispatched 1 [.counted, .counting] counting store [.hitless 0 "left", .hitless 1 "right"]
        calls ∧
      counting.dispatch .leftDisplay (.hitless 2 "left") (store, ⟨5, .empty⟩)
        = (.ok (), (after, env')) ∧ env'.world = 6 :=
    ⟨_, _, _, _, ((Dispatched.opened built).sent .leftDisplay (.hitless 0 "left") ⟨0, .empty⟩
      rfl).sent .leftDisplay (.hitless 1 "right") ⟨1, .empty⟩ rfl, rfl, rfl⟩
  obtain ⟨⟨held, -⟩, -⟩ := history.delivered (List.mem_cons_self (a := Bond.counted))
  obtain ⟨heard, onward⟩ :=
    history.delivered (List.mem_cons_of_mem _ (List.mem_singleton_self Bond.counting))
  exact ⟨store, calls, env', history, held, heard, grown, (onward _ _ _ _ _ ran).2⟩

end Messenger
end DetectorSim
