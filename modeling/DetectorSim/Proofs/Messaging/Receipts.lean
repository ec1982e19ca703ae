import DetectorSim.Proofs.Messaging.Delivery

/-!
# What dispatches leave, also when they fail

A dispatch can fail on its way: a slot that must not be overwritten refuses a second
message, a listener fails or panics.  Those that were served before keep what they
got.  So a store is told by its receipts: for every slot, the messages that it took
in, or for which its listener was called with success.
-/

set_option autoImplicit false

namespace DetectorSim

/-- That a delegate took a message. -/
structure Receipt (κ : Type) [Payload κ] where
  slot : SlotRef
  message : AnyMessage κ

/-- The messages that a slot has receipts for, in order. -/
def messagesAt {κ : Type} [Payload κ] (ref : SlotRef) (receipts : List (Receipt κ)) :
    List (AnyMessage κ) :=
  (receipts.filter fun receipt => receipt.slot = ref).map Receipt.message

theorem messagesAt_append {κ : Type} [Payload κ] (ref : SlotRef)
    (receipts others : List (Receipt κ)) :
    messagesAt ref (receipts ++ others) = messagesAt ref receipts ++ messagesAt ref others := by
  unfold messagesAt
  rw [List.filter_append, List.map_append]

theorem SlotKind.received_contents_iff {κ : Type} [Payload κ] {kind : SlotKind}
    {taken : List (AnyMessage κ)} : (kind.contents taken).received ↔ taken ≠ [] := by
  cases kind with
  | single => simp [SlotKind.contents, SlotState.received]
  | multi => simp [SlotKind.contents, SlotState.received]
  | listener => simp [SlotKind.contents, SlotState.received, List.length_pos_iff]

namespace Messenger

variable {κ ω : Type} [Payload κ]

/-- The receipt that a delegate gives: of a listener, if its call succeeds; of a slot,
if it takes the message in. -/
def receiptOf? (message : AnyMessage κ) (delegate : Delegate κ ω)
    (state : MessageStore κ × Env ω) : Option (Receipt κ) :=
  match delegate.kind with
  | .listener callback =>
      match Hook.exec (callback message) state.2 with
      | (.ok (), _) => some ⟨delegate.slotRef, message⟩
      | _ => none
  | _ =>
      match state.1.deliver delegate message with
      | .ok _ => some ⟨delegate.slotRef, message⟩
      | .error _ => none

/-- The receipts of some delegates that are served one after the other. -/
def receiptsOf (message : AnyMessage κ) (delegates : List (Delegate κ ω))
    (state : MessageStore κ × Env ω) : List (Receipt κ) :=
  (Proc.turns (serve message) delegates state).filterMap fun turn =>
    receiptOf? message turn.1 turn.2

/-! ## Serving one delegate -/

variable {message : AnyMessage κ} {delegate : Delegate κ ω} {delegates : List (Delegate κ ω)}
  {store after : MessageStore κ} {env env' : Env ω} {outcome : Outcome Unit}

/-- A receipt is for the slot of the delegate. -/
theorem slot_of_receiptOf? {receipt : Receipt κ}
    (given : receiptOf? message delegate (store, env) = some receipt) :
    receipt = ⟨delegate.slotRef, message⟩ := by
  unfold receiptOf? at given
  split at given
  · split at given <;> cases given
    rfl
  · split at given <;> cases given
    rfl

/-- A listener that fails gives no receipt. -/
theorem receiptOf?_of_call_failed {left : Env ω}
    (called : callListener delegate message env = (outcome, left)) (failed : outcome ≠ .ok ()) :
    receiptOf? message delegate (store, env) = none := by
  unfold callListener at called
  unfold receiptOf?
  cases kind : delegate.kind with
  | listener callback =>
    rcases ran : Hook.exec (callback message) env with ⟨ended, worked⟩
    simp only [kind, Proc.mapError, ran, Prod.mk.injEq] at called ⊢
    cases ended with
    | ok => exact absurd called.1.symm failed
    | error err => rfl
    | panic text => rfl
  | single => rw [kind] at called; cases called; exact absurd rfl failed
  | multi => rw [kind] at called; cases called; exact absurd rfl failed

/-- A delegate gives a receipt exactly if its listener, if it has one, succeeds and its
slot takes the message. -/
theorem receiptOf?_of_called {left : Env ω} {taken : List (AnyMessage κ)}
    (called : callListener delegate message env = (.ok (), left))
    (held : store.state? delegate.slotRef = some (delegate.kind.slotKind.contents taken)) :
    receiptOf? message delegate (store, env)
      = match store.deliver delegate message with
        | .ok _ => some ⟨delegate.slotRef, message⟩
        | .error _ => none := by
  unfold callListener at called
  unfold receiptOf?
  cases kind : delegate.kind with
  | listener callback =>
    rcases ran : Hook.exec (callback message) env with ⟨ended, worked⟩
    simp only [kind, Proc.mapError, ran, Prod.mk.injEq] at called ⊢
    rw [kind] at held
    cases ended with
    | ok =>
      have found : store.state? ⟨delegate.receiver.id, delegate.slot⟩
        = some (.listener taken.length) := held
      simp only [MessageStore.deliver, found, MessageStore.accept]
    | error err => cases called.1
    | panic text => cases called.1
  | single => rfl
  | multi => rfl

/-- A delegate that could not be served leaves the store as it was. -/
theorem store_of_serve_failed
    (served : serve message delegate (store, env) = (outcome, (after, env')))
    (failed : outcome ≠ .ok ()) : after = store := by
  unfold serve at served
  rcases called : callListener delegate message env with ⟨ended, left⟩
  simp only [called] at served
  cases ended with
  | error err => cases served; rfl
  | panic text => cases served; rfl
  | ok =>
    cases delivered : store.deliver delegate message with
    | ok filled =>
      simp only [delivered] at served
      cases served
      exact absurd rfl failed
    | error err =>
      simp only [delivered] at served
      cases served
      rfl

/-- Serving a delegate adds to its slot what it gives a receipt for. -/
theorem state?_serve_self {taken : List (AnyMessage κ)}
    (held : store.state? delegate.slotRef = some (delegate.kind.slotKind.contents taken))
    (served : serve message delegate (store, env) = (outcome, (after, env'))) :
    after.state? delegate.slotRef
      = some (delegate.kind.slotKind.contents
          (taken ++ messagesAt delegate.slotRef
            (receiptOf? message delegate (store, env)).toList)) := by
  unfold serve at served
  rcases called : callListener delegate message env with ⟨ended, left⟩
  simp only [called] at served
  cases ended with
  | error err =>
    cases served
    rw [receiptOf?_of_call_failed called (by simp), held]
    simp [messagesAt]
  | panic text =>
    cases served
    rw [receiptOf?_of_call_failed called (by simp), held]
    simp [messagesAt]
  | ok =>
    rw [receiptOf?_of_called called held]
    have found : store.state? ⟨delegate.receiver.id, delegate.slot⟩
      = some (delegate.kind.slotKind.contents taken) := held
    simp only [MessageStore.deliver, found] at served ⊢
    cases accepted : MessageStore.accept store.event delegate message
        (delegate.kind.slotKind.contents taken) with
    | error err =>
      simp only [accepted] at served ⊢
      cases served
      rw [held]
      simp [messagesAt]
    | ok filled =>
      simp only [accepted] at served ⊢
      cases served
      obtain ⟨rfl, -⟩ := MessageStore.accept_contents accepted
      change (store.put delegate.slotRef _).state? delegate.slotRef = _
      rw [MessageStore.state?_put, if_pos rfl, held]
      simp [messagesAt]

/-- Serving a delegate changes no slot but its own. -/
theorem state?_serve_of_ne {ref : SlotRef} (other : delegate.slotRef ≠ ref)
    (served : serve message delegate (store, env) = (outcome, (after, env'))) :
    after.state? ref = store.state? ref := by
  cases outcome with
  | ok =>
    obtain ⟨held, taken, -, -, rfl⟩ := serve_ok served
    rw [MessageStore.state?_put, if_neg other]
  | error err => rw [store_of_serve_failed served (by simp)]
  | panic text => rw [store_of_serve_failed served (by simp)]

/-- What serving any delegate adds to the slot of another, or to its own. -/
theorem state?_serve_eq {first : Delegate κ ω} {taken : List (AnyMessage κ)}
    (alone : first.slotRef = delegate.slotRef → first = delegate)
    (held : store.state? delegate.slotRef = some (delegate.kind.slotKind.contents taken))
    (served : serve message first (store, env) = (outcome, (after, env'))) :
    after.state? delegate.slotRef
      = some (delegate.kind.slotKind.contents
          (taken ++ messagesAt delegate.slotRef
            (receiptOf? message first (store, env)).toList)) := by
  by_cases same : first.slotRef = delegate.slotRef
  · obtain rfl := alone same
    exact state?_serve_self held served
  · rw [state?_serve_of_ne same served, held]
    cases given : receiptOf? message first (store, env) with
    | none => simp [messagesAt]
    | some receipt =>
      obtain rfl := slot_of_receiptOf? given
      simp [messagesAt, same]

/-! ## Serving some delegates -/

/-- The delegates after one that fails give no receipts. -/
theorem receiptsOf_cons {first : Delegate κ ω}
    (served : serve message first (store, env) = (outcome, (after, env'))) :
    receiptsOf message (first :: delegates) (store, env)
      = (receiptOf? message first (store, env)).toList
        ++ if outcome = .ok () then receiptsOf message delegates (after, env') else [] := by
  simp only [receiptsOf, Proc.turns, served, List.filterMap_cons]
  cases outcome <;> cases receiptOf? message first (store, env) <;> rfl

/-- Serving some delegates adds to a slot what its delegate gives receipts for. -/
theorem state?_each_serve_eq {taken : List (AnyMessage κ)}
    (alone : ∀ other ∈ delegates, other.slotRef = delegate.slotRef → other = delegate)
    (held : store.state? delegate.slotRef = some (delegate.kind.slotKind.contents taken))
    (ran : Proc.each (serve message) delegates (store, env) = (outcome, (after, env'))) :
    after.state? delegate.slotRef
      = some (delegate.kind.slotKind.contents
          (taken ++ messagesAt delegate.slotRef (receiptsOf message delegates (store, env)))) := by
  induction delegates generalizing store env taken with
  | nil =>
    cases ran
    simpa [receiptsOf, Proc.turns, messagesAt] using held
  | cons first rest ih =>
    obtain ⟨here, others⟩ := List.forall_mem_cons.mp alone
    rcases served : serve message first (store, env) with ⟨ended, mid, left⟩
    have step := state?_serve_eq here held served
    rw [receiptsOf_cons served, messagesAt_append, ← List.append_assoc]
    simp only [Proc.each, Proc.andThen, served] at ran
    cases ended with
    | ok => exact ih others step ran
    | error err =>
      cases ran
      simpa [messagesAt] using step
    | panic text =>
      cases ran
      simpa [messagesAt] using step

/-! ## All dispatches of an event -/

variable [DecidableEq κ] {messenger : Messenger κ ω} {bonds : List (Bond κ ω)} {bond : Bond κ ω}

/-- The states that follow from opening a store for an event, dispatching messages
into it with any outcome and removing delegates: the bonds that are left, the
messenger, the store and the receipts that were given.  No delegate is bound after the
store was opened. -/
inductive Posted (event : Nat) : List (Bond κ ω) → Messenger κ ω → MessageStore κ →
    List (Receipt κ) → Prop
  | opened {bonds : List (Bond κ ω)} {messenger : Messenger κ ω}
      (built : Built bonds messenger) :
      Posted event bonds messenger (messenger.newStore event) []
  | dispatched {bonds : List (Bond κ ω)} {messenger : Messenger κ ω}
      {store after : MessageStore κ} {receipts : List (Receipt κ)} {outcome : Outcome Unit}
      {env' : Env ω} (before : Posted event bonds messenger store receipts)
      (source : Receiver) (message : AnyMessage κ) (env : Env ω)
      (ran : messenger.dispatch source message (store, env) = (outcome, (after, env'))) :
      Posted event bonds messenger after
        (receipts ++ receiptsOf message (messenger.accepting message) (store, env))
  | removed {bonds : List (Bond κ ω)} {messenger after : Messenger κ ω}
      {store : MessageStore κ} {receipts : List (Receipt κ)} {handle : DelegateHandle κ}
      (before : Posted event bonds messenger store receipts)
      (removed : messenger.remove handle = .ok after) :
      Posted event (bonds.filter fun bond => bond.handle ≠ handle) after store receipts
  | removedAll {bonds : List (Bond κ ω)} {messenger : Messenger κ ω}
      {store : MessageStore κ} {receipts : List (Receipt κ)}
      (before : Posted event bonds messenger store receipts) (owner : InstanceId) :
      Posted event (bonds.filter fun bond => bond.owner ≠ owner)
        (messenger.removeAll owner).2 store receipts

variable {event : Nat} {receipts : List (Receipt κ)}

theorem Posted.wired (history : Posted event bonds messenger store receipts) :
    Wired bonds messenger := by
  induction history with
  | opened built => exact built.wired
  | dispatched _ _ _ _ _ ih => exact ih
  | removed _ removed ih => exact ih.remove removed
  | removedAll _ owner ih => exact ih.removeAll owner

/-- No two delegates that take a message share a slot. -/
theorem Wired.eq_of_slotRef_eq (wired : Wired bonds messenger) (live : bond ∈ bonds)
    {message : AnyMessage κ} {other : Delegate κ ω} (among : other ∈ messenger.accepting message)
    (same : other.slotRef = bond.slot) : other = bond.delegate := by
  obtain ⟨user, there, -, rfl⟩ := wired.mem_accepting_iff.mp among
  rw [List.inj_on_of_nodup_map wired.apart there live same]

/-- The slot of a bond holds what there are receipts for. -/
theorem Posted.state?_slot (history : Posted event bonds messenger store receipts)
    (live : bond ∈ bonds) :
    store.state? bond.slot
      = some (bond.delegate.kind.slotKind.contents (messagesAt bond.slot receipts)) := by
  induction history with
  | opened built =>
    rw [state?_newStore, built.wired.shaped bond live]
    rfl
  | dispatched before source message env ran ih =>
    obtain ⟨left, worked, -⟩ := each_of_dispatch ran
    rw [messagesAt_append]
    exact state?_each_serve_eq (fun other among same =>
      before.wired.eq_of_slotRef_eq live among same) (ih live) worked
  | removed before removed ih => exact ih (List.mem_filter.mp live).1
  | removedAll before owner ih => exact ih (List.mem_filter.mp live).1

/-- A slot counts as filled exactly if there is a receipt for it. -/
theorem Posted.received_iff (history : Posted event bonds messenger store receipts)
    (live : bond ∈ bonds) :
    store.received bond.slot ↔ ∃ receipt ∈ receipts, receipt.slot = bond.slot := by
  have filled : store.received bond.slot ↔ messagesAt bond.slot receipts ≠ [] := by
    unfold MessageStore.received
    rw [history.state?_slot live]
    exact SlotKind.received_contents_iff
  rw [filled, messagesAt, Ne, List.map_eq_nil_iff, List.filter_eq_nil_iff]
  simp

end Messenger
end DetectorSim
