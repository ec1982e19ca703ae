import DetectorSim.Module.Basic
import DetectorSim.Proofs.Messaging.Wiring

/-!
# What a factory binds

A factory can do nothing to the messenger but bind delegates for its own
instance.  The bonds that it makes are read off its code as it runs, and the
messenger that it leaves holds them behind those from before, whether the factory
succeeds or not.
-/

set_option autoImplicit false

namespace DetectorSim

namespace Messenger

variable {κ ω : Type} [Payload κ] [DecidableEq κ]

/-- Every instance has the slots and handles of its bonds, in order, and no
others.  Unlike `Wired`, this fails once a delegate was removed by its handle. -/
structure Trim (bonds : List (Bond κ ω)) (messenger : Messenger κ ω) : Prop
    extends Wired bonds messenger where
  slots (owner : InstanceId) : (messenger.layouts.find? owner).getD []
    = (bonds.filter fun bond => bond.owner = owner).map Bond.layout
  handles (owner : InstanceId) : messenger.handlesOf owner
    = (bonds.filter fun bond => bond.owner = owner).map Bond.handle

variable {bonds : List (Bond κ ω)} {messenger : Messenger κ ω}

theorem Trim.empty : Trim [] (Messenger.empty : Messenger κ ω) where
  toWired := .empty
  slots _ := rfl
  handles _ := rfl

theorem Trim.bind (trim : Trim bonds messenger) (receiver : Receiver) (kind : κ)
    (flags : MessageFlags) (delegateKind : DelegateKind κ ω) :
    Trim (bonds ++ [messenger.nextBond receiver kind flags delegateKind])
      (messenger.bind receiver kind flags delegateKind) where
  toWired := trim.toWired.bind receiver kind flags delegateKind
  slots owner := by
    simp only [Messenger.bind, Table.find?_alter]
    by_cases mine : receiver.id = owner
    · subst mine
      simp [trim.slots]
    · simp [mine, trim.slots]
  handles owner := by
    rw [handlesOf_bind]
    by_cases mine : receiver.id = owner
    · subst mine
      simp [trim.handles]
    · simp [mine, trim.handles]

theorem Trim.removeAll (trim : Trim bonds messenger) (owner : InstanceId) :
    Trim (bonds.filter fun bond => bond.owner ≠ owner) (messenger.removeAll owner).2 where
  toWired := trim.toWired.removeAll owner
  slots other := by
    simp only [Messenger.removeAll, Table.find?_erase, (clearAll_views _ _).2, List.filter_filter]
    split
    · next mine => simp [mine]
    · next apart =>
      rw [trim.slots]
      refine congrArg _ (List.filter_congr fun bond _ => ?_)
      by_cases same : bond.owner = other <;> simp [same, Ne.symm apart]
  handles other := by
    rw [handlesOf_removeAll, List.filter_filter]
    split
    · next mine => simp [mine]
    · next apart =>
      rw [trim.handles]
      refine congrArg _ (List.filter_congr fun bond _ => ?_)
      by_cases same : bond.owner = other <;> simp [same, Ne.symm apart]

end Messenger

/-! ## The code of a factory -/

namespace FactoryOp

variable {κ ω : Type} [Payload κ] [DecidableEq κ]

/-- The bond that an operation makes. -/
def bond? (receiver : Receiver) (messenger : Messenger κ ω) :
    FactoryOp κ ω → Option (Bond κ ω)
  | .hook _ => none
  | .bindSingle kind flags => some (messenger.nextBond receiver kind flags .single)
  | .bindMulti kind flags => some (messenger.nextBond receiver kind flags .multi)
  | .listen kind flags callback =>
      some (messenger.nextBond receiver kind flags
        (.listener (listenerFor receiver.name kind callback)))

theorem receiver_of_bond? {receiver : Receiver} {messenger : Messenger κ ω}
    {op : FactoryOp κ ω} {bond : Bond κ ω} (made : op.bond? receiver messenger = some bond) :
    bond.delegate.receiver = receiver := by
  cases op <;> cases made <;> rfl

/-- An operation succeeds and makes its bond. -/
theorem perform_trim {bonds : List (Bond κ ω)} {messenger : Messenger κ ω}
    (trim : Messenger.Trim bonds messenger) (receiver : Receiver) (op : FactoryOp κ ω)
    (env : Env ω) :
    ∃ reply after env', op.perform receiver (messenger, env) = (.ok reply, (after, env')) ∧
      Messenger.Trim (bonds ++ (op.bond? receiver messenger).toList) after := by
  cases op with
  | hook op =>
    have trim : Messenger.Trim (bonds ++ []) messenger := by rwa [List.append_nil]
    cases op <;> exact ⟨_, _, _, rfl, trim⟩
  | bindSingle kind flags => exact ⟨_, _, _, rfl, trim.bind receiver kind flags .single⟩
  | bindMulti kind flags => exact ⟨_, _, _, rfl, trim.bind receiver kind flags .multi⟩
  | listen kind flags callback =>
    exact ⟨_, _, _, rfl, trim.bind receiver kind flags _⟩

end FactoryOp

namespace Construction

variable {κ ω α : Type} [Payload κ] [DecidableEq κ]

/-- The bonds that the code of a factory makes, in order. -/
def bonds (receiver : Receiver) :
    Construction κ ω α → Messenger κ ω × Env ω → List (Bond κ ω)
  | .done _, _ => []
  | .fail _, _ => []
  | .panic _, _ => []
  | .ask op next, state =>
      (op.bond? receiver state.1).toList ++
        match op.perform receiver state with
        | (.ok reply, after) => bonds receiver (next reply) after
        | _ => []

variable {receiver : Receiver} {code : Construction κ ω α}

theorem receiver_of_mem_bonds {state : Messenger κ ω × Env ω} {bond : Bond κ ω}
    (made : bond ∈ code.bonds receiver state) : bond.delegate.receiver = receiver := by
  induction code generalizing state with
  | done value => cases made
  | fail err => cases made
  | panic text => cases made
  | ask op next ih =>
    rw [bonds, List.mem_append] at made
    rcases made with first | later
    · exact FactoryOp.receiver_of_bond? (Option.mem_toList.mp first)
    · split at later
      · exact ih _ later
      · cases later

/-- However a factory ends, the messenger holds its bonds behind those from
before. -/
theorem exec_trim {bonds : List (Bond κ ω)} {messenger after : Messenger κ ω}
    {env left : Env ω} {outcome : Outcome α} (trim : Messenger.Trim bonds messenger)
    (ran : code.exec receiver (messenger, env) = (outcome, (after, left))) :
    Messenger.Trim (bonds ++ code.bonds receiver (messenger, env)) after := by
  induction code generalizing bonds messenger env with
  | done value =>
    cases ran
    rwa [Construction.bonds, List.append_nil]
  | fail err =>
    cases ran
    rwa [Construction.bonds, List.append_nil]
  | panic text =>
    cases ran
    rwa [Construction.bonds, List.append_nil]
  | ask op next ih =>
    obtain ⟨reply, mid, worked, performed, trim⟩ := FactoryOp.perform_trim trim receiver op env
    simp only [exec, Routine.run, performed] at ran
    simp only [Construction.bonds, performed]
    rw [← List.append_assoc]
    exact ih reply trim ran

end Construction

/-! ## Factories that bind one slot -/

namespace Construction

variable {κ ω α : Type} [Payload κ] [DecidableEq κ] {receiver : Receiver}
  {read : Except Error α} {messenger : Messenger κ ω} {env : Env ω} {module : Module κ ω}

/-- A factory that reads its settings and binds nothing. -/
theorem of_unbound {make : α → Module κ ω}
    (made : (Construction.exec receiver (Routine.ofExcept read >>= fun settings =>
      (return make settings : Construction κ ω (Module κ ω))) (messenger, env)).1 = .ok module) :
    ∃ settings, module = make settings ∧
      Construction.bonds receiver (Routine.ofExcept read >>= fun settings =>
        (return make settings : Construction κ ω (Module κ ω))) (messenger, env) = [] := by
  cases read with
  | error err => cases made
  | ok settings => exact ⟨settings, (Outcome.ok.inj made).symm, rfl⟩

/-- A factory that reads its settings and binds a slot for one message. -/
theorem of_bindSingle {kind : κ} {flags : MessageFlags} {make : α → SingleSlot κ kind → Module κ ω}
    (made : (Construction.exec receiver (Routine.ofExcept read >>= fun settings => do
      let slot ← bindSingle kind flags
      return make settings slot) (messenger, env)).1 = .ok module) :
    ∃ settings, ∃ bond : Bond κ ω, bond = messenger.nextBond receiver kind flags .single ∧
      module = make settings ⟨bond.slot⟩ ∧
      Construction.bonds receiver (Routine.ofExcept read >>= fun settings => do
        let slot ← bindSingle kind flags
        return make settings slot) (messenger, env) = [bond] := by
  cases read with
  | error err => cases made
  | ok settings => exact ⟨settings, _, rfl, (Outcome.ok.inj made).symm, rfl⟩

/-- A factory that reads its settings and binds a slot for all messages. -/
theorem of_bindMulti {kind : κ} {flags : MessageFlags} {make : α → MultiSlot κ kind → Module κ ω}
    (made : (Construction.exec receiver (Routine.ofExcept read >>= fun settings => do
      let slot ← bindMulti kind flags
      return make settings slot) (messenger, env)).1 = .ok module) :
    ∃ settings, ∃ bond : Bond κ ω, bond = messenger.nextBond receiver kind flags .multi ∧
      module = make settings ⟨bond.slot⟩ ∧
      Construction.bonds receiver (Routine.ofExcept read >>= fun settings => do
        let slot ← bindMulti kind flags
        return make settings slot) (messenger, env) = [bond] := by
  cases read with
  | error err => cases made
  | ok settings => exact ⟨settings, _, rfl, (Outcome.ok.inj made).symm, rfl⟩

end Construction

end DetectorSim
