import DetectorSim.Module.Instance
import DetectorSim.Proofs.Messaging.Receipts

/-!
# Required inputs

An instance is run in an event only if all its required inputs got a message.  What
is required is read from the shapes of its slots, what was delivered goes by the
delegates; here it is shown that both agree, however the delegates were bound and
removed and however the dispatches ended.
-/

set_option autoImplicit false

namespace DetectorSim

theorem MessageFlags.contains_requiredInput (flags : MessageFlags) :
    flags.contains .requiredInput = flags.required := by
  simp [MessageFlags.contains, MessageFlags.requiredInput]

namespace Messenger

variable {κ ω : Type} [Payload κ] [DecidableEq κ] {messenger : Messenger κ ω}
  {bonds : List (Bond κ ω)} {store : MessageStore κ} {owner : InstanceId}

/-- No required input of an instance is missing exactly if the slots of its required
bonds got something. -/
theorem Wired.missingRequired_eq_nil_iff (wired : Wired bonds messenger) :
    messenger.missingRequired owner store = [] ↔
      ∀ bond ∈ bonds, bond.owner = owner → bond.delegate.flags.required →
        store.received bond.slot := by
  have missing : messenger.missingRequired owner store = [] ↔
      ∀ index layout, messenger.layout? ⟨owner, index⟩ = some layout → layout.active →
        layout.flags.required → store.received ⟨owner, index⟩ := by
    unfold missingRequired layout?
    simp only [List.filterMap_eq_nil_iff, Prod.forall, List.mem_zipIdx_iff_getElem?]
    cases messenger.layouts.find? owner with
    | none => simp
    | some slots =>
      simp only [Option.getD_some, Option.bind_some, MessageFlags.contains_requiredInput]
      rw [forall_comm]
      refine forall_congr' fun index => forall_congr' fun layout => imp_congr_right fun _ => ?_
      cases layout.active <;> cases layout.flags.required <;>
        cases store.received ⟨owner, index⟩ <;> simp
  rw [missing]
  constructor
  · rintro all bond live rfl required
    exact all _ _ (wired.shaped bond live) rfl required
  · intro all index layout found active required
    obtain ⟨bond, live, same⟩ := List.mem_map.mp (wired.active _ layout found active)
    have shape := wired.shaped bond live
    rw [same, found] at shape
    obtain rfl := Option.some.inj shape
    rw [← same]
    exact all bond live (congrArg SlotRef.owner same) required

end Messenger

/-- Every required bond of an instance has a receipt. -/
def Supplied {κ ω : Type} [Payload κ] (bonds : List (Bond κ ω)) (receipts : List (Receipt κ))
    (owner : InstanceId) : Prop :=
  ∀ bond ∈ bonds, bond.owner = owner → bond.delegate.flags.required →
    ∃ receipt ∈ receipts, receipt.slot = bond.slot

namespace Instance

variable {κ ω : Type} [Payload κ] [DecidableEq κ]

/-- The call of the code of an instance in an event. -/
def called (inst : Instance κ ω) (messenger : Messenger κ ω) : Proc (EventState κ ω) Bool := do
  inst.call "R" .run (EventCode.exec messenger inst.receiver inst.module.run)
  return true

variable {inst : Instance κ ω} {messenger : Messenger κ ω} {state : EventState κ ω}

/-- A call of the code never ends like a skip. -/
theorem fst_called_ne (inst : Instance κ ω) (messenger : Messenger κ ω)
    (state : EventState κ ω) : (inst.called messenger state).1 ≠ .ok false := by
  unfold called
  rw [Proc.bind_apply]
  unfold Proc.andThen
  generalize inst.call "R" .run _ state = result
  obtain ⟨outcome, after⟩ := result
  cases outcome <;> simp

theorem runEvent_of_missing_eq_nil
    (none_missing : messenger.missingRequired inst.receiver.id state.data.store = []) :
    inst.runEvent messenger state = inst.called messenger state := by
  unfold runEvent called
  rw [none_missing]

/-- An instance that is skipped ends well and writes to the log, and does nothing
else. -/
theorem exists_of_missing_ne_nil
    (missing : messenger.missingRequired inst.receiver.id state.data.store ≠ []) :
    ∃ text, inst.runEvent messenger state
      = (.ok false, { state with
          env := { state.env with journal := state.env.journal.write .debug text } }) := by
  unfold runEvent
  split
  · next none_missing => exact absurd none_missing missing
  · exact ⟨_, rfl⟩

/-- The code of an instance is called exactly if no required input is missing. -/
theorem runEvent_eq_called_iff :
    inst.runEvent messenger state = inst.called messenger state ↔
      messenger.missingRequired inst.receiver.id state.data.store = [] := by
  refine ⟨fun same => by_contra fun missing => ?_, runEvent_of_missing_eq_nil⟩
  obtain ⟨text, skipped⟩ := exists_of_missing_ne_nil missing
  exact inst.fst_called_ne messenger state (by rw [← same, skipped])

end Instance

namespace Messenger

variable {κ ω : Type} [Payload κ] [DecidableEq κ] {messenger : Messenger κ ω}
  {bonds : List (Bond κ ω)} {receipts : List (Receipt κ)} {event : Nat}
  {inst : Instance κ ω} {state : EventState κ ω}

theorem Posted.called_iff (history : Posted event bonds messenger state.data.store receipts) :
    inst.runEvent messenger state = inst.called messenger state ↔
      Supplied bonds receipts inst.receiver.id := by
  rw [Instance.runEvent_eq_called_iff, history.wired.missingRequired_eq_nil_iff]
  exact forall_congr' fun bond => forall_congr' fun live => forall_congr' fun _ =>
    imp_congr_right fun _ => history.received_iff live

/-- **Required inputs.**  Whatever was bound, removed and dispatched, with any outcome:
the code of an instance is called in an event exactly if each of its bonds that are
required has a receipt.  Otherwise the instance is skipped: nothing of the event and
of the world changes, and it is counted as skipped.  A bond that was removed requires
nothing any more, and bonds of other instances never do. -/
theorem Posted.gated (history : Posted event bonds messenger state.data.store receipts)
    (inst : Instance κ ω) :
    (inst.runEvent messenger state = inst.called messenger state ↔
      Supplied bonds receipts inst.receiver.id) ∧
    (¬ Supplied bonds receipts inst.receiver.id →
      ∃ after : EventState κ ω, after.data = state.data ∧ after.env.world = state.env.world ∧
        inst.runEvent messenger state = (.ok false, after) ∧
        ∀ index tallies, inst.offer messenger index (tallies, state)
          = (.ok (), (tallies.modify index fun tally =>
              { tally with skipped := tally.skipped + 1 }, after))) ∧
    (∀ {handle after}, messenger.remove handle = .ok after →
      (inst.runEvent after state = inst.called after state ↔
        Supplied (bonds.filter fun bond => bond.handle ≠ handle) receipts inst.receiver.id)) ∧
    ∀ owner, inst.runEvent (messenger.removeAll owner).2 state
        = inst.called (messenger.removeAll owner).2 state ↔
      owner = inst.receiver.id ∨ Supplied bonds receipts inst.receiver.id := by
  refine ⟨history.called_iff, fun lacking => ?_,
    fun removed => (history.removed removed).called_iff, fun owner => ?_⟩
  · have missing : messenger.missingRequired inst.receiver.id state.data.store ≠ [] := by
      rwa [Ne, ← Instance.runEvent_eq_called_iff, history.called_iff]
    obtain ⟨text, skipped⟩ := Instance.exists_of_missing_ne_nil missing
    refine ⟨{ state with env := { state.env with journal := state.env.journal.write .debug text } },
      rfl, rfl, skipped, fun index tallies => ?_⟩
    simp only [Instance.offer, skipped]
    rfl
  · rw [(history.removedAll owner).called_iff]
    constructor
    · refine fun supplied => or_iff_not_imp_left.mpr fun other bond live mine => ?_
      exact supplied bond (List.mem_filter.mpr ⟨live, by simpa [mine] using Ne.symm other⟩) mine
    · rintro (rfl | supplied) bond kept mine
      · exact absurd mine (of_decide_eq_true (List.mem_filter.mp kept).2)
      · exact supplied bond (List.mem_filter.mp kept).1 mine

end Messenger

/-! ## A messenger to try things on -/

open Builtin

/-- A bond that is required, a slot for one message. -/
def Bond.needed : Bond PayloadKind Unit :=
  ⟨⟨.hits, "left", 0⟩, ⟨.leftDisplay, 0, .requiredInput, .single⟩⟩

/-- A bond that is required, a listener that fails. -/
def Bond.failing : Bond PayloadKind Unit :=
  ⟨⟨.hits, "left", 1⟩,
    ⟨.leftDisplay, 1, .requiredInput, .listener fun _ => .fail (.runtime "refused")⟩⟩

/-- The display that both belong to. -/
def Instance.leftDisplay : Instance PayloadKind Unit :=
  ⟨⟨"Display", "left", .name⟩, .leftDisplay, .idle⟩

namespace Messenger

/-- The messenger with both bonds. -/
def demanding : Messenger PayloadKind Unit :=
  (empty.bind .leftDisplay PayloadKind.hits .requiredInput .single).bind .leftDisplay .hits
    .requiredInput (.listener fun _ => .fail (.runtime "refused"))

/-- What the display finds after a message was dispatched to it. -/
def demandedState : EventState PayloadKind Unit :=
  ⟨⟨(demanding.dispatch .leftDisplay (.hitless 0 "left")
      (demanding.newStore 1, ⟨(), .empty⟩)).2.1, ⟨fun _ => 0, 0⟩, .start 1⟩, ⟨(), .empty⟩⟩

/-- A message that only the slot has taken does not do while the listener is required,
and does once the listener is removed. -/
theorem gated_demanding :
    ∃ receipts after, Posted 1 [.needed, .failing] demanding demandedState.data.store receipts ∧
      (Instance.leftDisplay.runEvent demanding demandedState).1 = .ok false ∧
      demanding.remove Bond.failing.handle = .ok after ∧
      Instance.leftDisplay.runEvent after demandedState
        = Instance.leftDisplay.called after demandedState := by
  have built : Built [.needed, .failing] demanding :=
    (Built.empty.bound .leftDisplay PayloadKind.hits .requiredInput .single).bound .leftDisplay
      PayloadKind.hits .requiredInput (.listener fun _ => .fail (.runtime "refused"))
  obtain ⟨receipts, history, slots⟩ : ∃ receipts,
      Posted 1 [.needed, .failing] demanding demandedState.data.store receipts ∧
        receipts.map Receipt.slot = [Bond.needed.slot] :=
    ⟨_, (Posted.opened built).dispatched .leftDisplay (.hitless 0 "left") ⟨(), .empty⟩ rfl, rfl⟩
  obtain ⟨after, removed⟩ : ∃ after, demanding.remove Bond.failing.handle = .ok after := ⟨_, rfl⟩
  obtain ⟨-, skips, still, -⟩ := history.gated .leftDisplay
  refine ⟨receipts, after, history, ?_, removed, (still removed).mpr ?_⟩
  · obtain ⟨_, -, -, skipped, -⟩ := skips fun supplied => by
      obtain ⟨receipt, given, same⟩ := supplied Bond.failing (by simp) rfl rfl
      have among := List.mem_map_of_mem (f := Receipt.slot) given
      rw [slots, same] at among
      simp [Bond.needed, Bond.failing, Bond.slot, Delegate.slotRef] at among
    rw [skipped]
  · intro bond kept _ _
    obtain ⟨live, stays⟩ := List.mem_filter.mp kept
    have first : bond = .needed := by
      rcases List.mem_cons.mp live with rfl | live
      · rfl
      · exact absurd (congrArg Bond.handle (List.mem_singleton.mp live)) (of_decide_eq_true stays)
    have among : Bond.needed.slot ∈ receipts.map Receipt.slot := by
      rw [slots]
      exact List.mem_singleton_self _
    obtain ⟨receipt, given, same⟩ := List.mem_map.mp among
    exact ⟨receipt, given, first ▸ same⟩

end Messenger

end DetectorSim
