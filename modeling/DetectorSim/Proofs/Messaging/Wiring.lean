import DetectorSim.Proofs.Keyed
import DetectorSim.Proofs.Messaging.Places

/-!
# What a messenger holds

A bond is a delegate together with the handle that was given out for it.  The
bonds that were made and not undone are recorded beside a messenger while it is
built by binding and removing.  `Wired` says how its three tables agree with
this record: every bond has its place, its slot and its owner, and nothing else
has one.
-/

set_option autoImplicit false

namespace DetectorSim

/-- The slot of a delegate. -/
def Delegate.slotRef {κ ω : Type} [Payload κ] (delegate : Delegate κ ω) : SlotRef :=
  ⟨delegate.receiver.id, delegate.slot⟩

/-- A delegate with its handle. -/
structure Bond (κ ω : Type) [Payload κ] where
  handle : DelegateHandle κ
  delegate : Delegate κ ω

namespace Bond

variable {κ ω : Type} [Payload κ]

/-- The kind of payload that a delegate is bound to. -/
def kind (bond : Bond κ ω) : κ :=
  bond.handle.kind

/-- The slot of the delegate. -/
def slot (bond : Bond κ ω) : SlotRef :=
  bond.delegate.slotRef

/-- The instance that the delegate belongs to. -/
def owner (bond : Bond κ ω) : InstanceId :=
  bond.delegate.receiver.id

/-- The shape of the slot. -/
def layout (bond : Bond κ ω) : SlotLayout κ :=
  ⟨bond.delegate.kind.slotKind, bond.delegate.flags, bond.kind, true⟩

end Bond

namespace Messenger

variable {κ ω : Type} [Payload κ] [DecidableEq κ]

/-- What binding a delegate adds. -/
def nextBond (messenger : Messenger κ ω) (receiver : Receiver) (kind : κ)
    (flags : MessageFlags) (delegateKind : DelegateKind κ ω) : Bond κ ω :=
  ⟨messenger.nextHandle receiver kind, messenger.nextDelegate receiver flags delegateKind⟩

section NextBond

variable (messenger : Messenger κ ω) (receiver : Receiver) (kind : κ) (flags : MessageFlags)
  (delegateKind : DelegateKind κ ω)

@[simp] theorem nextBond_handle :
    (messenger.nextBond receiver kind flags delegateKind).handle
      = messenger.nextHandle receiver kind := rfl

@[simp] theorem nextBond_kind :
    (messenger.nextBond receiver kind flags delegateKind).kind = kind := rfl

@[simp] theorem nextBond_slot :
    (messenger.nextBond receiver kind flags delegateKind).slot
      = messenger.nextSlot receiver := rfl

@[simp] theorem nextBond_owner :
    (messenger.nextBond receiver kind flags delegateKind).owner = receiver.id := rfl

@[simp] theorem nextBond_layout :
    (messenger.nextBond receiver kind flags delegateKind).layout
      = ⟨delegateKind.slotKind, flags, kind, true⟩ := rfl

end NextBond

/-- The messengers that come from binding and removing, each with the bonds that
were made and not undone.  A removal that fails changes nothing. -/
inductive Built : List (Bond κ ω) → Messenger κ ω → Prop
  | empty : Built [] .empty
  | bound {bonds : List (Bond κ ω)} {messenger : Messenger κ ω}
      (built : Built bonds messenger) (receiver : Receiver) (kind : κ) (flags : MessageFlags)
      (delegateKind : DelegateKind κ ω) :
      Built (bonds ++ [messenger.nextBond receiver kind flags delegateKind])
        (messenger.bind receiver kind flags delegateKind)
  | removed {bonds : List (Bond κ ω)} {messenger after : Messenger κ ω}
      {handle : DelegateHandle κ} (built : Built bonds messenger)
      (removed : messenger.remove handle = .ok after) :
      Built (bonds.filter fun bond => bond.handle ≠ handle) after
  | removedAll {bonds : List (Bond κ ω)} {messenger : Messenger κ ω}
      (built : Built bonds messenger) (owner : InstanceId) :
      Built (bonds.filter fun bond => bond.owner ≠ owner) (messenger.removeAll owner).2

/-! ## Places -/

/-- The delegates in the places of a messenger are those of the bonds. -/
structure Carries (bonds : List (Bond κ ω)) (messenger : Messenger κ ω) : Prop where
  distinct : (bonds.map Bond.handle).Nodup
  placed (handle : DelegateHandle κ) (delegate : Delegate κ ω) :
    messenger.place? handle = some (some delegate) ↔ ⟨handle, delegate⟩ ∈ bonds
  carried (kind : κ) :
    (messenger.liveOf kind).Perm ((bonds.filter fun bond => bond.kind = kind).map Bond.delegate)
  counted : messenger.allLive.Perm (bonds.map Bond.delegate)

variable {bonds : List (Bond κ ω)} {messenger : Messenger κ ω}

theorem Carries.empty : Carries [] (Messenger.empty : Messenger κ ω) where
  distinct := .nil
  placed _ _ := by simp [place?, Messenger.empty, Table.find?, Table.findIn, Table.empty]
  carried _ := .nil
  counted := .nil

/-- No bond has the handle that is given out next. -/
theorem Carries.nextHandle_notMem (carries : Carries bonds messenger) (receiver : Receiver)
    (kind : κ) : messenger.nextHandle receiver kind ∉ bonds.map Bond.handle := by
  intro used
  obtain ⟨⟨handle, delegate⟩, among, rfl⟩ := List.mem_map.mp used
  have there := (carries.placed _ _).mpr among
  rw [place?_nextHandle] at there
  cases there

theorem Carries.bind (carries : Carries bonds messenger) (receiver : Receiver) (kind : κ)
    (flags : MessageFlags) (delegateKind : DelegateKind κ ω) :
    Carries (bonds ++ [messenger.nextBond receiver kind flags delegateKind])
      (messenger.bind receiver kind flags delegateKind) where
  distinct := by
    rw [List.map_append]
    exact (List.perm_append_singleton _ _).nodup_iff.mpr
      (List.nodup_cons.mpr ⟨carries.nextHandle_notMem receiver kind, carries.distinct⟩)
  placed handle delegate := by
    rw [place?_bind, List.mem_append, List.mem_singleton, nextBond, Bond.mk.injEq]
    split
    · next new =>
      subst new
      have unused : ⟨messenger.nextHandle receiver kind, delegate⟩ ∉ bonds := fun among =>
        carries.nextHandle_notMem receiver kind (List.mem_map_of_mem among)
      simp [unused, eq_comm]
    · next old => simp [carries.placed, Ne.symm old]
  carried other := by
    refine (liveOf_bind_perm other).trans ?_
    rw [List.filter_append, List.map_append]
    by_cases same : kind = other
    · rw [if_pos same, List.filter_cons_of_pos (by simp [same])]
      exact ((carries.carried other).cons _).trans (List.perm_append_singleton _ _).symm
    · rw [if_neg same, List.filter_cons_of_neg (by simp [same])]
      simpa using carries.carried other
  counted := by
    rw [List.map_append]
    exact (allLive_bind_perm.trans (carries.counted.cons _)).trans
      (List.perm_append_singleton _ _).symm

/-- A bond is the only one with its handle. -/
theorem Carries.perm_filter_handle (carries : Carries bonds messenger) {bond : Bond κ ω}
    (among : bond ∈ bonds) :
    bonds.Perm (bond :: bonds.filter fun other => other.handle ≠ bond.handle) := by
  have whole := List.filter_append_perm (fun other => other.handle = bond.handle) bonds
  rw [List.filter_key_eq_singleton carries.distinct among] at whole
  simpa using whole.symm

theorem Carries.clear (carries : Carries bonds messenger) {bond : Bond κ ω}
    (among : bond ∈ bonds) :
    Carries (bonds.filter fun other => other.handle ≠ bond.handle)
      (messenger.clear bond.handle) where
  distinct := carries.distinct.sublist (List.filter_sublist.map _)
  placed handle delegate := by
    rw [place?_clear, List.mem_filter, decide_eq_true_iff]
    split
    · next same => simp [same]
    · next other => simp [carries.placed, Ne.symm other]
  carried kind := by
    have there := (carries.placed bond.handle bond.delegate).mpr among
    have before := ((carries.perm_filter_handle among).filter fun other =>
      other.kind = kind).map Bond.delegate
    have after := (liveOf_clear_perm there kind).symm.trans ((carries.carried kind).trans before)
    by_cases same : bond.handle.kind = kind
    · rw [if_pos same, List.filter_cons_of_pos (by simp [Bond.kind, same])] at after
      exact List.Perm.cons_inv after
    · rwa [if_neg same, List.filter_cons_of_neg (by simp [Bond.kind, same])] at after
  counted := by
    have there := (carries.placed bond.handle bond.delegate).mpr among
    have before := (carries.perm_filter_handle among).map Bond.delegate
    exact List.Perm.cons_inv
      ((allLive_clear_perm there).symm.trans (carries.counted.trans before))

/-- Emptying the places of some handles takes exactly their bonds away. -/
theorem Carries.clearAll (carries : Carries bonds messenger)
    (handles : List (DelegateHandle κ)) :
    Carries (bonds.filter fun bond => bond.handle ∉ handles)
      (messenger.clearAll handles).2 := by
  induction handles generalizing bonds messenger with
  | nil =>
    rw [List.filter_eq_self.mpr (by simp)]
    exact carries
  | cons handle rest ih =>
    have split : (bonds.filter fun bond => bond.handle ∉ handle :: rest)
        = (bonds.filter fun bond => bond.handle ≠ handle).filter fun bond =>
            bond.handle ∉ rest := by
      simp [List.filter_filter, Bool.and_comm]
    have absent (gone : ∀ delegate, messenger.place? handle ≠ some (some delegate)) :
        (bonds.filter fun bond => bond.handle ≠ handle) = bonds := by
      refine List.filter_eq_self.mpr fun bond among => decide_eq_true ?_
      rintro rfl
      exact gone bond.delegate ((carries.placed _ _).mpr among)
    rw [split]
    unfold Messenger.clearAll
    split
    · next delegate there => exact ih (carries.clear ((carries.placed handle delegate).mp there))
    · next gone =>
      rw [absent gone]
      exact ih carries

/-! ## Slots and owners -/

/-- The three tables of a messenger agree with its bonds. -/
structure Wired (bonds : List (Bond κ ω)) (messenger : Messenger κ ω) : Prop
    extends Carries bonds messenger where
  /-- No two bonds share a slot. -/
  apart : (bonds.map Bond.slot).Nodup
  shaped : ∀ bond ∈ bonds, messenger.layout? bond.slot = some bond.layout
  /-- A slot that is still active belongs to a bond. -/
  active (ref : SlotRef) (layout : SlotLayout κ) :
    messenger.layout? ref = some layout → layout.active → ref ∈ bonds.map Bond.slot
  listed : ∀ bond ∈ bonds, bond.handle ∈ messenger.handlesOf bond.owner
  /-- The handles of an instance were given out and are of no other instance. -/
  known (owner : InstanceId) : ∀ handle ∈ messenger.handlesOf owner,
    messenger.place? handle ≠ none ∧
      ∀ delegate, messenger.place? handle = some (some delegate) → delegate.receiver.id = owner

theorem Wired.empty : Wired [] (Messenger.empty : Messenger κ ω) where
  toCarries := .empty
  apart := .nil
  shaped _ among := nomatch among
  active _ _ found := nomatch found
  listed _ among := nomatch among
  known _ _ owned := nomatch owned

theorem Wired.bind (wired : Wired bonds messenger) (receiver : Receiver) (kind : κ)
    (flags : MessageFlags) (delegateKind : DelegateKind κ ω) :
    Wired (bonds ++ [messenger.nextBond receiver kind flags delegateKind])
      (messenger.bind receiver kind flags delegateKind) where
  toCarries := wired.toCarries.bind receiver kind flags delegateKind
  apart := by
    rw [List.map_append]
    refine (List.perm_append_singleton _ _).nodup_iff.mpr (List.nodup_cons.mpr ⟨?_, wired.apart⟩)
    intro used
    obtain ⟨bond, among, same⟩ := List.mem_map.mp used
    have shape := wired.shaped bond among
    rw [same, nextBond_slot, layout?_nextSlot] at shape
    cases shape
  shaped bond among := by
    rw [layout?_bind]
    rcases List.mem_append.mp among with old | new
    · have shape := wired.shaped bond old
      rw [if_neg, shape]
      rintro same
      rw [← same, layout?_nextSlot] at shape
      cases shape
    · rw [List.mem_singleton.mp new]
      exact if_pos rfl
  active ref layout found inUse := by
    rw [layout?_bind] at found
    rw [List.map_append, List.mem_append]
    split at found
    · next new => exact .inr (List.mem_singleton.mpr new.symm)
    · exact .inl (wired.active ref layout found inUse)
  listed bond among := by
    rw [handlesOf_bind]
    rcases List.mem_append.mp among with old | new
    · split
      · exact List.mem_append_left _ (wired.listed bond old)
      · exact wired.listed bond old
    · rw [List.mem_singleton.mp new, nextBond_owner, if_pos rfl]
      exact List.mem_append_right _ (List.mem_singleton_self _)
  known owner handle owned := by
    rw [handlesOf_bind] at owned
    rw [place?_bind]
    by_cases new : messenger.nextHandle receiver kind = handle
    · subst new
      rw [if_pos rfl]
      refine ⟨Option.some_ne_none _, fun delegate same => ?_⟩
      obtain rfl := Option.some.inj (Option.some.inj same)
      by_cases mine : receiver.id = owner
      · exact mine
      · rw [if_neg mine] at owned
        exact absurd place?_nextHandle (wired.known owner _ owned).1
    · rw [if_neg new]
      split at owned
      · rcases List.mem_append.mp owned with old | last
        · exact wired.known owner handle old
        · exact absurd (List.mem_singleton.mp last).symm new
      · exact wired.known owner handle owned

/-- What is left of a wired messenger is wired, if the slots and handles of the
bonds that stay are as before and no slot of the others is active. -/
theorem Wired.restrict (wired : Wired bonds messenger) {stays : Bond κ ω → Bool}
    {after : Messenger κ ω} (carries : Carries (bonds.filter stays) after)
    (shapes : ∀ bond ∈ bonds, stays bond → after.layout? bond.slot = messenger.layout? bond.slot)
    (inUse : ∀ ref layout, after.layout? ref = some layout → layout.active →
      messenger.layout? ref = some layout ∧ ∀ bond ∈ bonds, bond.slot = ref → stays bond)
    (lists : ∀ bond ∈ bonds, stays bond →
      after.handlesOf bond.owner = messenger.handlesOf bond.owner)
    (fewer : ∀ owner, after.handlesOf owner ⊆ messenger.handlesOf owner)
    (places : ∀ handle, messenger.place? handle ≠ none → after.place? handle ≠ none) :
    Wired (bonds.filter stays) after where
  toCarries := carries
  apart := wired.apart.sublist (List.filter_sublist.map _)
  shaped bond among := by
    obtain ⟨among, stay⟩ := List.mem_filter.mp among
    rw [shapes bond among stay, wired.shaped bond among]
  active ref layout found active := by
    obtain ⟨before, stay⟩ := inUse ref layout found active
    obtain ⟨bond, among, same⟩ := List.mem_map.mp (wired.active ref layout before active)
    exact List.mem_map.mpr ⟨bond, List.mem_filter.mpr ⟨among, stay bond among same⟩, same⟩
  listed bond among := by
    obtain ⟨among, stay⟩ := List.mem_filter.mp among
    rw [lists bond among stay]
    exact wired.listed bond among
  known owner handle owned := by
    obtain ⟨given, loyal⟩ := wired.known owner handle (fewer owner owned)
    refine ⟨places handle given, fun delegate there => loyal delegate ?_⟩
    exact (wired.placed handle delegate).mpr
      (List.mem_filter.mp ((carries.placed handle delegate).mp there)).1

theorem Wired.remove (wired : Wired bonds messenger) {handle : DelegateHandle κ}
    {after : Messenger κ ω} (removed : messenger.remove handle = .ok after) :
    Wired (bonds.filter fun bond => bond.handle ≠ handle) after := by
  unfold Messenger.remove at removed
  split at removed
  · cases removed
  · cases removed
  · next delegate there =>
    obtain rfl := Except.ok.inj removed
    have among := (wired.placed handle delegate).mp there
    have one (bond : Bond κ ω) (other : bond ∈ bonds) :
        bond.slot = delegate.slotRef ↔ bond.handle = handle := by
      constructor
      · intro same
        rw [List.inj_on_of_nodup_map wired.apart other among same]
      · intro same
        rw [List.inj_on_of_nodup_map wired.distinct other among same]
        rfl
    refine wired.restrict ?_ ?_ ?_ (fun _ _ _ => rfl) (fun _ _ => id) ?_
    · have carries := wired.toCarries.clear among
      exact ⟨carries.distinct, carries.placed, carries.carried, carries.counted⟩
    · intro bond other stays
      rw [layout?_deactivate, if_neg]
      · rfl
      · exact fun same => of_decide_eq_true stays ((one bond other).mp same.symm)
    · intro ref layout found active
      rw [layout?_deactivate] at found
      split at found
      · obtain ⟨before, _, rfl⟩ := Option.map_eq_some_iff.mp found
        cases active
      · next other =>
        refine ⟨found, fun bond among same => decide_eq_true fun gone => other ?_⟩
        exact ((one bond among).mpr gone).symm.trans same
    · intro other given
      change (messenger.clear handle).place? other ≠ none
      rw [place?_clear]
      split <;> simp [given]

/-- Emptying places forgets none of them. -/
theorem place?_clearAll_ne_none {handle : DelegateHandle κ} (handles : List (DelegateHandle κ))
    (given : messenger.place? handle ≠ none) :
    (messenger.clearAll handles).2.place? handle ≠ none := by
  induction handles generalizing messenger with
  | nil => exact given
  | cons first rest ih =>
    unfold Messenger.clearAll
    split
    · refine ih ?_
      rw [place?_clear]
      split <;> simp [given]
    · exact ih given

theorem Wired.removeAll (wired : Wired bonds messenger) (owner : InstanceId) :
    Wired (bonds.filter fun bond => bond.owner ≠ owner) (messenger.removeAll owner).2 := by
  have mine : (bonds.filter fun bond => bond.handle ∉ messenger.handlesOf owner)
      = bonds.filter fun bond => bond.owner ≠ owner := by
    refine List.filter_congr fun bond among => decide_eq_decide.mpr (not_congr ⟨?_, ?_⟩)
    · intro owned
      exact (wired.known owner _ owned).2 _ ((wired.placed _ _).mpr among)
    · rintro rfl
      exact wired.listed bond among
  refine wired.restrict ?_ ?_ ?_ ?_ ?_ ?_
  · have carries := wired.toCarries.clearAll (messenger.handlesOf owner)
    rw [mine] at carries
    exact ⟨carries.distinct, carries.placed, carries.carried, carries.counted⟩
  · intro bond among stays
    rw [layout?_removeAll, if_neg]
    exact fun same => of_decide_eq_true stays same.symm
  · intro ref layout found active
    rw [layout?_removeAll] at found
    split at found
    · cases found
    · next other =>
      refine ⟨found, fun bond among same => decide_eq_true fun gone => other ?_⟩
      rw [← same, ← gone]
      rfl
  · intro bond among stays
    rw [handlesOf_removeAll, if_neg]
    exact fun same => of_decide_eq_true stays same.symm
  · intro other handle owned
    rw [handlesOf_removeAll] at owned
    split at owned
    · cases owned
    · exact owned
  · intro handle given
    exact place?_clearAll_ne_none _ given

/-- Every messenger that binding and removing leads to is wired. -/
theorem Built.wired (built : Built bonds messenger) : Wired bonds messenger := by
  induction built with
  | empty => exact .empty
  | bound built receiver kind flags delegateKind ih =>
    exact ih.bind receiver kind flags delegateKind
  | removed built removed ih => exact ih.remove removed
  | removedAll built owner ih => exact ih.removeAll owner

/-- The number of delegates is that of the bonds. -/
theorem Wired.delegateCount (wired : Wired bonds messenger) :
    messenger.delegateCount = bonds.length := by
  rw [delegateCount_eq, wired.counted.length_eq, List.length_map]

end Messenger

end DetectorSim
