import DetectorSim.Messaging.Messenger

/-!
# Places of delegates

A messenger is seen here through four views: the place that a handle refers to,
the delegates that are still there, the handles of each instance and the shape of
each slot.  Every operation on a messenger is said once in terms of these views;
nothing else about its tables is needed later.
-/

set_option autoImplicit false

namespace DetectorSim

/-- The delegate in a place is among those that are left after the place was
emptied, and it alone. -/
theorem List.filterMap_perm_set_none {α : Type} {places : List (Option α)} {index : Nat}
    {held : α} (found : places[index]? = some (some held)) :
    (places.filterMap id).Perm (held :: (places.set index none).filterMap id) := by
  induction places generalizing index with
  | nil => cases found
  | cons place rest ih =>
    cases index with
    | zero =>
      obtain rfl := Option.some.inj found
      rfl
    | succ index =>
      cases place with
      | none => exact ih found
      | some other => exact ((ih found).cons other).trans (.swap held other _)

theorem List.getElem?_concat_eq_ite {α : Type} (items : List α) (last : α) (index : Nat) :
    (items ++ [last])[index]? = if items.length = index then some last else items[index]? := by
  rw [List.getElem?_append]
  split
  · next inside => rw [if_neg (Nat.ne_of_lt inside).symm]
  · next beyond =>
    rw [List.getElem?_singleton, List.getElem?_eq_none (Nat.le_of_not_lt beyond)]
    split <;> split <;> first | rfl | omega

namespace Messenger

variable {κ ω : Type} [Payload κ] [DecidableEq κ]

/-! ## Views -/

/-- The delegates for a kind of payload, by the name of a detector. -/
def listsOf (messenger : Messenger κ ω) (kind : κ) : DelegateLists κ ω :=
  (messenger.delegates.find? kind).getD .empty

/-- The places for a kind of payload and the name of a detector. -/
def column (messenger : Messenger κ ω) (kind : κ) (key : String) :
    List (Option (Delegate κ ω)) :=
  ((messenger.listsOf kind).find? key).getD []

/-- The delegates for a kind of payload that are still there. -/
def liveOf (messenger : Messenger κ ω) (kind : κ) : List (Delegate κ ω) :=
  live (messenger.listsOf kind)

omit [DecidableEq κ] in
/-- All delegates that are still there. -/
def allLive (messenger : Messenger κ ω) : List (Delegate κ ω) :=
  messenger.delegates.entries.flatMap fun entry => live entry.2

omit [DecidableEq κ] in
/-- The handles that an instance got. -/
def handlesOf (messenger : Messenger κ ω) (owner : InstanceId) : List (DelegateHandle κ) :=
  (messenger.owned.find? owner).getD []

omit [DecidableEq κ] in
/-- The shape of a slot. -/
def layout? (messenger : Messenger κ ω) (ref : SlotRef) : Option (SlotLayout κ) :=
  (messenger.layouts.find? ref.owner).bind fun slots => slots[ref.index]?

variable {messenger : Messenger κ ω} {receiver : Receiver} {kind : κ} {flags : MessageFlags}
  {delegateKind : DelegateKind κ ω} {handle : DelegateHandle κ}

theorem place?_eq (messenger : Messenger κ ω) (handle : DelegateHandle κ) :
    messenger.place? handle
      = (messenger.column handle.kind handle.detectorKey)[handle.index]? := by
  unfold place? column listsOf
  cases messenger.delegates.find? handle.kind with
  | none => rfl
  | some lists => cases known : lists.find? handle.detectorKey <;> simp [known]

theorem nextHandle_eq (messenger : Messenger κ ω) (receiver : Receiver) (kind : κ) :
    messenger.nextHandle receiver kind
      = ⟨kind, detectorKey receiver,
          (messenger.column kind (detectorKey receiver)).length⟩ := rfl

omit [DecidableEq κ] in
theorem delegateCount_eq (messenger : Messenger κ ω) :
    messenger.delegateCount = messenger.allLive.length := by
  unfold delegateCount allLive Table.values
  rw [List.foldl_map, List.length_flatMap]
  generalize messenger.delegates.entries = entries
  suffices ∀ count, entries.foldl (fun count entry => count + (live entry.2).length) count
      = count + (entries.map fun entry => (live entry.2).length).sum by
    simpa using this 0
  induction entries with
  | nil => exact fun _ => rfl
  | cons entry rest ih =>
    intro count
    rw [List.foldl_cons, ih, List.map_cons, List.sum_cons, Nat.add_assoc]

/-- A message is for the delegates of its kind that accept it. -/
theorem accepting_eq (messenger : Messenger κ ω) (message : AnyMessage κ) :
    messenger.accepting message
      = (messenger.liveOf message.kind).filter fun delegate =>
          delegate.accepts message.detector := by
  unfold accepting liveOf listsOf
  cases messenger.delegates.find? message.kind <;> rfl

/-! ## Binding -/

/-- The delegate that a receiver gets next. -/
def nextDelegate (messenger : Messenger κ ω) (receiver : Receiver) (flags : MessageFlags)
    (delegateKind : DelegateKind κ ω) : Delegate κ ω :=
  ⟨receiver, (messenger.nextSlot receiver).index, flags, delegateKind⟩

theorem listsOf_bind (other : κ) :
    (messenger.bind receiver kind flags delegateKind).listsOf other
      = if kind = other then
          (messenger.listsOf other).alterSorted textBefore (detectorKey receiver) []
            (· ++ [some (messenger.nextDelegate receiver flags delegateKind)])
        else messenger.listsOf other := by
  simp only [bind, listsOf, Table.find?_alter]
  split <;> rfl

/-- A new delegate has a place that was not there before. -/
theorem place?_bind (handle : DelegateHandle κ) :
    (messenger.bind receiver kind flags delegateKind).place? handle
      = if messenger.nextHandle receiver kind = handle then
          some (some (messenger.nextDelegate receiver flags delegateKind))
        else messenger.place? handle := by
  obtain ⟨other, key, index⟩ := handle
  rw [place?_eq, place?_eq, nextHandle_eq]
  simp only [column, listsOf_bind, DelegateHandle.mk.injEq]
  by_cases same : kind = other
  · subst same
    rw [if_pos rfl, Table.find?_alterSorted]
    by_cases here : detectorKey receiver = key
    · subst here
      simp only [if_pos, true_and, Option.getD_some, List.getElem?_concat_eq_ite]
    · simp [here]
  · simp [same]

theorem place?_nextHandle : messenger.place? (messenger.nextHandle receiver kind) = none := by
  rw [place?_eq, nextHandle_eq]
  exact List.getElem?_eq_none (Nat.le_refl _)

omit [DecidableEq κ] in
theorem live_alterSorted_perm (lists : DelegateLists κ ω) (key : String)
    (delegate : Delegate κ ω) :
    (live (lists.alterSorted textBefore key [] (· ++ [some delegate]))).Perm
      (delegate :: live lists) := by
  refine Table.flatMap_alterSorted_perm [delegate] lists textBefore rfl fun list => ?_
  rw [List.filterMap_append]
  exact List.perm_append_comm

theorem liveOf_bind_perm (other : κ) :
    ((messenger.bind receiver kind flags delegateKind).liveOf other).Perm
      (if kind = other then
        messenger.nextDelegate receiver flags delegateKind :: messenger.liveOf other
      else messenger.liveOf other) := by
  unfold liveOf
  rw [listsOf_bind]
  split
  · exact live_alterSorted_perm _ _ _
  · rfl

theorem allLive_bind_perm :
    (messenger.bind receiver kind flags delegateKind).allLive.Perm
      (messenger.nextDelegate receiver flags delegateKind :: messenger.allLive) :=
  Table.flatMap_alter_perm [messenger.nextDelegate receiver flags delegateKind]
    messenger.delegates rfl fun lists => live_alterSorted_perm lists _ _

theorem handlesOf_bind (owner : InstanceId) :
    (messenger.bind receiver kind flags delegateKind).handlesOf owner
      = if receiver.id = owner then
          messenger.handlesOf owner ++ [messenger.nextHandle receiver kind]
        else messenger.handlesOf owner := by
  simp only [bind, handlesOf, Table.find?_alter]
  split <;> rfl

theorem layout?_bind (ref : SlotRef) :
    (messenger.bind receiver kind flags delegateKind).layout? ref
      = if messenger.nextSlot receiver = ref then
          some ⟨delegateKind.slotKind, flags, kind, true⟩
        else messenger.layout? ref := by
  obtain ⟨owner, index⟩ := ref
  simp only [bind, layout?, Table.find?_alter, nextSlot, SlotRef.mk.injEq]
  by_cases same : receiver.id = owner
  · subst same
    simp only [if_pos, true_and, Option.bind_some]
    cases messenger.layouts.find? receiver.id with
    | none => cases index <;> simp
    | some slots =>
      simp only [Option.getD_some, Option.bind_some, List.getElem?_concat_eq_ite]
  · simp [same]

omit [DecidableEq κ] in
theorem layout?_nextSlot : messenger.layout? (messenger.nextSlot receiver) = none := by
  unfold layout? nextSlot
  cases messenger.layouts.find? receiver.id with
  | none => rfl
  | some slots => exact List.getElem?_eq_none (Nat.le_refl _)

/-! ## Emptying places -/

theorem column_clear (other : κ) (key : String) :
    (messenger.clear handle).column other key
      = if handle.kind = other ∧ handle.detectorKey = key then
          (messenger.column other key).set handle.index none
        else messenger.column other key := by
  simp only [clear, column, listsOf, Table.find?_change]
  by_cases same : handle.kind = other
  · subst same
    cases messenger.delegates.find? handle.kind with
    | none => simp [Table.find?, Table.findIn, Table.empty]
    | some lists =>
      simp only [if_pos, Option.map_some, Option.getD_some, true_and, Table.find?_change]
      split
      · next here =>
        subst here
        cases lists.find? handle.detectorKey <;> simp
      · rfl
  · simp [same]

/-- Emptying a place leaves all others as they are. -/
theorem place?_clear (other : DelegateHandle κ) :
    (messenger.clear handle).place? other
      = if handle = other then (messenger.place? other).map fun _ => none
        else messenger.place? other := by
  obtain ⟨kind, key, index⟩ := other
  obtain ⟨kind', key', index'⟩ := handle
  simp only [place?_eq, column_clear, DelegateHandle.mk.injEq]
  by_cases same : kind' = kind ∧ key' = key
  · rw [if_pos same, List.getElem?_set]
    obtain ⟨rfl, rfl⟩ := same
    by_cases here : index' = index
    · subst here
      by_cases inside : index' < (messenger.column kind' key').length <;> simp [inside]
    · simp [here]
  · rw [if_neg same, if_neg fun all => same ⟨all.1, all.2.1⟩]

omit [DecidableEq κ] in
theorem live_clear_perm {lists : DelegateLists κ ω} {key : String} {index : Nat}
    {delegate : Delegate κ ω}
    (found : ((lists.find? key).getD [])[index]? = some (some delegate)) :
    (live lists).Perm
      (delegate :: live (lists.change key fun list => list.set index none)) := by
  cases known : lists.find? key with
  | none => simp [known] at found
  | some list =>
    rw [known, Option.getD_some] at found
    exact (Table.flatMap_changeIn_perm [delegate] [] known
      (List.filterMap_perm_set_none found).symm).symm

theorem listsOf_clear (other : κ) :
    (messenger.clear handle).listsOf other
      = if handle.kind = other then
          (messenger.listsOf other).change handle.detectorKey fun list =>
            list.set handle.index none
        else messenger.listsOf other := by
  simp only [clear, listsOf, Table.find?_change]
  split
  · cases messenger.delegates.find? other <;> rfl
  · rfl

theorem liveOf_clear_perm {delegate : Delegate κ ω}
    (found : messenger.place? handle = some (some delegate)) (other : κ) :
    (messenger.liveOf other).Perm
      (if handle.kind = other then delegate :: (messenger.clear handle).liveOf other
      else (messenger.clear handle).liveOf other) := by
  unfold liveOf
  rw [listsOf_clear]
  split
  · next same =>
    subst same
    rw [place?_eq] at found
    exact live_clear_perm found
  · rfl

theorem allLive_clear_perm {delegate : Delegate κ ω}
    (found : messenger.place? handle = some (some delegate)) :
    messenger.allLive.Perm (delegate :: (messenger.clear handle).allLive) := by
  rw [place?_eq] at found
  cases known : messenger.delegates.find? handle.kind with
  | none => simp only [column, listsOf, known] at found; cases found
  | some lists =>
    simp only [column, listsOf, known, Option.getD_some] at found
    exact (Table.flatMap_changeIn_perm [delegate] [] known
      (live_clear_perm found).symm).symm

omit [DecidableEq κ] in
theorem layout?_deactivate (owned ref : SlotRef) :
    (messenger.deactivate owned).layout? ref
      = if owned = ref then (messenger.layout? ref).map fun layout =>
          { layout with active := false }
        else messenger.layout? ref := by
  obtain ⟨owner, index⟩ := ref
  obtain ⟨owner', index'⟩ := owned
  simp only [deactivate, layout?, Table.find?_change, SlotRef.mk.injEq]
  by_cases same : owner' = owner
  · subst same
    cases messenger.layouts.find? owner' with
    | none => simp
    | some slots => by_cases here : index' = index <;> simp [here]
  · simp [same]

/-- What emptying some places changes: the places and nothing else. -/
theorem clearAll_views (handles : List (DelegateHandle κ)) (messenger : Messenger κ ω) :
    (messenger.clearAll handles).2.owned = messenger.owned ∧
      (messenger.clearAll handles).2.layouts = messenger.layouts := by
  induction handles generalizing messenger with
  | nil => exact ⟨rfl, rfl⟩
  | cons handle rest ih =>
    unfold clearAll
    split
    · exact ih (messenger.clear handle)
    · exact ih messenger

theorem handlesOf_removeAll (owner other : InstanceId) :
    (messenger.removeAll owner).2.handlesOf other
      = if owner = other then [] else messenger.handlesOf other := by
  simp only [removeAll, handlesOf, Table.find?_erase, (clearAll_views _ _).1]
  split <;> rfl

theorem layout?_removeAll (owner : InstanceId) (ref : SlotRef) :
    (messenger.removeAll owner).2.layout? ref
      = if owner = ref.owner then none else messenger.layout? ref := by
  simp only [removeAll, layout?, Table.find?_erase, (clearAll_views _ _).2]
  split <;> rfl

end Messenger

end DetectorSim
