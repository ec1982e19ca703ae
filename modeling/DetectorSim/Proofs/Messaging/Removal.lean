import Mathlib.Logic.Relation
import DetectorSim.Proofs.Messaging.Handout

/-!
# Removing delegates

A logbook is kept while delegates are bound at a messenger and removed again: it tells all
bonds that were ever made, those of them that are left, and how many delegates the removals
have counted.  The handles of a messenger are places that are never given away twice, so a
handle removes the delegate that it was made for, once, and nothing else.  The delegates
that are left get what they got before, and in the same order.
-/

set_option autoImplicit false

namespace DetectorSim

namespace Messenger

variable {κ ω : Type} [Payload κ] [DecidableEq κ] {messenger after : Messenger κ ω}
  {handle : DelegateHandle κ} {bonds : List (Bond κ ω)} {bond : Bond κ ω}

/-! ## Taking a delegate out -/

/-- Remove one delegate by its handle, step by step: its place is emptied before it is known
whether a delegate was in it. -/
def takeOut (messenger : Messenger κ ω) (handle : DelegateHandle κ) :
    Except Error Unit × Messenger κ ω :=
  match messenger.place? handle with
  | none => (.error (.logic "delegate handle does not belong to this messenger"), messenger)
  | some none => (.error (.logic "delegate was already removed"), messenger.clear handle)
  | some (some delegate) => (.ok (), (messenger.clear handle).deactivate delegate.slotRef)

/-- Emptying an empty place changes nothing. -/
theorem clear_eq_self (hollow : messenger.place? handle = some none) :
    messenger.clear handle = messenger := by
  obtain ⟨kind, key, index⟩ := handle
  rw [place?_eq] at hollow
  unfold clear
  have fixed : (messenger.delegates.change kind fun lists =>
      lists.change key fun list => list.set index none) = messenger.delegates := by
    refine Table.change_eq_self fun lists known => Table.change_eq_self fun list found => ?_
    simp only [column, listsOf, known, found, Option.getD_some] at hollow
    obtain ⟨inside, same⟩ := List.getElem?_eq_some_iff.mp hollow
    rw [← same]
    exact List.set_getElem_self inside
  simp only [fixed]

/-- Step by step or at once, the same is removed, and a removal that fails changes nothing. -/
theorem takeOut_eq (messenger : Messenger κ ω) (handle : DelegateHandle κ) :
    messenger.takeOut handle
      = match messenger.remove handle with
        | .ok after => (.ok (), after)
        | .error err => (.error err, messenger) := by
  unfold takeOut remove
  rcases there : messenger.place? handle with _ | _ | delegate
  · rfl
  · exact congrArg _ (clear_eq_self there)
  · rfl

theorem takeOut_of_ok (removed : messenger.remove handle = .ok after) :
    messenger.takeOut handle = (.ok (), after) := by
  rw [takeOut_eq, removed]

theorem takeOut_of_error {err : Error} (refused : messenger.remove handle = .error err) :
    messenger.takeOut handle = (.error err, messenger) := by
  rw [takeOut_eq, refused]

/-- Taking a delegate out forgets no place. -/
theorem place?_takeOut_ne_none {other : DelegateHandle κ}
    (given : messenger.place? other ≠ none) :
    (messenger.takeOut handle).2.place? other ≠ none := by
  have emptied : (messenger.clear handle).place? other ≠ none := by
    rw [place?_clear]
    split <;> simp [given]
  unfold takeOut
  split
  · exact given
  · exact emptied
  · exact emptied

theorem Wired.remove_ok (wired : Wired bonds messenger) (live : bond ∈ bonds) :
    ∃ after, messenger.remove bond.handle = .ok after := by
  unfold Messenger.remove
  rw [(wired.placed bond.handle bond.delegate).mpr live]
  exact ⟨_, rfl⟩

/-- A handle that was given out and whose bond is gone removes nothing. -/
theorem Wired.remove_error (wired : Wired bonds messenger)
    (given : messenger.place? handle ≠ none) (gone : handle ∉ bonds.map Bond.handle) :
    messenger.remove handle = .error (.logic "delegate was already removed") := by
  unfold Messenger.remove
  cases there : messenger.place? handle with
  | none => exact absurd there given
  | some place =>
    cases place with
    | none => rfl
    | some delegate =>
      have among := (wired.placed handle delegate).mp there
      exact absurd (List.mem_map_of_mem (f := Bond.handle) among) gone

/-! ## Counting -/

/-- The places that are emptied are counted if they held a delegate. -/
theorem clearAll_count (handles : List (DelegateHandle κ)) (messenger : Messenger κ ω) :
    (messenger.clearAll handles).1 + (messenger.clearAll handles).2.allLive.length
      = messenger.allLive.length := by
  induction handles generalizing messenger with
  | nil => exact Nat.zero_add _
  | cons handle rest ih =>
    unfold clearAll
    split
    · next delegate there =>
      have one := (allLive_clear_perm there).length_eq
      have others := ih (messenger.clear handle)
      simp only [List.length_cons] at one ⊢
      omega
    · exact ih messenger

theorem length_filter_add_length_filter_not {α : Type} (items : List α) (chosen : α → Bool) :
    (items.filter chosen).length + (items.filter fun item => !chosen item).length
      = items.length := by
  rw [← List.length_append]
  exact (List.filter_append_perm chosen items).length_eq

/-- Removing all delegates of an instance counts its bonds. -/
theorem Wired.count_removeAll (wired : Wired bonds messenger) (owner : InstanceId) :
    (messenger.removeAll owner).1 = (bonds.filter fun bond => bond.owner = owner).length := by
  have counted := clearAll_count (messenger.handlesOf owner) messenger
  have before := wired.counted.length_eq
  have left := (wired.removeAll owner).counted.length_eq
  have parts := length_filter_add_length_filter_not bonds fun bond => bond.owner = owner
  change (messenger.removeAll owner).1 + (messenger.removeAll owner).2.allLive.length = _
    at counted
  simp only [List.length_map, decide_not] at before left
  omega

/-! ## Routes -/

/-- Who gets a message after a removal are those who stay, in the order from before. -/
theorem Built.queue_filter (built : Built bonds messenger) {stays : Bond κ ω → Bool}
    (left : Built (bonds.filter stays) after) (message : AnyMessage κ) :
    after.queue message = (messenger.queue message).filter stays := by
  refine List.Pairwise.eq_of_mem_iff (r := Bond.Before) (pairwise_queue left.ranked) ?_
    fun bond => ?_
  · exact (pairwise_queue built.ranked).sublist List.filter_sublist
  · rw [mem_queue left.wired left.ranked, List.mem_filter, List.mem_filter,
      mem_queue built.wired built.ranked, and_right_comm]

theorem dispatch_congr {message : AnyMessage κ}
    (known : after.delegates.contains message.kind = messenger.delegates.contains message.kind)
    (same : after.accepting message = messenger.accepting message) (source : Receiver) :
    after.dispatch source message = messenger.dispatch source message := by
  unfold dispatch
  rw [known, same]

theorem contains_clear (handle : DelegateHandle κ) (kind : κ) :
    (messenger.clear handle).delegates.contains kind = messenger.delegates.contains kind := by
  unfold clear Table.contains
  rw [Table.find?_change]
  split
  · exact Option.isSome_map
  · rfl

theorem contains_clearAll (handles : List (DelegateHandle κ)) (kind : κ) :
    (messenger.clearAll handles).2.delegates.contains kind
      = messenger.delegates.contains kind := by
  induction handles generalizing messenger with
  | nil => rfl
  | cons handle rest ih =>
    unfold clearAll
    split
    · exact ih.trans (contains_clear handle kind)
    · exact ih

theorem contains_remove (removed : messenger.remove handle = .ok after) (kind : κ) :
    after.delegates.contains kind = messenger.delegates.contains kind := by
  unfold remove at removed
  split at removed
  · cases removed
  · cases removed
  · obtain rfl := Except.ok.inj removed
    exact contains_clear handle kind

/-! ## What a removal leaves -/

/-- The bonds that stay after a removal are where they were, and get what they got. -/
structure Leaves (stays : Bond κ ω → Bool) (bonds : List (Bond κ ω))
    (messenger after : Messenger κ ω) : Prop where
  live : after.allLive.Perm ((bonds.filter stays).map Bond.delegate)
  places : ∀ bond ∈ bonds,
    after.place? bond.handle = some (if stays bond then some bond.delegate else none)
  /-- Every message comes to those who stay in the order in which it came to them before. -/
  routes : ∀ message, after.queue message = (messenger.queue message).filter stays ∧
    (after.queue message).map Bond.delegate = after.accepting message
  /-- A message that was for nobody who went is dispatched as before, however that ends. -/
  undisturbed : ∀ message, (∀ bond ∈ bonds, bond.Concerns message → stays bond) →
    ∀ source, after.dispatch source message = messenger.dispatch source message
  /-- The same messages leave the same in the slots of those who stay, and their listeners
  get the same calls. -/
  received : ∀ {event : Nat} {sent : List (AnyMessage κ)} {store store' : MessageStore κ}
    {calls calls' : List (ListenerCall κ ω)},
    Dispatched event bonds messenger store sent calls →
    Dispatched event (bonds.filter stays) after store' sent calls' →
    ∀ bond ∈ bonds, stays bond → store'.state? bond.slot = store.state? bond.slot ∧
      (bond.delegate.kind.slotKind = .listener →
        (calls'.filter fun call => call.slot = bond.slot)
          = calls.filter fun call => call.slot = bond.slot)

theorem Built.leaves (built : Built bonds messenger) {stays : Bond κ ω → Bool}
    (left : Built (bonds.filter stays) after)
    (known : ∀ kind, after.delegates.contains kind = messenger.delegates.contains kind)
    (places : ∀ handle, messenger.place? handle ≠ none → after.place? handle ≠ none) :
    Leaves stays bonds messenger after where
  live := left.wired.counted
  places bond among := by
    have before := (built.wired.placed bond.handle bond.delegate).mpr among
    split
    · next stay => exact (left.wired.placed _ _).mpr (List.mem_filter.mpr ⟨among, stay⟩)
    · next gone =>
      cases there : after.place? bond.handle with
      | none => exact absurd there (places _ (by simp [before]))
      | some place =>
        cases place with
        | none => rfl
        | some delegate =>
          obtain ⟨old, stay⟩ := List.mem_filter.mp ((left.wired.placed _ _).mp there)
          rw [List.inj_on_of_nodup_map built.wired.distinct among old rfl] at gone
          exact absurd stay gone
  routes message := ⟨built.queue_filter left message, map_delegate_queue left.ranked⟩
  undisturbed message stay source := by
    refine dispatch_congr (known _) ?_ source
    rw [← map_delegate_queue left.ranked, ← map_delegate_queue built.ranked,
      built.queue_filter left]
    refine congrArg _ (List.filter_eq_self.mpr fun bond queued => ?_)
    obtain ⟨live, concerns⟩ := (mem_queue built.wired built.ranked).mp queued
    exact stay bond live concerns
  received history history' bond among stay := by
    have live := List.mem_filter.mpr ⟨among, stay⟩
    refine ⟨(history'.state?_slot live).trans (history.state?_slot among).symm, ?_⟩
    intro listens
    cases kind : bond.delegate.kind with
    | listener callback =>
      rw [history'.filter_calls live kind, history.filter_calls among kind]
    | single => rw [kind] at listens; cases listens
    | multi => rw [kind] at listens; cases listens

end Messenger

/-! ## Logbooks -/

/-- What was bound at a messenger and what of it is left. -/
structure Logbook (κ ω : Type) [Payload κ] where
  /-- All bonds that were ever made, in order. -/
  made : List (Bond κ ω)
  /-- Those that were not removed. -/
  left : List (Bond κ ω)
  /-- How many delegates were removed, as the removals have told. -/
  removals : Nat
  messenger : Messenger κ ω

namespace Logbook

variable {κ ω : Type} [Payload κ]

/-- Nothing was bound. -/
def blank : Logbook κ ω :=
  ⟨[], [], 0, .empty⟩

/-- How many delegates a removal by handle has removed. -/
def countOf : Except Error Unit → Nat
  | .ok _ => 1
  | .error _ => 0

variable [DecidableEq κ]

/-- A delegate is bound. -/
def bind (book : Logbook κ ω) (receiver : Receiver) (kind : κ) (flags : MessageFlags)
    (delegateKind : DelegateKind κ ω) : Logbook κ ω where
  made := book.made ++ [book.messenger.nextBond receiver kind flags delegateKind]
  left := book.left ++ [book.messenger.nextBond receiver kind flags delegateKind]
  removals := book.removals
  messenger := book.messenger.bind receiver kind flags delegateKind

/-- A delegate is removed by its handle, or was removed before. -/
def takeOut (book : Logbook κ ω) (handle : DelegateHandle κ) : Logbook κ ω where
  made := book.made
  left := book.left.filter fun bond => bond.handle ≠ handle
  removals := book.removals + countOf (book.messenger.takeOut handle).1
  messenger := (book.messenger.takeOut handle).2

/-- All delegates of an instance are removed. -/
def removeAll (book : Logbook κ ω) (owner : InstanceId) : Logbook κ ω where
  made := book.made
  left := book.left.filter fun bond => bond.owner ≠ owner
  removals := book.removals + (book.messenger.removeAll owner).1
  messenger := (book.messenger.removeAll owner).2

/-- One call: to bind a delegate, to remove one by a handle that was given out at any time
before, or to remove all of an instance. -/
inductive Entry (book : Logbook κ ω) : Logbook κ ω → Prop
  | bound (receiver : Receiver) (kind : κ) (flags : MessageFlags)
      (delegateKind : DelegateKind κ ω) : Entry book (book.bind receiver kind flags delegateKind)
  | takenOut {handle : DelegateHandle κ} (given : handle ∈ book.made.map Bond.handle) :
      Entry book (book.takeOut handle)
  | removedAll (owner : InstanceId) : Entry book (book.removeAll owner)

/-- What any sequence of calls leads to. -/
abbrev Leads : Logbook κ ω → Logbook κ ω → Prop :=
  Relation.ReflTransGen Entry

/-- The messenger is as the logbook tells. -/
structure Accurate (book : Logbook κ ω) : Prop where
  built : book.messenger.Built book.left
  sublist : book.left.Sublist book.made
  /-- No handle was given out twice, -/
  distinct : (book.made.map Bond.handle).Nodup
  /-- since its place stays. -/
  given : ∀ bond ∈ book.made, book.messenger.place? bond.handle ≠ none
  counted : book.left.length + book.removals = book.made.length

/-! ## What a logbook tells -/

variable {book next : Logbook κ ω} {bond : Bond κ ω}

namespace Accurate

theorem blank : (Logbook.blank : Logbook κ ω).Accurate where
  built := .empty
  sublist := .slnil
  distinct := .nil
  given := nofun
  counted := rfl

/-- The handle that is given out next is a new one. -/
theorem nextHandle_notMem (accurate : book.Accurate) (receiver : Receiver) (kind : κ) :
    book.messenger.nextHandle receiver kind ∉ book.made.map Bond.handle := by
  intro used
  obtain ⟨bond, among, same⟩ := List.mem_map.mp used
  refine accurate.given bond among ?_
  rw [same]
  exact Messenger.place?_nextHandle

/-- A handle is of a bond that is left only if it was given out for that one. -/
theorem handle_notMem_left (accurate : book.Accurate) (among : bond ∈ book.made)
    (gone : bond ∉ book.left) : bond.handle ∉ book.left.map Bond.handle := by
  intro used
  obtain ⟨other, there, same⟩ := List.mem_map.mp used
  have before := accurate.sublist.subset there
  rw [List.inj_on_of_nodup_map accurate.distinct before among same] at there
  exact gone there

/-- A handle removes its delegate if that is left, -/
theorem takeOut_of_mem (accurate : book.Accurate) (live : bond ∈ book.left) :
    ∃ after, book.messenger.takeOut bond.handle = (.ok (), after) ∧
      book.messenger.remove bond.handle = .ok after := by
  obtain ⟨after, removed⟩ := accurate.built.wired.remove_ok live
  exact ⟨after, Messenger.takeOut_of_ok removed, removed⟩

/-- and nothing otherwise. -/
theorem takeOut_of_notMem (accurate : book.Accurate) (among : bond ∈ book.made)
    (gone : bond ∉ book.left) :
    book.messenger.takeOut bond.handle
      = (.error (.logic "delegate was already removed"), book.messenger) :=
  Messenger.takeOut_of_error <|
    accurate.built.wired.remove_error (accurate.given bond among)
      (accurate.handle_notMem_left among gone)

/-! ### Every entry -/

theorem bind (accurate : book.Accurate) (receiver : Receiver) (kind : κ) (flags : MessageFlags)
    (delegateKind : DelegateKind κ ω) :
    (book.bind receiver kind flags delegateKind).Accurate where
  built := accurate.built.bound receiver kind flags delegateKind
  sublist := accurate.sublist.append (List.Sublist.refl _)
  distinct := by
    rw [Logbook.bind, List.map_append]
    exact (List.perm_append_singleton _ _).nodup_iff.mpr
      (List.nodup_cons.mpr ⟨accurate.nextHandle_notMem receiver kind, accurate.distinct⟩)
  given bond among := by
    rw [Logbook.bind, Messenger.place?_bind]
    split
    · exact Option.some_ne_none _
    · next other =>
      rcases List.mem_append.mp among with old | new
      · exact accurate.given bond old
      · exact absurd (congrArg Bond.handle (List.mem_singleton.mp new)).symm other
  counted := by
    have counted := accurate.counted
    simp only [Logbook.bind, List.length_append, List.length_singleton]
    omega

theorem takeOut (accurate : book.Accurate) (among : bond ∈ book.made) :
    (book.takeOut bond.handle).Accurate := by
  have counted := accurate.counted
  have sublist := (List.filter_sublist (p := fun other : Bond κ ω =>
    other.handle ≠ bond.handle)).trans accurate.sublist
  by_cases live : bond ∈ book.left
  · obtain ⟨after, taken, removed⟩ := accurate.takeOut_of_mem live
    have one := (accurate.built.wired.perm_filter_handle live).length_eq
    have built := accurate.built.removed removed
    refine ⟨?_, sublist, accurate.distinct,
      fun other there => Messenger.place?_takeOut_ne_none (accurate.given other there), ?_⟩
    · rwa [Logbook.takeOut, taken]
    · simp only [Logbook.takeOut, taken, countOf, List.length_cons] at one ⊢
      omega
  · have absent : (book.left.filter fun other => other.handle ≠ bond.handle) = book.left := by
      refine List.filter_eq_self.mpr fun other there => decide_eq_true fun same => ?_
      exact accurate.handle_notMem_left among live (same ▸ List.mem_map_of_mem there)
    have same : book.takeOut bond.handle = book := by
      unfold Logbook.takeOut
      rw [accurate.takeOut_of_notMem among live, absent]
      rfl
    rwa [same]

theorem removeAll (accurate : book.Accurate) (owner : InstanceId) :
    (book.removeAll owner).Accurate where
  built := accurate.built.removedAll owner
  sublist := List.filter_sublist.trans accurate.sublist
  distinct := accurate.distinct
  given bond among := Messenger.place?_clearAll_ne_none _ (accurate.given bond among)
  counted := by
    have counted := accurate.counted
    have removed := accurate.built.wired.count_removeAll owner
    have parts := Messenger.length_filter_add_length_filter_not book.left fun bond =>
      bond.owner = owner
    simp only [Logbook.removeAll, decide_not] at parts ⊢
    omega

theorem entry (accurate : book.Accurate) (entry : book.Entry next) : next.Accurate := by
  cases entry with
  | bound receiver kind flags delegateKind => exact accurate.bind receiver kind flags delegateKind
  | takenOut given =>
    obtain ⟨bond, among, rfl⟩ := List.mem_map.mp given
    exact accurate.takeOut among
  | removedAll owner => exact accurate.removeAll owner

theorem leads (accurate : book.Accurate) (leads : book.Leads next) : next.Accurate := by
  induction leads with
  | refl => exact accurate
  | tail _ entry ih => exact ih.entry entry

end Accurate

/-! ### What is gone stays gone -/

theorem Entry.made (entry : book.Entry next) : book.made ⊆ next.made := by
  cases entry with
  | bound => exact List.subset_append_left _ _
  | takenOut => exact List.Subset.refl _
  | removedAll => exact List.Subset.refl _

theorem Entry.notMem_left (entry : book.Entry next) (accurate : book.Accurate)
    (among : bond ∈ book.made) (gone : bond ∉ book.left) : bond ∉ next.left := by
  cases entry with
  | bound receiver kind flags delegateKind =>
    intro back
    rcases List.mem_append.mp back with old | new
    · exact gone old
    · refine accurate.nextHandle_notMem receiver kind ?_
      rw [List.mem_singleton.mp new] at among
      exact List.mem_map_of_mem (f := Bond.handle) among
  | takenOut => exact fun back => gone (List.mem_filter.mp back).1
  | removedAll => exact fun back => gone (List.mem_filter.mp back).1

/-- A bond that is gone is never left again, whatever is bound later. -/
theorem Leads.stale (leads : book.Leads next) (accurate : book.Accurate)
    (among : bond ∈ book.made) (gone : bond ∉ book.left) :
    bond ∈ next.made ∧ bond ∉ next.left := by
  induction leads with
  | refl => exact ⟨among, gone⟩
  | tail before entry ih =>
    exact ⟨entry.made ih.1, entry.notMem_left (accurate.leads before) ih.1 ih.2⟩

/-! ## Every logbook -/

/-- The delegates of a messenger are removed once, and by what is meant for them. -/
structure Precise (book : Logbook κ ω) : Prop where
  /-- No handle was given out twice. -/
  distinct : (book.made.map Bond.handle).Nodup
  live : book.messenger.allLive.Perm (book.left.map Bond.delegate)
  /-- The number of delegates is that of the binds less that of the removals. -/
  counted : book.messenger.delegateCount + book.removals = book.made.length
  /-- A removal by handle succeeds if and only if the delegate was not removed before. -/
  removable : ∀ bond ∈ book.made,
    (book.messenger.takeOut bond.handle).1 = .ok () ↔ bond ∈ book.left
  /-- Then it removes this one and no other. -/
  removed : ∀ bond ∈ book.left,
    Messenger.Leaves (fun other => other.handle ≠ bond.handle) book.left book.messenger
      (book.messenger.takeOut bond.handle).2
  /-- A removal that fails changes nothing. -/
  refused : ∀ handle err after, book.messenger.takeOut handle = (.error err, after) →
    after = book.messenger
  /-- A removal of all delegates of an instance counts those that are left and removes
  them, so a second one finds none. -/
  removedAll : ∀ owner,
    (book.messenger.removeAll owner).1
        = (book.left.filter fun bond => bond.owner = owner).length ∧
      Messenger.Leaves (fun other => other.owner ≠ owner) book.left book.messenger
        (book.messenger.removeAll owner).2 ∧
      ((book.messenger.removeAll owner).2.removeAll owner).1 = 0
  /-- The handle of a delegate that is gone removes nothing, also later. -/
  stale : ∀ bond ∈ book.made, bond ∉ book.left → ∀ later, book.Leads later →
    later.messenger.takeOut bond.handle
      = (.error (.logic "delegate was already removed"), later.messenger)

theorem Accurate.removed_leaves (accurate : book.Accurate) (live : bond ∈ book.left) :
    Messenger.Leaves (fun other => other.handle ≠ bond.handle) book.left book.messenger
      (book.messenger.takeOut bond.handle).2 := by
  obtain ⟨after, taken, removed⟩ := accurate.takeOut_of_mem live
  rw [taken]
  refine accurate.built.leaves (accurate.built.removed removed)
    (Messenger.contains_remove removed) fun other given => ?_
  have kept : (book.messenger.takeOut bond.handle).2.place? other ≠ none :=
    Messenger.place?_takeOut_ne_none given
  rwa [taken] at kept

theorem Accurate.removedAll_leaves (accurate : book.Accurate) (owner : InstanceId) :
    Messenger.Leaves (fun other => other.owner ≠ owner) book.left book.messenger
      (book.messenger.removeAll owner).2 :=
  accurate.built.leaves (accurate.built.removedAll owner) (Messenger.contains_clearAll _)
    fun _ => Messenger.place?_clearAll_ne_none _

/-- **Delegates are removed exactly once, and handles stay precise.**  After any sequence of
binds, removals by a handle that was given out and removals of all delegates of an
instance, a handle removes the delegate that it was made for if that is left, and nothing
otherwise; all that are left of an instance are removed and counted together; and those
that stay get the messages that they got before, in the same order. -/
theorem precise_of_leads (leads : blank.Leads book) : book.Precise := by
  have accurate := Accurate.blank.leads leads
  have wired := accurate.built.wired
  refine ⟨accurate.distinct, wired.counted, ?_, fun bond among => ?_,
    fun _ => accurate.removed_leaves, fun handle err after refused => ?_, fun owner => ?_,
    fun bond among gone later onward => ?_⟩
  · rw [wired.delegateCount]
    exact accurate.counted
  · by_cases live : bond ∈ book.left
    · obtain ⟨after, taken, -⟩ := accurate.takeOut_of_mem live
      simp [taken, live]
    · simp [accurate.takeOut_of_notMem among live, live]
  · cases removed : book.messenger.remove handle with
    | ok next =>
      rw [Messenger.takeOut_of_ok removed] at refused
      cases refused
    | error cause =>
      rw [Messenger.takeOut_of_error removed] at refused
      exact (Prod.mk.inj refused).2.symm
  · have again := (wired.removeAll owner).count_removeAll owner
    refine ⟨wired.count_removeAll owner, accurate.removedAll_leaves owner, again.trans ?_⟩
    rw [List.filter_filter]
    simp
  · obtain ⟨known, away⟩ := onward.stale accurate among gone
    exact (accurate.leads onward).takeOut_of_notMem known away

end Logbook

/-! ## A display that is bound again -/

open Builtin

/-- The bond of a display that was bound anew.  Its slot is the one that an earlier bond
had, but its handle is a new one. -/
def Bond.reshown : Bond PayloadKind Unit :=
  ⟨⟨.hits, "left", 2⟩, ⟨.leftDisplay, 0, .overwriting, .single⟩⟩

namespace Logbook

/-- The listener of the display is removed, then what is left of the display, and then the
display is bound anew. -/
def rebound : Logbook PayloadKind Unit :=
  ((((blank.bind .leftDisplay PayloadKind.hits .overwriting .single).bind .leftDisplay .hits
      .anyName (.listener fun _ => .done ())).takeOut Bond.heard.handle).removeAll ⟨0⟩).bind
    .leftDisplay .hits .overwriting .single

theorem leads_rebound : Leads blank rebound :=
  have mine : Bond.heard.handle ∈ [Bond.shown, Bond.heard].map Bond.handle :=
    List.mem_cons_of_mem _ (List.mem_singleton_self _)
  ((((Relation.ReflTransGen.single (.bound _ _ _ _)).tail (.bound _ _ _ _)).tail
    (.takenOut mine)).tail (.removedAll _)).tail (.bound _ _ _ _)

/-- The handle from before removes nothing, the new one removes the new bond. -/
theorem precise_rebound :
    Leads blank rebound ∧ rebound.made = [.shown, .heard, .reshown] ∧
      rebound.left = [.reshown] ∧
      rebound.messenger.takeOut Bond.shown.handle
        = (.error (.logic "delegate was already removed"), rebound.messenger) ∧
      (rebound.messenger.takeOut Bond.reshown.handle).1 = .ok () ∧
      rebound.messenger.delegateCount = 1 := by
  have precise := precise_of_leads leads_rebound
  have gone : Bond.shown ∉ rebound.left := by
    intro back
    have same := congrArg (fun bond => bond.handle.index) (List.mem_singleton.mp back)
    exact absurd same (by decide)
  refine ⟨leads_rebound, rfl, rfl, ?_, ?_, ?_⟩
  · exact precise.stale .shown List.mem_cons_self gone rebound .refl
  · have among : Bond.reshown ∈ [Bond.shown, .heard, .reshown] := by simp
    exact (precise.removable .reshown among).mpr (List.mem_singleton_self _)
  · exact Nat.add_right_cancel precise.counted

end Logbook

end DetectorSim
