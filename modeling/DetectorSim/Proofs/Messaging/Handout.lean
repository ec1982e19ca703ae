import Mathlib.Data.List.Sort
import DetectorSim.Proofs.Table
import DetectorSim.Proofs.Text.Bytes
import DetectorSim.Proofs.Messaging.Receipts

/-!
# One dispatch

A message comes to the bonds that it concerns one after the other: in the order of the
names of their detectors, where an instance that works for none counts as nameless, and
for one name in the order in which they were made.  The first one that fails ends the
handout; those before it keep what they got, and nothing else has changed.
-/

set_option autoImplicit false

namespace DetectorSim

/-! ## The order of bonds -/

namespace Bond

variable {κ ω : Type} [Payload κ]

/-- The name of the detector that the owner of a bond works for; empty if it works for
none. -/
def ownerName (bond : Bond κ ω) : String :=
  Messenger.detectorKey bond.delegate.receiver

/-- The bytes of this name. -/
def nameBytes (bond : Bond κ ω) : List UInt8 :=
  bond.ownerName.toUTF8.toList

/-- Of two bonds for one kind of payload, the first has the smaller name, or the earlier
place under the same one. -/
def Before (a b : Bond κ ω) : Prop :=
  textBefore a.handle.detectorKey b.handle.detectorKey ∨
    a.handle.detectorKey = b.handle.detectorKey ∧ a.handle.index < b.handle.index

/-- Some bonds in the order in which a message comes to them. -/
structure InOrder (bonds queue : List (Bond κ ω)) : Prop where
  whole : queue.Perm bonds
  ascending : queue.Pairwise fun a b => ¬ b.nameBytes < a.nameBytes
  /-- Bonds of one name stand as they were made. -/
  stable (name : String) :
    (queue.filter fun bond => bond.ownerName = name)
      = bonds.filter fun bond => bond.ownerName = name

instance : Std.Irrefl (Before : Bond κ ω → Bond κ ω → Prop) where
  irrefl bond before := by
    rcases before with less | ⟨-, less⟩
    · exact String.lt_irrefl _ (of_decide_eq_true less)
    · exact Nat.lt_irrefl _ less

instance : Std.Antisymm (Before : Bond κ ω → Bond κ ω → Prop) where
  antisymm a b before after := by
    rcases before with less | ⟨same, less⟩ <;> rcases after with more | ⟨again, more⟩
    · exact absurd (of_decide_eq_true more) (String.lt_asymm (of_decide_eq_true less))
    · exact absurd again (String.ne_of_lt (of_decide_eq_true less)).symm
    · exact absurd same (String.ne_of_lt (of_decide_eq_true more)).symm
    · exact absurd more (Nat.lt_asymm less)

theorem ownerName_of_unique {bond : Bond κ ω} (unique : bond.delegate.receiver.detector = none) :
    bond.ownerName = "" := by
  unfold ownerName Messenger.detectorKey
  rw [unique]

/-- Before a bond of an instance that works for no detector there are only bonds that are
nameless as well. -/
theorem InOrder.unique_first {bonds queue : List (Bond κ ω)} (order : InOrder bonds queue) :
    queue.Pairwise fun a b => b.delegate.receiver.detector = none → a.ownerName = "" := by
  refine order.ascending.imp fun {a b} before unique => ?_
  by_contra named
  refine before ?_
  rw [nameBytes, ownerName_of_unique unique]
  have filled : a.nameBytes ≠ [] := by
    intro hollow
    rw [nameBytes, Text.toList_toUTF8, List.flatMap_eq_nil_iff] at hollow
    refine named (String.toList_eq_nil_iff.mp ?_)
    refine List.eq_nil_iff_forall_not_mem.mpr fun c among => ?_
    exact String.utf8EncodeChar_ne_nil (hollow c among)
  cases bytes : a.nameBytes with
  | nil => exact absurd bytes filled
  | cons byte rest =>
    rw [Text.toList_toUTF8]
    exact List.nil_lt_cons byte rest

end Bond

namespace Messenger

variable {κ ω : Type} [Payload κ]

/-! ## Bonds in their places -/

/-- The bonds in the places for a kind of payload under one name. -/
def bondsIn (kind : κ) (key : String) (places : List (Option (Delegate κ ω))) :
    List (Bond κ ω) :=
  places.zipIdx.filterMap fun place => place.1.map (Bond.mk ⟨kind, key, place.2⟩)

section Places

variable {kind : κ} {key : String} {places : List (Option (Delegate κ ω))}

theorem map_delegate_bondsIn :
    (bondsIn kind key places).map Bond.delegate = places.filterMap id := by
  conv_rhs => rw [← List.zipIdx_map_fst 0 places, List.filterMap_map]
  rw [bondsIn, List.map_filterMap]
  refine List.filterMap_congr fun ⟨place, index⟩ _ => ?_
  cases place <;> rfl

theorem mem_bondsIn {bond : Bond κ ω} :
    bond ∈ bondsIn kind key places ↔
      bond.handle.kind = kind ∧ bond.handle.detectorKey = key ∧
        places[bond.handle.index]? = some (some bond.delegate) := by
  obtain ⟨⟨kind', key', index⟩, delegate⟩ := bond
  simp only [bondsIn, List.mem_filterMap, Prod.exists, List.mem_zipIdx_iff_getElem?,
    Option.map_eq_some_iff, Bond.mk.injEq, DelegateHandle.mk.injEq]
  constructor
  · rintro ⟨place, at_, there, held, rfl, ⟨rfl, rfl, rfl⟩, rfl⟩
    exact ⟨rfl, rfl, there⟩
  · rintro ⟨rfl, rfl, there⟩
    exact ⟨some delegate, index, there, delegate, rfl, ⟨rfl, rfl, rfl⟩, rfl⟩

theorem pairwise_bondsIn :
    (bondsIn kind key places).Pairwise fun a b => a.handle.index < b.handle.index := by
  refine List.pairwise_filterMap.mpr ?_
  have rising : places.zipIdx.Pairwise fun a b => a.2 < b.2 := by
    rw [← List.pairwise_map (f := Prod.snd) (R := (· < ·)), List.zipIdx_map_snd]
    exact List.pairwise_lt_range'
  refine rising.imp fun less => ?_
  intro a here b there
  obtain ⟨_, -, rfl⟩ := Option.map_eq_some_iff.mp here
  obtain ⟨_, -, rfl⟩ := Option.map_eq_some_iff.mp there
  exact less

end Places

variable [DecidableEq κ]

/-- The bonds for a kind of payload, in the order of their places. -/
def standing (messenger : Messenger κ ω) (kind : κ) : List (Bond κ ω) :=
  (messenger.listsOf kind).entries.flatMap fun entry => bondsIn kind entry.1 entry.2

variable {messenger : Messenger κ ω} {bonds : List (Bond κ ω)} {kind : κ} {bond : Bond κ ω}

theorem map_delegate_standing :
    (messenger.standing kind).map Bond.delegate = messenger.liveOf kind := by
  unfold standing liveOf live
  rw [List.map_flatMap]
  simp only [map_delegate_bondsIn]

theorem mem_standing (ascending : (messenger.listsOf kind).Ascending) :
    bond ∈ messenger.standing kind ↔
      bond.kind = kind ∧ messenger.place? bond.handle = some (some bond.delegate) := by
  rw [place?_eq, column, standing, List.mem_flatMap]
  constructor
  · rintro ⟨⟨key, places⟩, among, inside⟩
    obtain ⟨rfl, rfl, there⟩ := mem_bondsIn.mp inside
    have found : (messenger.listsOf bond.handle.kind).find? bond.handle.detectorKey = some places :=
      (Table.mem_iff_findIn ascending.nodup).mp among
    rw [found]
    exact ⟨rfl, there⟩
  · rintro ⟨rfl, there⟩
    cases found : (messenger.listsOf bond.handle.kind).find? bond.handle.detectorKey with
    | none => simp [found] at there
    | some places =>
      rw [found] at there
      exact ⟨(bond.handle.detectorKey, places), (Table.mem_iff_findIn ascending.nodup).mpr found,
        mem_bondsIn.mpr ⟨rfl, rfl, there⟩⟩

theorem pairwise_standing (ascending : (messenger.listsOf kind).Ascending) :
    (messenger.standing kind).Pairwise Bond.Before := by
  refine List.pairwise_flatMap.mpr ⟨fun entry _ => ?_, ?_⟩
  · refine pairwise_bondsIn.imp_of_mem fun here there less => .inr ⟨?_, less⟩
    rw [(mem_bondsIn.mp here).2.1, (mem_bondsIn.mp there).2.1]
  · refine (List.pairwise_map.mp ascending).imp fun before a here b there => .inl ?_
    rwa [(mem_bondsIn.mp here).2.1, (mem_bondsIn.mp there).2.1]

/-! ## The order of the places -/

/-- The names are sorted, and the bonds under each stand as they were made. -/
structure Ranked (bonds : List (Bond κ ω)) (messenger : Messenger κ ω) : Prop where
  ascending (kind : κ) : (messenger.listsOf kind).Ascending
  named : ∀ bond ∈ bonds, bond.handle.detectorKey = bond.ownerName
  rising : bonds.Pairwise fun a b =>
    a.kind = b.kind → a.handle.detectorKey = b.handle.detectorKey →
      a.handle.index < b.handle.index

theorem ascending_clear (sorted : ∀ kind, (messenger.listsOf kind).Ascending)
    (handle : DelegateHandle κ) (kind : κ) : ((messenger.clear handle).listsOf kind).Ascending := by
  rw [listsOf_clear]
  split
  · exact (sorted kind).change _ _
  · exact sorted kind

theorem ascending_clearAll (sorted : ∀ kind, (messenger.listsOf kind).Ascending)
    (handles : List (DelegateHandle κ)) (kind : κ) :
    ((messenger.clearAll handles).2.listsOf kind).Ascending := by
  induction handles generalizing messenger with
  | nil => exact sorted kind
  | cons handle rest ih =>
    unfold clearAll
    split
    · exact ih (ascending_clear sorted handle)
    · exact ih sorted

theorem Ranked.bind (ranked : Ranked bonds messenger) (wired : Wired bonds messenger)
    (receiver : Receiver) (kind : κ) (flags : MessageFlags) (delegateKind : DelegateKind κ ω) :
    Ranked (bonds ++ [messenger.nextBond receiver kind flags delegateKind])
      (messenger.bind receiver kind flags delegateKind) where
  ascending other := by
    rw [listsOf_bind]
    split
    · exact (ranked.ascending other).alterSorted _ _ _
    · exact ranked.ascending other
  named bond among := by
    rcases List.mem_append.mp among with old | new
    · exact ranked.named bond old
    · rw [List.mem_singleton.mp new]
      rfl
  rising := by
    refine List.pairwise_append.mpr ⟨ranked.rising, List.pairwise_singleton _ _, ?_⟩
    intro old among new last sameKind sameKey
    obtain rfl := List.mem_singleton.mp last
    have there := (wired.placed old.handle old.delegate).mpr among
    rw [place?_eq, sameKey, show old.handle.kind = kind from sameKind] at there
    exact (List.getElem?_eq_some_iff.mp there).1

theorem Ranked.restrict (ranked : Ranked bonds messenger) (stays : Bond κ ω → Bool)
    {after : Messenger κ ω} (sorted : ∀ kind, (after.listsOf kind).Ascending) :
    Ranked (bonds.filter stays) after where
  ascending := sorted
  named bond among := ranked.named bond (List.mem_filter.mp among).1
  rising := ranked.rising.sublist List.filter_sublist

theorem Built.ranked (built : Built bonds messenger) : Ranked bonds messenger := by
  induction built with
  | empty =>
    exact ⟨fun _ => Table.Ascending.empty, fun _ => nofun, .nil⟩
  | bound built receiver kind flags delegateKind ih =>
    exact ih.bind built.wired receiver kind flags delegateKind
  | @removed bonds messenger after handle built removed ih =>
    refine ih.restrict _ fun kind => ?_
    unfold Messenger.remove at removed
    split at removed
    · cases removed
    · cases removed
    · obtain rfl := Except.ok.inj removed
      exact ascending_clear ih.ascending handle kind
  | removedAll built owner ih =>
    exact ih.restrict _ (ascending_clearAll ih.ascending _)

/-! ## Who gets a message, and when -/

/-- The bonds that a message concerns, in the order in which it comes to them. -/
def queue (messenger : Messenger κ ω) (message : AnyMessage κ) : List (Bond κ ω) :=
  (messenger.standing message.kind).filter fun bond => bond.Concerns message

variable {message : AnyMessage κ}

/-- A message is given to the delegates of its queue. -/
theorem map_delegate_queue (ranked : Ranked bonds messenger) :
    (messenger.queue message).map Bond.delegate = messenger.accepting message := by
  rw [accepting_eq, ← map_delegate_standing, List.filter_map, queue]
  refine congrArg _ (List.filter_congr fun bond among => ?_)
  have kind := ((mem_standing (ranked.ascending _)).mp among).1
  rw [Bool.eq_iff_iff, decide_eq_true_iff, Bond.concerns_iff, kind]
  exact and_iff_right rfl

theorem mem_queue (wired : Wired bonds messenger) (ranked : Ranked bonds messenger) :
    bond ∈ messenger.queue message ↔ bond ∈ bonds ∧ bond.Concerns message := by
  rw [queue, List.mem_filter, mem_standing (ranked.ascending _), wired.placed,
    decide_eq_true_iff]
  exact ⟨fun ⟨there, concerns⟩ => ⟨there.2, concerns⟩,
    fun ⟨live, concerns⟩ => ⟨⟨concerns.1.symm, live⟩, concerns⟩⟩

theorem pairwise_queue (ranked : Ranked bonds messenger) :
    (messenger.queue message).Pairwise Bond.Before :=
  (pairwise_standing (ranked.ascending _)).sublist List.filter_sublist

/-- The bonds that a message concerns get it by the bytes of their names, and as they were
made where these are equal. -/
theorem Built.inOrder (built : Built bonds messenger) (message : AnyMessage κ) :
    Bond.InOrder (bonds.filter fun bond => bond.Concerns message) (messenger.queue message) := by
  have wired := built.wired
  have ranked := built.ranked
  have names {bond : Bond κ ω} (among : bond ∈ messenger.queue message) :
      bond.handle.detectorKey = bond.ownerName :=
    ranked.named bond ((mem_queue wired ranked).mp among).1
  have kinds {bond : Bond κ ω} (among : bond ∈ messenger.queue message) :
      bond.kind = message.kind := ((mem_queue wired ranked).mp among).2.1.symm
  have perm : (messenger.queue message).Perm (bonds.filter fun bond => bond.Concerns message) := by
    refine (List.perm_ext_iff_of_nodup ?_ ?_).mpr fun bond => ?_
    · exact (pairwise_queue ranked).nodup
    · exact wired.distinct.of_map.filter _
    · rw [mem_queue wired ranked, List.mem_filter, decide_eq_true_iff]
  refine ⟨perm, ?_, fun name => ?_⟩
  · refine (pairwise_queue ranked).imp_of_mem fun {a b} here there before => ?_
    unfold Bond.nameBytes
    rw [← names here, ← names there]
    rcases before with less | ⟨same, -⟩
    · exact List.lt_asymm ((Text.textBefore_iff _ _).mp less)
    · rw [same]
      exact List.lt_irrefl _
  · refine List.Pairwise.eq_of_mem_iff (r := Bond.Before) ?_ ?_ fun bond => ?_
    · exact (pairwise_queue ranked).sublist List.filter_sublist
    · refine ((ranked.rising.sublist (List.filter_sublist.trans List.filter_sublist)).imp_of_mem
        fun {a b} here there rising => .inr ?_)
      obtain ⟨here, mine⟩ := List.mem_filter.mp here
      obtain ⟨there, theirs⟩ := List.mem_filter.mp there
      rw [(perm.mem_iff).symm] at here there
      have same : a.handle.detectorKey = b.handle.detectorKey := by
        rw [names here, names there, of_decide_eq_true mine, of_decide_eq_true theirs]
      exact ⟨same, rising ((kinds here).trans (kinds there).symm) same⟩
    · rw [List.mem_filter, List.mem_filter, perm.mem_iff]

end Messenger

/-! ## One handout -/

/-- Why a delegate does not take a message: its listener does not end well, or its slot
for one message is filled and must not be overwritten. -/
inductive Delegate.Refuses {κ ω : Type} [Payload κ] (delegate : Delegate κ ω)
    (message : AnyMessage κ) (store : MessageStore κ) (env : Env ω) : Outcome Unit → Prop
  | broken {callback : AnyMessage κ → Hook ω Unit} {outcome : Outcome Unit} {left : Env ω}
      (listens : delegate.kind = .listener callback)
      (called : Hook.exec (callback message) env = (outcome, left)) (failed : outcome ≠ .ok ()) :
      Refuses delegate message store env
        (outcome.mapError fun err => err.inModule delegate.receiver.name .run)
  | filled {held : AnyMessage κ} (single : delegate.kind = .single)
      (strict : delegate.flags.allowOverwrite = false)
      (found : store.state? delegate.slotRef = some (.single (some held))) :
      Refuses delegate message store env
        (.error (.messageOverwrite delegate.receiver.name message.typeName store.event))

namespace Messenger

variable {κ ω : Type} [Payload κ]

/-- What a message does that comes to a queue of bonds: some of them are served, the next
one may fail, and the others are not reached.  The listeners of those served turn the
environment `env` into `mid`, and that of the failing one, if it has one, turns `mid` into
`last`. -/
structure Handout (queue : List (Bond κ ω)) (message : AnyMessage κ) (store : MessageStore κ)
    (env : Env ω) (outcome : Outcome Unit) (after : MessageStore κ) (mid last : Env ω)
    (served : List (Bond κ ω)) (failing : Option (Bond κ ω)) (later : List (Bond κ ω)) : Prop where
  split : queue = served ++ failing.toList ++ later
  /-- Those served and the failing one have their turns, and nobody else. -/
  visited :
    (Proc.turns (serve message) (queue.map Bond.delegate) (store, env)).map Prod.fst
      = (served ++ failing.toList).map Bond.delegate
  /-- The listeners of those served are called one after the other and end well. -/
  heard : Proc.each Hook.exec ((served.map Bond.delegate).filterMap (hook? message)) env
    = (.ok (), mid)
  /-- These calls are made, and that of the failing one, and no others. -/
  calls : callsServing message (queue.map Bond.delegate) (store, env)
    = (served.map Bond.delegate).filterMap (goodCall? message)
      ++ failing.toList.filterMap fun bond => callOf? message bond.delegate mid
  complete : failing = none → later = [] ∧ outcome = .ok () ∧ last = mid
  failed : ∀ bond ∈ failing, outcome ≠ .ok () ∧
    (bond.delegate, (after, mid))
        ∈ Proc.turns (serve message) (queue.map Bond.delegate) (store, env) ∧
      bond.delegate.Refuses message after mid outcome ∧
      last = (Proc.each Hook.exec (hook? message bond.delegate).toList mid).2
  /-- A slot that was served has one message more, or one call; a slot for one message that
  must not be overwritten was free. -/
  received : ∀ bond ∈ served, ∃ taken,
    store.state? bond.slot = some (bond.delegate.kind.slotKind.contents taken) ∧
      after.state? bond.slot = some (bond.delegate.kind.slotKind.contents (taken ++ [message])) ∧
      (bond.delegate.kind.slotKind = .single → bond.delegate.flags.allowOverwrite = false →
        taken = [])
  /-- No other slot has changed. -/
  kept : ∀ ref ∉ served.map Bond.slot, after.state? ref = store.state? ref

section Serving

variable {message : AnyMessage κ} {delegate : Delegate κ ω} {store after : MessageStore κ}
  {env env' : Env ω} {outcome : Outcome Unit} {taken : List (AnyMessage κ)}

theorem refuses_of_accept
    (held : store.state? delegate.slotRef = some (delegate.kind.slotKind.contents taken))
    {err : Error}
    (refused : MessageStore.accept store.event delegate message
      (delegate.kind.slotKind.contents taken) = .error err) :
    delegate.Refuses message store env (.error err) := by
  cases kind : delegate.kind with
  | single =>
    rw [kind] at held refused
    simp only [DelegateKind.slotKind, SlotKind.contents, MessageStore.accept] at refused
    split at refused
    · next full =>
      rw [Bool.and_eq_true, Option.isSome_iff_exists] at full
      obtain ⟨⟨last, found⟩, strict⟩ := full
      obtain rfl := Except.error.inj refused
      have closed : delegate.flags.allowOverwrite = false := by
        simpa [MessageFlags.contains, MessageFlags.overwriting] using strict
      have filled : store.state? delegate.slotRef = some (.single (some last)) := by
        rw [held, DelegateKind.slotKind, SlotKind.contents, found]
      exact .filled kind closed filled
    · cases refused
  | multi => rw [kind] at refused; cases refused
  | listener callback => rw [kind] at refused; cases refused

/-- A delegate that could not be served refuses the message. -/
theorem refuses_of_serve
    (held : store.state? delegate.slotRef = some (delegate.kind.slotKind.contents taken))
    (served : serve message delegate (store, env) = (outcome, (after, env')))
    (failed : outcome ≠ .ok ()) : delegate.Refuses message store env outcome := by
  unfold serve at served
  rcases called : callListener delegate message env with ⟨ended, left⟩
  simp only [called] at served
  have broken (same : ended = outcome) : delegate.Refuses message store env outcome := by
    subst same
    unfold callListener at called
    cases kind : delegate.kind with
    | single => rw [kind] at called; cases called; exact absurd rfl failed
    | multi => rw [kind] at called; cases called; exact absurd rfl failed
    | listener callback =>
      rcases ran : Hook.exec (callback message) env with ⟨heard, worked⟩
      simp only [kind, Proc.mapError, ran, Prod.mk.injEq] at called
      obtain ⟨rfl, -⟩ := called
      refine .broken kind ran fun fine => failed ?_
      rw [fine]
      rfl
  cases ended with
  | error err => cases served; exact broken rfl
  | panic text => cases served; exact broken rfl
  | ok =>
    have found : store.state? ⟨delegate.receiver.id, delegate.slot⟩
      = some (delegate.kind.slotKind.contents taken) := held
    simp only [MessageStore.deliver, found] at served
    cases accepted : MessageStore.accept store.event delegate message
        (delegate.kind.slotKind.contents taken) with
    | ok filled =>
      simp only [accepted] at served
      cases served
      exact absurd rfl failed
    | error err =>
      simp only [accepted] at served
      cases served
      exact refuses_of_accept held accepted

/-- A delegate that was served has one message more. -/
theorem state?_of_serve_ok
    (held : store.state? delegate.slotRef = some (delegate.kind.slotKind.contents taken))
    (served : serve message delegate (store, env) = (.ok (), (after, env'))) :
    after.state? delegate.slotRef
        = some (delegate.kind.slotKind.contents (taken ++ [message])) ∧
      (delegate.kind.slotKind = .single → delegate.flags.allowOverwrite = false →
        taken = []) := by
  obtain ⟨before, filled, found, accepted, rfl⟩ := serve_ok served
  obtain rfl := Option.some.inj (held.symm.trans found)
  obtain ⟨rfl, free⟩ := MessageStore.accept_contents accepted
  refine ⟨?_, free⟩
  rw [MessageStore.state?_put, if_pos rfl, held]
  rfl

/-! ### Step by step -/

variable {first : Bond κ ω} {rest served later : List (Bond κ ω)} {failing : Option (Bond κ ω)}
  {middle : MessageStore κ} {left mid last : Env ω}

/-- A handout ends with a bond that fails. -/
theorem Handout.stop
    (held : store.state? first.slot = some (first.delegate.kind.slotKind.contents taken))
    (start : serve message first.delegate (store, env) = (outcome, (after, left)))
    (failed : outcome ≠ .ok ()) :
    Handout (first :: rest) message store env outcome after env left [] (some first) rest := by
  obtain rfl := (store_of_serve_failed start failed).symm
  have turns : Proc.turns (serve message) (first.delegate :: rest.map Bond.delegate) (store, env)
      = [(first.delegate, (store, env))] := Proc.turns_cons_of_ne start failed
  refine ⟨rfl, congrArg _ turns, rfl, ?_, nofun, ?_, nofun, fun _ _ => rfl⟩
  · rw [callsServing, List.map_cons, turns]
    rfl
  · rintro bond ⟨⟩
    obtain ⟨ended, heard, -⟩ := exec_of_serve start
    refine ⟨failed, ?_, refuses_of_serve held start failed, by rw [heard]⟩
    rw [List.map_cons, turns]
    exact List.mem_singleton_self _

/-- A handout goes on after a bond that was served. -/
theorem Handout.cons (fresh : first.slot ∉ rest.map Bond.slot)
    (held : store.state? first.slot = some (first.delegate.kind.slotKind.contents taken))
    (start : serve message first.delegate (store, env) = (.ok (), (middle, left)))
    (handout : Handout rest message middle left outcome after mid last served failing later) :
    Handout (first :: rest) message store env outcome after mid last (first :: served) failing
      later := by
  have turns : Proc.turns (serve message) (first.delegate :: rest.map Bond.delegate) (store, env)
      = (first.delegate, (store, env))
        :: Proc.turns (serve message) (rest.map Bond.delegate) (middle, left) :=
    Proc.turns_cons_of_ok start
  have elsewhere {ref : SlotRef} (other : ref ≠ first.slot) :
      middle.state? ref = store.state? ref := state?_serve_of_ne (Ne.symm other) start
  have among {bond : Bond κ ω} (mine : bond ∈ served) : bond ∈ rest := by
    rw [handout.split, List.append_assoc]
    exact List.mem_append_left _ mine
  have notServed : first.slot ∉ served.map Bond.slot := fun again =>
    fresh (List.map_subset _ (fun _ => among) again)
  obtain ⟨ended, heard, fine⟩ := exec_of_serve start
  obtain rfl := fine rfl
  refine ⟨?_, ?_, ?_, ?_, handout.complete, ?_, ?_, ?_⟩
  · rw [handout.split]
    rfl
  · rw [List.map_cons, turns, List.map_cons, handout.visited]
    rfl
  · rw [List.map_cons, filterMap_hook?_cons, Proc.each_append, Proc.andThen, heard]
    exact handout.heard
  · have calls := handout.calls
    unfold callsServing at calls ⊢
    rw [List.map_cons, turns, List.filterMap_cons, calls, callOf?_eq_goodCall? heard,
      List.map_cons, List.filterMap_cons]
    cases goodCall? message first.delegate <;> rfl
  · intro bond reached
    obtain ⟨failed, turn, refuses, left⟩ := handout.failed bond reached
    refine ⟨failed, ?_, refuses, left⟩
    rw [List.map_cons, turns]
    exact List.mem_cons_of_mem _ turn
  · refine List.forall_mem_cons.mpr ⟨⟨taken, held, ?_⟩, fun bond mine => ?_⟩
    · rw [handout.kept _ notServed]
      exact state?_of_serve_ok held start
    · have other : bond.slot ≠ first.slot := fun same =>
        fresh (same ▸ List.mem_map_of_mem (among mine))
      rw [← elsewhere other]
      exact handout.received bond mine
  · intro ref other
    rw [List.map_cons, List.mem_cons, not_or] at other
    rw [handout.kept ref other.2, elsewhere other.1]

/-- A filled slot for one message that must not be overwritten is not served. -/
theorem Handout.notMem_served {queue : List (Bond κ ω)} {ref : SlotRef} {held : AnyMessage κ}
    (handout : Handout queue message store env outcome after mid last served failing later)
    (strict : ∀ bond ∈ queue, bond.slot = ref →
      bond.delegate.kind = .single ∧ bond.delegate.flags.allowOverwrite = false)
    (filled : store.state? ref = some (.single (some held))) :
    ref ∉ served.map Bond.slot := by
  intro among
  obtain ⟨bond, mine, rfl⟩ := List.mem_map.mp among
  have queued : bond ∈ queue := by
    rw [handout.split, List.append_assoc]
    exact List.mem_append_left _ mine
  obtain ⟨single, closed⟩ := strict bond queued rfl
  obtain ⟨taken, found, -, free⟩ := handout.received bond mine
  rw [single] at found free
  rw [free rfl closed, filled] at found
  cases found

/-- A message that comes to some bonds makes a handout. -/
theorem exists_handout {queue : List (Bond κ ω)} (apart : (queue.map Bond.slot).Nodup)
    (held : ∀ bond ∈ queue, ∃ taken,
      store.state? bond.slot = some (bond.delegate.kind.slotKind.contents taken))
    (ran : Proc.each (serve message) (queue.map Bond.delegate) (store, env)
      = (outcome, (after, env'))) :
    ∃ mid served failing later,
      Handout queue message store env outcome after mid env' served failing later := by
  induction queue generalizing store env with
  | nil =>
    cases ran
    exact ⟨_, [], none, [], rfl, rfl, rfl, rfl, fun _ => ⟨rfl, rfl, rfl⟩, nofun, nofun,
      fun _ _ => rfl⟩
  | cons first rest ih =>
    obtain ⟨fresh, apart⟩ := List.nodup_cons.mp apart
    obtain ⟨⟨taken, here⟩, others⟩ := List.forall_mem_cons.mp held
    rcases start : serve message first.delegate (store, env) with ⟨ended, middle, left⟩
    rw [List.map_cons] at ran
    by_cases fine : ended = .ok ()
    · subst fine
      rw [Proc.each_cons_of_ok start] at ran
      have ready : ∀ bond ∈ rest, ∃ taken,
          middle.state? bond.slot = some (bond.delegate.kind.slotKind.contents taken) := by
        intro bond among
        have other : first.slot ≠ bond.slot := fun same =>
          fresh (same ▸ List.mem_map_of_mem among)
        rw [state?_serve_of_ne other start]
        exact others bond among
      obtain ⟨mid, served, failing, later, handout⟩ := ih apart ready ran
      exact ⟨mid, first :: served, failing, later, handout.cons fresh here start⟩
    · rw [Proc.each_cons_of_ne start fine] at ran
      cases ran
      exact ⟨env, [], some first, rest, .stop here start fine⟩

end Serving

/-! ## What comes later -/

variable [DecidableEq κ]

/-- What further dispatches with any outcome, and removals, lead to. -/
inductive Onward (messenger : Messenger κ ω) (store : MessageStore κ) :
    Messenger κ ω → MessageStore κ → Prop
  | now : Onward messenger store messenger store
  | dispatched {mid : Messenger κ ω} {before after : MessageStore κ} {outcome : Outcome Unit}
      {env' : Env ω} (onward : Onward messenger store mid before) (source : Receiver)
      (message : AnyMessage κ) (env : Env ω)
      (ran : mid.dispatch source message (before, env) = (outcome, (after, env'))) :
      Onward messenger store mid after
  | removed {mid after : Messenger κ ω} {held : MessageStore κ} {handle : DelegateHandle κ}
      (onward : Onward messenger store mid held) (removed : mid.remove handle = .ok after) :
      Onward messenger store after held
  | removedAll {mid : Messenger κ ω} {held : MessageStore κ}
      (onward : Onward messenger store mid held) (owner : InstanceId) :
      Onward messenger store (mid.removeAll owner).2 held

variable {event : Nat} {bonds : List (Bond κ ω)} {messenger : Messenger κ ω} {bond : Bond κ ω}
  {message : AnyMessage κ} {store after : MessageStore κ} {env env' : Env ω}
  {receipts : List (Receipt κ)} {outcome : Outcome Unit} {source : Receiver}

theorem Posted.built (history : Posted event bonds messenger store receipts) :
    Built bonds messenger := by
  induction history with
  | opened built => exact built
  | dispatched _ _ _ _ _ ih => exact ih
  | removed _ removed ih => exact ih.removed removed
  | removedAll _ owner ih => exact ih.removedAll owner

/-- Whoever gets a message has a slot of its own. -/
theorem Built.nodup_queue (built : Built bonds messenger) (message : AnyMessage κ) :
    ((messenger.queue message).map Bond.slot).Nodup := by
  have apart := built.wired.nodup_accepting message
  rwa [← map_delegate_queue built.ranked, List.map_map] at apart

/-- Every dispatch makes a handout.  If all goes well a record is added to the log. -/
theorem Posted.exists_handout (history : Posted event bonds messenger store receipts)
    (ran : messenger.dispatch source message (store, env) = (outcome, (after, env'))) :
    ∃ mid last served failing later,
      Handout (messenger.queue message) message store env outcome after mid last served failing
        later ∧
      (outcome ≠ .ok () → env' = last) ∧
      (outcome = .ok () → ∃ text, Proc.log .trace text last = (.ok (), env')) := by
  have built := history.built
  obtain ⟨last, worked, failed, noted⟩ := each_of_dispatch ran
  rw [← map_delegate_queue built.ranked] at worked
  obtain ⟨mid, served, failing, later, handout⟩ := Messenger.exists_handout
    (built.nodup_queue message) (fun bond among =>
      ⟨_, history.state?_slot ((mem_queue built.wired built.ranked).mp among).1⟩) worked
  exact ⟨mid, last, served, failing, later, handout, failed, noted⟩

/-- What comes later is a history as well, with fewer bonds. -/
theorem Onward.posted {messenger' : Messenger κ ω} {store' : MessageStore κ}
    (onward : Onward messenger store messenger' store')
    (history : Posted event bonds messenger store receipts) :
    ∃ bonds' receipts', bonds' ⊆ bonds ∧ Posted event bonds' messenger' store' receipts' := by
  induction onward with
  | now => exact ⟨bonds, receipts, List.Subset.refl _, history⟩
  | dispatched onward source message env ran ih =>
    obtain ⟨bonds', receipts', fewer, later⟩ := ih
    exact ⟨bonds', _, fewer, later.dispatched source message env ran⟩
  | removed onward removed ih =>
    obtain ⟨bonds', receipts', fewer, later⟩ := ih
    exact ⟨_, receipts', fun _ among => fewer (List.mem_filter.mp among).1, later.removed removed⟩
  | removedAll onward owner ih =>
    obtain ⟨bonds', receipts', fewer, later⟩ := ih
    exact ⟨_, receipts', fun _ among => fewer (List.mem_filter.mp among).1, later.removedAll owner⟩

/-- A filled slot for one message that must not be overwritten keeps its message. -/
theorem Onward.keeps {ref : SlotRef} {held : AnyMessage κ} {messenger' : Messenger κ ω}
    {store' : MessageStore κ} (onward : Onward messenger store messenger' store')
    (history : Posted event bonds messenger store receipts)
    (strict : ∀ bond ∈ bonds, bond.slot = ref →
      bond.delegate.kind = .single ∧ bond.delegate.flags.allowOverwrite = false)
    (filled : store.state? ref = some (.single (some held))) :
    store'.state? ref = some (.single (some held)) := by
  induction onward with
  | now => exact filled
  | dispatched onward source message env ran ih =>
    obtain ⟨bonds', receipts', fewer, later⟩ := onward.posted history
    obtain ⟨mid, last, served, failing, unreached, handout, -⟩ := later.exists_handout ran
    rw [handout.kept ref (handout.notMem_served (fun bond queued => ?_) ih), ih]
    exact strict bond (fewer ((mem_queue later.built.wired later.built.ranked).mp queued).1)
  | removed onward removed ih => exact ih
  | removedAll onward owner ih => exact ih

/-! ## Every dispatch -/

/-- **One dispatch, whether it fails or not.**  In a store that was opened after the last
bind, a message comes to the delegates that it concerns in order of the bytes of their
names, where the bonds of instances that work for no detector have the empty name, and as
they were bound under one name.  It ends with the first one that refuses it.  Those before
have taken it, and their listeners have been called and ended well; nothing else has
happened to the world, and no other slot has changed.  So a filled slot for one message
that must not be overwritten keeps it in all that follows. -/
theorem Posted.in_turn (history : Posted event bonds messenger store receipts) :
    (∀ (source : Receiver) (message : AnyMessage κ) (env : Env ω) (outcome : Outcome Unit)
        (after : MessageStore κ) (env' : Env ω),
      messenger.dispatch source message (store, env) = (outcome, (after, env')) →
      ∃ queue mid last served failing later,
        queue.map Bond.delegate = messenger.accepting message ∧
        Bond.InOrder (bonds.filter fun bond => bond.Concerns message) queue ∧
        (queue.Pairwise fun a b => b.delegate.receiver.detector = none → a.ownerName = "") ∧
        Handout queue message store env outcome after mid last served failing later ∧
        messenger.callsOf message (store, env)
          = (served.map Bond.delegate).filterMap (goodCall? message)
            ++ failing.toList.filterMap (fun bond => callOf? message bond.delegate mid) ∧
        (outcome ≠ .ok () → env' = last) ∧
        (outcome = .ok () → ∃ text, Proc.log .trace text last = (.ok (), env'))) ∧
    ∀ bond ∈ bonds, bond.delegate.kind = .single → bond.delegate.flags.allowOverwrite = false →
      ∀ held, store.state? bond.slot = some (.single (some held)) →
        ∀ messenger' store', Onward messenger store messenger' store' →
          store'.state? bond.slot = some (.single (some held)) := by
  have built := history.built
  constructor
  · intro source message env outcome after env' ran
    obtain ⟨mid, last, served, failing, later, handout, ends⟩ := history.exists_handout ran
    have order := built.inOrder message
    have queued : (messenger.queue message).map Bond.delegate = messenger.accepting message :=
      map_delegate_queue built.ranked
    refine ⟨_, mid, last, served, failing, later, queued, order, order.unique_first, handout,
      ?_, ends⟩
    rw [callsOf, ← queued]
    exact handout.calls
  · intro bond live single strict held filled messenger' store' onward
    refine onward.keeps history (fun other among same => ?_) filled
    obtain rfl := List.inj_on_of_nodup_map built.wired.apart among live same
    exact ⟨single, strict⟩

end Messenger

/-! ## Two messengers to try things on -/

open Builtin

/-- A listener of the display that ignores names.  It counts in the world, and refuses to
count beyond three. -/
def countToThree : Hook Nat Unit := do
  let count ← Hook.world
  if count < 3 then Hook.update Nat.succ else Routine.fail (.runtime "enough")

/-- The bond of this listener. -/
def Bond.alerted : Bond PayloadKind Nat :=
  ⟨⟨.hits, "left", 0⟩, ⟨.leftDisplay, 0, .anyName, .listener fun _ => countToThree⟩⟩

/-- A slot of the display that must not be overwritten. -/
def Bond.insisted : Bond PayloadKind Nat :=
  ⟨⟨.hits, "left", 1⟩, ⟨.leftDisplay, 1, .none, .single⟩⟩

/-- A display of a detector without a name. -/
def Receiver.namelessDisplay : Receiver :=
  ⟨⟨0⟩, "display", some (.atOrigin "" "sensor")⟩

/-- An observer that works for no detector. -/
def Receiver.observer : Receiver :=
  ⟨⟨1⟩, "observer", none⟩

namespace Messenger

/-- The messenger with both bonds of the display. -/
def insisting : Messenger PayloadKind Nat :=
  (empty.bind .leftDisplay PayloadKind.hits .anyName (.listener fun _ => countToThree)).bind
    .leftDisplay .hits .none .single

/-- The second message is refused after the listener got it, and the slot keeps the first.
When the listener fails, its call is not counted and nothing comes to the slot. -/
theorem in_turn_insisting :
    ∃ store receipts after env',
      Posted 1 [.alerted, .insisted] insisting store receipts ∧
      insisting.dispatch .leftDisplay (.hitless 1 "left") (store, ⟨1, .empty⟩)
        = (.error (.messageOverwrite "display" (Payload.typeName PayloadKind.hits) 1),
            (after, env')) ∧
      env'.world = 2 ∧
      after.state? Bond.alerted.slot = some (.listener 2) ∧
      after.state? Bond.insisted.slot = some (.single (some (.hitless 0 "left"))) ∧
      ∃ queue mid last served failing later,
        queue.map Bond.delegate = [Bond.alerted.delegate, Bond.insisted.delegate] ∧
        Handout queue (.hitless 2 "left") after ⟨3, .empty⟩
          (.error (.inModule "display" .run (.runtime "enough"))) after mid last served failing
          later ∧ last.world = 3 := by
  have built : Built [.alerted, .insisted] insisting :=
    (Built.empty.bound .leftDisplay PayloadKind.hits .anyName
      (.listener fun _ => countToThree)).bound .leftDisplay PayloadKind.hits .none .single
  obtain ⟨store, receipts, after, env', history, ran, counted, filled, heard, failed⟩ :
      ∃ store receipts after env', Posted 1 [.alerted, .insisted] insisting store receipts ∧
        insisting.dispatch .leftDisplay (.hitless 1 "left") (store, ⟨1, .empty⟩)
          = (.error (.messageOverwrite "display" (Payload.typeName PayloadKind.hits) 1),
              (after, env')) ∧
        env'.world = 2 ∧
        store.state? Bond.insisted.slot = some (.single (some (.hitless 0 "left"))) ∧
        after.state? Bond.alerted.slot = some (.listener 2) ∧
        insisting.dispatch .leftDisplay (.hitless 2 "left") (after, ⟨3, .empty⟩)
          = (.error (.inModule "display" .run (.runtime "enough")), (after, ⟨3, .empty⟩)) :=
    ⟨_, _, _, _, (Posted.opened built).dispatched .leftDisplay (.hitless 0 "left") ⟨0, .empty⟩ rfl,
      rfl, rfl, rfl, rfl, rfl⟩
  have kept := history.in_turn.2 .insisted
    (List.mem_cons_of_mem _ (List.mem_singleton_self _)) rfl rfl _ filled
  have onward := history.dispatched .leftDisplay (.hitless 1 "left") ⟨1, .empty⟩ ran
  obtain ⟨queue, mid, last, served, failing, later, queued, -, -, handout, -, ends, -⟩ :=
    onward.in_turn.1 _ _ _ _ _ _ failed
  obtain rfl := ends nofun
  refine ⟨store, receipts, after, env', history, ran, counted, heard,
    kept _ _ (Onward.now.dispatched .leftDisplay _ _ ran), queue, mid, _, served, failing, later,
    queued, handout, rfl⟩

/-- The messenger with a bond of the nameless display and one of the observer. -/
def observing : Messenger PayloadKind Unit :=
  (empty.bind .namelessDisplay PayloadKind.hits .none .multi).bind .observer .hits .none .multi

/-- A detector may have the empty name.  Its bonds then stand among those of the instances
that work for no detector, and a message comes to them first if they were made first. -/
theorem not_unique_first :
    ¬ ∀ (bonds : List (Bond PayloadKind Unit)) (messenger : Messenger PayloadKind Unit)
      (message : AnyMessage PayloadKind) (store : MessageStore PayloadKind) (env : Env Unit),
      Built bonds messenger →
      ((Proc.turns (serve message) (messenger.accepting message) (store, env)).map fun turn =>
        turn.1.receiver.detector).Pairwise fun a b => b = none → a = none := by
  intro always
  have built : Built _ observing :=
    (Built.empty.bound .namelessDisplay PayloadKind.hits .none .multi).bound .observer .hits
      .none .multi
  have ordered := always _ observing (.hitless 0 "") (observing.newStore 1) ⟨(), .empty⟩ built
  have visits : ((Proc.turns (serve (.hitless 0 "")) (observing.accepting (.hitless 0 ""))
      (observing.newStore 1, ⟨(), .empty⟩)).map fun turn => turn.1.receiver.detector)
    = [some (.atOrigin "" "sensor"), none] := rfl
  rw [visits] at ordered
  cases (List.pairwise_cons.mp ordered).1 none (List.mem_singleton_self _) rfl

end Messenger
end DetectorSim
