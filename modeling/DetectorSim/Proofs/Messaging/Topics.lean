import DetectorSim.Proofs.Messaging.Receipts

/-!
# Messages told by what they are about

Which slots a message goes to depends on its kind and on the name of its detector alone.
So what an event holds at some time can be told by the topics of the messages that were
sent, whoever sent them and whatever their data are: who has got something, who would
take a further message, and whether that message would find its slots free.
-/

set_option autoImplicit false

namespace DetectorSim

/-- What a message is about: its kind, and the name of the detector that it is for. -/
abbrev Topic (κ : Type) : Type :=
  κ × Option String

/-- The topic of a message. -/
def AnyMessage.topic {κ : Type} [Payload κ] (any : AnyMessage κ) : Topic κ :=
  (any.kind, any.detector.map Detector.name)

namespace Bond

variable {κ ω : Type} [Payload κ]

/-- Messages on a topic concern a bond. -/
def Takes (bond : Bond κ ω) (topic : Topic κ) : Prop :=
  topic.1 = bond.kind ∧
    (topic.2 = none ∨ bond.delegate.receiver.detector = none ∨
      topic.2 = bond.delegate.receiver.detector.map Detector.name ∨
      bond.delegate.flags.ignoreName)

theorem concerns_iff_takes {bond : Bond κ ω} {message : AnyMessage κ} :
    bond.Concerns message ↔ bond.Takes message.topic := by
  simp [Concerns, Takes, AnyMessage.topic]

/-- A bond of an instance for a detector takes what is for that detector, if it minds the
names and all messages are for detectors. -/
theorem takes_iff_of_detector {bond : Bond κ ω} {detector : Detector}
    (own : bond.delegate.receiver.detector = some detector)
    (minds : bond.delegate.flags.ignoreName = false) {kind : κ} {name : String} :
    bond.Takes (kind, some name) ↔ kind = bond.kind ∧ name = detector.name := by
  simp [Takes, own, minds]

/-- A bond of an instance for no detector takes all that is of its kind. -/
theorem takes_iff_of_none {bond : Bond κ ω} (own : bond.delegate.receiver.detector = none)
    {topic : Topic κ} : bond.Takes topic ↔ topic.1 = bond.kind := by
  simp [Takes, own]

variable [DecidableEq κ]

theorem kind_of_mem_addressed {bond : Bond κ ω} {sent : List (AnyMessage κ)}
    {any : AnyMessage κ} (among : any ∈ bond.addressed sent) : any.kind = bond.kind := by
  have concerns : bond.Concerns any := of_decide_eq_true (List.mem_filter.mp among).2
  exact concerns.1

/-- Nothing that concerns a bond was sent. -/
theorem addressed_eq_nil_iff {bond : Bond κ ω} {sent : List (AnyMessage κ)} :
    bond.addressed sent = [] ↔ ∀ topic ∈ sent.map AnyMessage.topic, ¬ bond.Takes topic := by
  simp only [addressed, List.filter_eq_nil_iff, List.forall_mem_map, decide_eq_true_iff,
    concerns_iff_takes]

end Bond

/-! ## What a store holds -/

section Stores

variable {κ ω : Type} [Payload κ] [DecidableEq κ]

/-- The slot of each bond holds the messages that concern it. -/
def MessageStore.Holds (store : MessageStore κ) (bonds : List (Bond κ ω))
    (sent : List (AnyMessage κ)) : Prop :=
  ∀ bond ∈ bonds,
    store.state? bond.slot = some (bond.delegate.kind.slotKind.contents (bond.addressed sent))

namespace MessageStore.Holds

variable {messenger : Messenger κ ω} {bonds : List (Bond κ ω)} {bond : Bond κ ω}
  {store after : MessageStore κ} {sent : List (AnyMessage κ)} {message : AnyMessage κ}
  {source : Receiver} {env env' : Env ω}

/-- A store that was opened for an event holds nothing. -/
theorem opened (wired : messenger.Wired bonds) (event : Nat) :
    (messenger.newStore event).Holds bonds [] := by
  intro bond live
  rw [Messenger.state?_newStore, wired.shaped bond live]
  rfl

/-- What is sent with success is held. -/
theorem dispatched (holds : store.Holds bonds sent) (wired : messenger.Wired bonds)
    (ran : messenger.dispatch source message (store, env) = (.ok (), (after, env'))) :
    after.Holds bonds (sent ++ [message]) := by
  intro bond live
  have held := holds bond live
  rw [Bond.addressed_concat]
  by_cases concerns : bond.Concerns message
  · rw [if_pos concerns]
    exact (wired.state?_dispatch live concerns held ran).1
  · rw [if_neg concerns, wired.state?_dispatch_of_not_concerns live concerns ran]
    exact held

/-- A slot has got something exactly if a message was sent that concerns its bond. -/
theorem received_iff (holds : store.Holds bonds sent) (live : bond ∈ bonds) :
    store.received bond.slot ↔ ∃ topic ∈ sent.map AnyMessage.topic, bond.Takes topic := by
  unfold MessageStore.received
  rw [holds bond live, SlotKind.received_contents_iff, Ne, Bond.addressed_eq_nil_iff]
  simp

end MessageStore.Holds

end Stores

/-! ## Sending to free slots -/

namespace Messenger

variable {κ ω : Type} [Payload κ]

/-- A delegate has no listener, and its slot is free for another message. -/
def IsFree (store : MessageStore κ) (delegate : Delegate κ ω) : Prop :=
  (∀ callback, delegate.kind ≠ .listener callback) ∧
    ∃ taken, store.state? delegate.slotRef = some (delegate.kind.slotKind.contents taken) ∧
      (delegate.kind.slotKind = .single → delegate.flags.allowOverwrite = false → taken = [])

variable {delegate : Delegate κ ω} {store : MessageStore κ}

/-- Serving a delegate whose slot is free succeeds and touches no other slot. -/
theorem exists_serve (free : IsFree store delegate) (message : AnyMessage κ) (env : Env ω) :
    ∃ filled, serve message delegate (store, env) = (.ok (), (filled, env)) ∧
      ∀ ref, delegate.slotRef ≠ ref → filled.state? ref = store.state? ref := by
  obtain ⟨unheard, taken, held, alone⟩ := free
  have called : callListener delegate message env = (.ok (), env) := by
    unfold callListener
    cases kind : delegate.kind with
    | listener callback => exact absurd kind (unheard callback)
    | single => rfl
    | multi => rfl
  obtain ⟨after, accepted⟩ : ∃ after, MessageStore.accept store.event delegate message
      (delegate.kind.slotKind.contents taken) = .ok after := by
    cases kind : delegate.kind.slotKind with
    | single =>
      cases strict : delegate.flags.allowOverwrite with
      | false =>
        rw [alone kind strict]
        exact ⟨_, rfl⟩
      | true =>
        refine ⟨_, if_neg ?_⟩
        simp [MessageFlags.contains, MessageFlags.overwriting, strict]
    | multi => exact ⟨_, rfl⟩
    | listener => exact ⟨_, rfl⟩
  refine ⟨store.put delegate.slotRef after, ?_, ?_⟩
  · have found : store.state? ⟨delegate.receiver.id, delegate.slot⟩
      = some (delegate.kind.slotKind.contents taken) := held
    simp only [serve, called, MessageStore.deliver, found, accepted]
    rfl
  · intro ref apart
    rw [MessageStore.state?_put, if_neg apart]

/-- Serving delegates whose slots are free succeeds, if no two of them share a slot. -/
theorem exists_each_serve {delegates : List (Delegate κ ω)}
    (apart : (delegates.map Delegate.slotRef).Nodup)
    (free : ∀ delegate ∈ delegates, IsFree store delegate) (message : AnyMessage κ)
    (env : Env ω) :
    ∃ after, Proc.each (serve message) delegates (store, env) = (.ok (), (after, env)) := by
  induction delegates generalizing store with
  | nil => exact ⟨store, rfl⟩
  | cons first rest ih =>
    obtain ⟨fresh, apart⟩ := List.nodup_cons.mp apart
    obtain ⟨here, others⟩ := List.forall_mem_cons.mp free
    obtain ⟨filled, served, untouched⟩ := exists_serve here message env
    have still : ∀ delegate ∈ rest, IsFree filled delegate := by
      intro delegate among
      obtain ⟨unheard, taken, held, alone⟩ := others delegate among
      refine ⟨unheard, taken, ?_, alone⟩
      rw [untouched, held]
      exact fun same => fresh (same ▸ List.mem_map_of_mem among)
    obtain ⟨after, ran⟩ := ih apart still
    exact ⟨after, Proc.each_cons_eq_ok.mpr ⟨_, served, ran⟩⟩

variable [DecidableEq κ] {messenger : Messenger κ ω} {bonds : List (Bond κ ω)}
  {sent : List (AnyMessage κ)} {message : AnyMessage κ}

/-- No bond is a listener. -/
def Unheard (bonds : List (Bond κ ω)) : Prop :=
  ∀ bond ∈ bonds, ∀ callback, bond.delegate.kind ≠ .listener callback

/-- A bond may get messages on a topic after others were sent: it takes all that come, or
none has come yet. -/
def Bond.Admits (bond : Bond κ ω) (topics : List (Topic κ)) (topic : Topic κ) : Prop :=
  bond.Takes topic → bond.delegate.kind.slotKind = .single →
    bond.delegate.flags.allowOverwrite = false → ∀ earlier ∈ topics, ¬ bond.Takes earlier

/-- Whoever would take a message decides whether it can be sent. -/
theorem Wired.exists_dispatch (wired : Wired bonds messenger) (unheard : Unheard bonds)
    (holds : store.Holds bonds sent)
    (admits : ∀ bond ∈ bonds, Bond.Admits bond (sent.map AnyMessage.topic) message.topic)
    (source : Receiver) (env : Env ω) :
    ∃ after env', messenger.dispatch source message (store, env) = (.ok (), (after, env')) := by
  have free : ∀ delegate ∈ messenger.accepting message, IsFree store delegate := by
    intro delegate accepted
    obtain ⟨bond, live, concerns, rfl⟩ := wired.mem_accepting_iff.mp accepted
    refine ⟨unheard bond live, _, holds bond live, fun single strict => ?_⟩
    rw [Bond.addressed_eq_nil_iff]
    apply admits bond live _ single strict
    exact Bond.concerns_iff_takes.mp concerns
  obtain ⟨after, ran⟩ := exists_each_serve (wired.nodup_accepting message) free message env
  unfold dispatch
  split
  · simp only [Proc.bind_apply, Proc.andThen, ran]
    exact ⟨_, _, rfl⟩
  · exact ⟨_, _, rfl⟩

/-- Whether somebody would take a message is found by looking for a first one. -/
theorem hasReceiver_iff_exists :
    messenger.hasReceiver message = true ↔ ∃ delegate, delegate ∈ messenger.accepting message := by
  unfold hasReceiver accepting
  cases messenger.delegates.find? message.kind with
  | none => simp
  | some lists => simp

/-- Somebody would take a message exactly if its topic is taken by some bond. -/
theorem Wired.hasReceiver_iff (wired : Wired bonds messenger) :
    messenger.hasReceiver message = true ↔ ∃ bond ∈ bonds, bond.Takes message.topic := by
  rw [hasReceiver_iff_exists]
  simp only [wired.mem_accepting_iff, Bond.concerns_iff_takes]
  constructor
  · rintro ⟨_, bond, live, takes, -⟩
    exact ⟨bond, live, takes⟩
  · rintro ⟨bond, live, takes⟩
    exact ⟨bond.delegate, bond, live, takes, rfl⟩

/-! ## The number of the event -/

omit [DecidableEq κ] in
/-- Serving a delegate keeps the number of the event. -/
theorem keeps_event_serve (message : AnyMessage κ) (delegate : Delegate κ ω) :
    Proc.Keeps (fun state => state.1.event) (serve message delegate) := by
  intro ⟨store, env⟩
  rcases called : callListener delegate message env with ⟨outcome, left⟩
  cases outcome with
  | ok value =>
    cases delivered : store.deliver delegate message with
    | error err => simp only [serve, called, delivered]
    | ok filled =>
      simp only [serve, called, delivered]
      simp only [MessageStore.deliver] at delivered
      split at delivered
      · cases delivered
      · split at delivered
        · obtain rfl := Except.ok.inj delivered
          rfl
        · cases delivered
  | error err => simp only [serve, called]
  | panic text => simp only [serve, called]

theorem keeps_event_dispatch (messenger : Messenger κ ω) (source : Receiver)
    (message : AnyMessage κ) :
    Proc.Keeps (fun state => state.1.event) (messenger.dispatch source message) := by
  unfold dispatch
  split
  · apply Proc.Keeps.andThen
    · exact .each (keeps_event_serve message) _
    · intro _
      exact Proc.Keeps.get.andThen fun _ => .log (fun _ _ => rfl) _ _
  · exact .log (fun _ _ => rfl) _ _

end Messenger

/-! ## Reading a slot -/

namespace MessageStore

variable {κ : Type} [Payload κ] [DecidableEq κ] {store : MessageStore κ} {ref : SlotRef}
  {kind : κ} {taken : List (AnyMessage κ)}

theorem open?_of_kind {any : AnyMessage κ} (same : any.kind = kind) :
    (any.open? kind).map (AnyMessage.mk kind) = some any := by
  obtain ⟨other, message⟩ := any
  obtain rfl : other = kind := same
  rw [AnyMessage.open?_self]
  rfl

/-- A slot for one message is read as the last message that it took. -/
theorem single_of_contents (held : store.state? ref = some (SlotKind.single.contents taken))
    (own : ∀ message ∈ taken, message.kind = kind) :
    (store.single (SingleSlot.mk ref : SingleSlot κ kind)).map (AnyMessage.mk kind)
      = taken.getLast? := by
  unfold single
  rw [held, SlotKind.contents]
  cases last : taken.getLast? with
  | none => rfl
  | some message => exact open?_of_kind (own message (List.mem_of_getLast? last))

/-- A slot for all messages is read as all messages that it took. -/
theorem multi_of_contents (held : store.state? ref = some (SlotKind.multi.contents taken))
    (own : ∀ message ∈ taken, message.kind = kind) :
    (store.multi (MultiSlot.mk ref : MultiSlot κ kind)).map (AnyMessage.mk kind) = taken := by
  unfold multi
  rw [held, SlotKind.contents, List.map_filterMap]
  exact (List.filterMap_congr fun message among => open?_of_kind (own message among)).trans
    List.filterMap_some

end MessageStore

/-! ## What a store holds, by topics -/

section Laden

variable {κ ω : Type} [Payload κ] [DecidableEq κ]

/-- A store holds messages on certain topics, one or more on each, and no others. -/
def MessageStore.Laden (bonds : List (Bond κ ω)) (topics : Topic κ → Prop)
    (store : MessageStore κ) : Prop :=
  ∃ sent, store.Holds bonds sent ∧ ∀ topic, topic ∈ sent.map AnyMessage.topic ↔ topics topic

namespace MessageStore.Laden

variable {messenger : Messenger κ ω} {bonds : List (Bond κ ω)} {bond : Bond κ ω}
  {store : MessageStore κ} {topics others : Topic κ → Prop} {kind : κ}

theorem congr (laden : store.Laden bonds topics) (same : ∀ topic, topics topic ↔ others topic) :
    store.Laden bonds others := by
  obtain ⟨sent, holds, known⟩ := laden
  exact ⟨sent, holds, fun topic => (known topic).trans (same topic)⟩

/-- A store that was opened for an event holds nothing. -/
theorem opened (wired : messenger.Wired bonds) (event : Nat) :
    (messenger.newStore event).Laden bonds fun _ => False :=
  ⟨[], .opened wired event, fun _ => by simp⟩

theorem received_iff (laden : store.Laden bonds topics) (live : bond ∈ bonds) :
    store.received bond.slot ↔ ∃ topic, topics topic ∧ bond.Takes topic := by
  obtain ⟨sent, holds, known⟩ := laden
  rw [holds.received_iff live]
  simp only [known]

/-- A message can be sent if every slot for one message that would take it is empty. -/
theorem exists_dispatch (laden : store.Laden bonds topics) (wired : messenger.Wired bonds)
    (unheard : Messenger.Unheard bonds) (message : AnyMessage κ)
    (free : ∀ bond ∈ bonds, bond.delegate.kind.slotKind = .single → bond.Takes message.topic →
      ∀ topic, topics topic → ¬ bond.Takes topic)
    (source : Receiver) (env : Env ω) :
    ∃ after env', messenger.dispatch source message (store, env) = (.ok (), (after, env')) ∧
      after.Laden bonds fun topic => topics topic ∨ topic = message.topic := by
  obtain ⟨sent, holds, known⟩ := laden
  obtain ⟨after, env', ran⟩ := wired.exists_dispatch unheard holds
    (fun bond live takes single _ earlier among =>
      free bond live single takes earlier ((known earlier).mp among)) source env
  refine ⟨after, env', ran, sent ++ [message], holds.dispatched wired ran, fun topic => ?_⟩
  simp only [List.map_append, List.mem_append, List.map_cons, List.map_nil, List.mem_singleton,
    known]

/-- What is read from a slot for one message is on a topic that its bond takes. -/
theorem topic_of_single (laden : store.Laden bonds topics) (live : bond ∈ bonds)
    (alone : bond.delegate.kind = .single) (own : bond.kind = kind) {message : Message κ kind}
    (read : store.single ⟨bond.slot⟩ = some message) :
    topics (kind, message.detector.map Detector.name) ∧
      bond.Takes (kind, message.detector.map Detector.name) := by
  obtain ⟨sent, holds, known⟩ := laden
  have held := holds bond live
  rw [alone] at held
  have kinds : ∀ any ∈ bond.addressed sent, any.kind = kind := fun any among =>
    (Bond.kind_of_mem_addressed among).trans own
  have last := single_of_contents held kinds
  rw [read] at last
  obtain ⟨was_sent, concerns⟩ := List.mem_filter.mp (List.mem_of_getLast? last.symm)
  exact ⟨(known _).mp (List.mem_map_of_mem was_sent),
    Bond.concerns_iff_takes.mp (of_decide_eq_true concerns)⟩

/-- A slot for one message has one, if its bond takes a topic that was sent on. -/
theorem exists_single (laden : store.Laden bonds topics) (live : bond ∈ bonds)
    (alone : bond.delegate.kind = .single) (own : bond.kind = kind) {topic : Topic κ}
    (was_sent : topics topic) (takes : bond.Takes topic) :
    ∃ message : Message κ kind, store.single ⟨bond.slot⟩ = some message := by
  obtain ⟨sent, holds, known⟩ := laden
  have held := holds bond live
  rw [alone] at held
  have kinds : ∀ any ∈ bond.addressed sent, any.kind = kind := fun any among =>
    (Bond.kind_of_mem_addressed among).trans own
  have last := single_of_contents held kinds
  cases read : store.single (SingleSlot.mk bond.slot : SingleSlot κ kind) with
  | some message => exact ⟨message, rfl⟩
  | none =>
    rw [read] at last
    have nothing := List.getLast?_eq_none_iff.mp last.symm
    exact absurd takes (Bond.addressed_eq_nil_iff.mp nothing topic ((known topic).mpr was_sent))

/-- The messages in a slot for all messages are on the topics that its bond takes. -/
theorem mem_multi_iff (laden : store.Laden bonds topics) (live : bond ∈ bonds)
    (all : bond.delegate.kind = .multi) (own : bond.kind = kind) {name : Option String} :
    (∃ message ∈ store.multi (MultiSlot.mk bond.slot : MultiSlot κ kind),
        message.detector.map Detector.name = name) ↔
      topics (kind, name) ∧ bond.Takes (kind, name) := by
  obtain ⟨sent, holds, known⟩ := laden
  have held := holds bond live
  rw [all] at held
  have kinds : ∀ any ∈ bond.addressed sent, any.kind = kind := fun any among =>
    (Bond.kind_of_mem_addressed among).trans own
  have read := multi_of_contents held kinds
  constructor
  · rintro ⟨message, among, rfl⟩
    have was_sent := List.mem_map_of_mem (f := AnyMessage.mk kind) among
    rw [read] at was_sent
    obtain ⟨was_sent, concerns⟩ := List.mem_filter.mp was_sent
    exact ⟨(known _).mp (List.mem_map_of_mem was_sent),
      Bond.concerns_iff_takes.mp (of_decide_eq_true concerns)⟩
  · rintro ⟨was_sent, takes⟩
    obtain ⟨any, among, same⟩ := List.mem_map.mp ((known _).mpr was_sent)
    have concerns : bond.Concerns any := Bond.concerns_iff_takes.mpr (same ▸ takes)
    have there : any ∈ bond.addressed sent := List.mem_filter.mpr ⟨among, decide_eq_true concerns⟩
    rw [← read] at there
    obtain ⟨message, listed, rfl⟩ := List.mem_map.mp there
    exact ⟨message, listed, congrArg Prod.snd same⟩

end MessageStore.Laden

end Laden

end DetectorSim
