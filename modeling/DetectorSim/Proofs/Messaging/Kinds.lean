import DetectorSim.Proofs.Messaging.Handout
import DetectorSim.Proofs.Messaging.Topics

/-!
# The kinds of payload are kept

Neither a store nor a delegate knows the kind of the messages in its slots; only who reads
a slot, and the listener that is called, open them at a kind.  They always find the kind
that they ask for: the tables of a messenger agree at any time about whose slot is which,
so a message comes to slots of its own kind alone, and each of them is there.
-/

set_option autoImplicit false

namespace DetectorSim

/-- A slot holds some messages, all of the kind that its delegate was bound to, and
whoever reads it gets them. -/
structure Bond.Keeps {κ ω : Type} [Payload κ] [DecidableEq κ] (bond : Bond κ ω)
    (store : MessageStore κ) (taken : List (AnyMessage κ)) : Prop where
  /-- The slot has the shape that it was bound with. -/
  held : store.state? bond.slot = some (bond.delegate.kind.slotKind.contents taken)
  kinds : ∀ message ∈ taken, message.kind = bond.kind
  single : bond.delegate.kind = .single →
    (store.single (SingleSlot.mk bond.slot : SingleSlot κ bond.kind)).map
      (AnyMessage.mk bond.kind) = taken.getLast?
  multi : bond.delegate.kind = .multi →
    (store.multi (MultiSlot.mk bond.slot : MultiSlot κ bond.kind)).map
      (AnyMessage.mk bond.kind) = taken

/-- The kind of its messages and the shape of its slot tell what a bond reads. -/
theorem Bond.Keeps.of_held {κ ω : Type} [Payload κ] [DecidableEq κ] {bond : Bond κ ω}
    {store : MessageStore κ} {taken : List (AnyMessage κ)}
    (held : store.state? bond.slot = some (bond.delegate.kind.slotKind.contents taken))
    (kinds : ∀ message ∈ taken, message.kind = bond.kind) : bond.Keeps store taken where
  held := held
  kinds := kinds
  single one := by
    rw [one] at held
    exact MessageStore.single_of_contents held kinds
  multi many := by
    rw [many] at held
    exact MessageStore.multi_of_contents held kinds

namespace Messenger

variable {κ ω : Type} [Payload κ] [DecidableEq κ] {event : Nat} {bonds : List (Bond κ ω)}
  {messenger : Messenger κ ω} {bond : Bond κ ω} {message : AnyMessage κ}
  {delegate : Delegate κ ω} {delegates : List (Delegate κ ω)} {store after : MessageStore κ}
  {env env' : Env ω} {receipts : List (Receipt κ)} {receipt : Receipt κ}
  {source : Receiver} {outcome : Outcome Unit}

/-! ## What is delivered -/

omit [DecidableEq κ] in
/-- Receipts are given by those who are served, and for the message that they got. -/
theorem exists_of_mem_receiptsOf (given : receipt ∈ receiptsOf message delegates (store, env)) :
    ∃ delegate ∈ delegates, receipt = ⟨delegate.slotRef, message⟩ := by
  obtain ⟨⟨delegate, state⟩, turn, signed⟩ := List.mem_filterMap.mp given
  exact ⟨delegate, Proc.mem_of_mem_turns turn, slot_of_receiptOf? signed⟩

/-- A slot has receipts for messages of its own kind alone. -/
theorem Posted.kind_of_mem_messagesAt (history : Posted event bonds messenger store receipts)
    (live : bond ∈ bonds) : ∀ message ∈ messagesAt bond.slot receipts,
      message.kind = bond.kind := by
  induction history with
  | opened built => nofun
  | dispatched before source message env ran ih =>
    rw [messagesAt_append]
    intro other among
    rcases List.mem_append.mp among with old | new
    · exact ih live other old
    · obtain ⟨receipt, there, rfl⟩ := List.mem_map.mp new
      obtain ⟨given, here⟩ := List.mem_filter.mp there
      obtain ⟨delegate, accepts, rfl⟩ := exists_of_mem_receiptsOf given
      by_contra foreign
      refine before.wired.slot_notMem_accepting live (fun concerns => foreign concerns.1) ?_
      rw [← of_decide_eq_true here]
      exact List.mem_map_of_mem accepts
  | removed before removed ih => exact ih (List.mem_filter.mp live).1
  | removedAll before owner ih => exact ih (List.mem_filter.mp live).1

theorem Posted.keeps (history : Posted event bonds messenger store receipts)
    (live : bond ∈ bonds) : bond.Keeps store (messagesAt bond.slot receipts) :=
  .of_held (history.state?_slot live) (history.kind_of_mem_messagesAt live)

/-! ## Who is served -/

/-- A delegate that has its turn is asked for the kind that it was bound to: a listener
for this kind gets the message that was sent. -/
structure Matched (bonds : List (Bond κ ω)) (message : AnyMessage κ)
    (turn : Delegate κ ω × MessageStore κ × Env ω) (bond : Bond κ ω) : Prop where
  live : bond ∈ bonds
  same : turn.1 = bond.delegate
  kind : message.kind = bond.kind
  called : ∀ (name : String) (callback : Message κ bond.kind → Hook ω Unit),
    turn.1.kind = .listener (listenerFor name bond.kind callback) →
      ∃ typed, message = ⟨bond.kind, typed⟩ ∧
        callListener turn.1 message turn.2.2
          = ((Hook.exec (callback typed)).mapError fun err =>
              err.inModule turn.1.receiver.name .run) turn.2.2

theorem Wired.exists_matched (wired : Wired bonds messenger)
    {turn : Delegate κ ω × MessageStore κ × Env ω}
    (among : turn ∈ Proc.turns (serve message) (messenger.accepting message) (store, env)) :
    ∃ bond, Matched bonds message turn bond := by
  obtain ⟨bond, live, concerns, same⟩ :=
    wired.mem_accepting_iff.mp (Proc.mem_of_mem_turns among)
  have kind : message.kind = bond.kind := concerns.1
  refine ⟨bond, live, same.symm, kind, fun name callback listens => ?_⟩
  obtain ⟨other, typed⟩ := message
  obtain rfl : other = bond.kind := kind
  refine ⟨typed, rfl, ?_⟩
  simp only [callListener, listens, listenerFor_mk]

omit [DecidableEq κ] in
/-- A delegate that refuses a message never says that its slot is missing. -/
theorem ne_logic_of_refuses (refuses : delegate.Refuses message store env outcome)
    (text : String) : outcome ≠ .error (.logic text) := by
  cases refuses with
  | broken listens called failed =>
    rename_i ended _
    cases ended <;> simp [Outcome.mapError]
  | filled => simp

/-! ## Every store -/

/-- **The kinds of payload are kept.**  In a store that was opened after the last bind, and
after any dispatches with any outcomes and any removals, the slot of each delegate that is
left has the shape that it was bound with and holds messages of the kind that it was bound
to, all of which are read; in a further dispatch every listener gets a message of its
kind, and no slot is missing. -/
theorem Posted.kinds_kept (history : Posted event bonds messenger store receipts) :
    (∀ bond ∈ bonds, bond.Keeps store (messagesAt bond.slot receipts)) ∧
    ∀ (source : Receiver) (message : AnyMessage κ) (env : Env ω) (outcome : Outcome Unit)
        (after : MessageStore κ) (env' : Env ω),
      messenger.dispatch source message (store, env) = (outcome, (after, env')) →
      (∀ turn ∈ Proc.turns (serve message) (messenger.accepting message) (store, env),
        ∃ bond, Matched bonds message turn bond) ∧
      ∀ text, outcome ≠ .error (.logic text) := by
  refine ⟨fun bond => history.keeps, fun source message env outcome after env' ran =>
    ⟨fun turn => history.wired.exists_matched, fun text => ?_⟩⟩
  obtain ⟨mid, last, served, failing, later, handout, -⟩ := history.exists_handout ran
  cases failing with
  | none =>
    rw [(handout.complete rfl).2.1]
    simp
  | some bond =>
    obtain ⟨-, -, refuses, -⟩ := handout.failed bond rfl
    exact ne_logic_of_refuses refuses text

end Messenger

/-! ## A display that asks for hits -/

open Builtin

/-- A listener of the display that is registered for hits. -/
def Bond.notified : Bond PayloadKind Unit :=
  ⟨⟨.hits, "left", 0⟩,
    ⟨.leftDisplay, 0, .anyName, .listener (listenerFor "display" .hits fun _ => .done ())⟩⟩

/-- A slot of the display for all hits. -/
def Bond.gathered : Bond PayloadKind Unit :=
  ⟨⟨.hits, "left", 1⟩, ⟨.leftDisplay, 1, .none, .multi⟩⟩

namespace Messenger

/-- The messenger with both bonds of the display. -/
def notifying : Messenger PayloadKind Unit :=
  (empty.bind .leftDisplay PayloadKind.hits .anyName
    (.listener (listenerFor "display" .hits fun _ => .done ()))).bind .leftDisplay .hits .none
    .multi

/-- After a dispatch, the slot is read as the message that was sent, and a further message
finds its slots. -/
theorem kinds_kept_notifying :
    ∃ store receipts,
      Posted 1 [.notified, .gathered] notifying store receipts ∧
      (store.multi (MultiSlot.mk Bond.gathered.slot : MultiSlot PayloadKind .hits)).map
        (AnyMessage.mk .hits) = [.hitless 0 "left"] ∧
      ∀ text, (notifying.dispatch .leftDisplay (.hitless 1 "left") (store, ⟨(), .empty⟩)).1
        ≠ .error (.logic text) := by
  have built : Built [.notified, .gathered] notifying :=
    (Built.empty.bound .leftDisplay PayloadKind.hits .anyName
      (.listener (listenerFor "display" .hits fun _ => .done ()))).bound .leftDisplay
      PayloadKind.hits .none .multi
  obtain ⟨store, receipts, history, taken⟩ :
      ∃ store receipts, Posted 1 [.notified, .gathered] notifying store receipts ∧
        messagesAt Bond.gathered.slot receipts = [.hitless 0 "left"] :=
    ⟨_, _, (Posted.opened built).dispatched .leftDisplay (.hitless 0 "left") ⟨(), .empty⟩ rfl,
      rfl⟩
  obtain ⟨kept, sound⟩ := history.kinds_kept
  refine ⟨store, receipts, history, ?_, ?_⟩
  · rw [← taken]
    exact (kept .gathered (List.mem_cons_of_mem _ (List.mem_singleton_self _))).multi rfl
  · exact (sound .leftDisplay (.hitless 1 "left") ⟨(), .empty⟩ _ _ _ rfl).2

end Messenger
end DetectorSim
