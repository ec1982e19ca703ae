import Mathlib.Algebra.Order.BigOperators.Group.List
import Mathlib.Algebra.Order.Group.Nat
import Mathlib.Algebra.Ring.Nat
import Mathlib.Data.List.Nodup
import DetectorSim.Proofs.Builtin.Confinement
import DetectorSim.Proofs.Table

/-!
# The lines of a writer

A writer puts the hits of an event on one line, under the names of their detectors, and
adds their number to its count.  The two do not always agree: of several messages for one
detector the line has only the last one, but all of them are counted.  So a hit is lost
exactly if its message is superseded by a later one for the same detector.
-/

set_option autoImplicit false

namespace DetectorSim

/-! ## What a line has -/

namespace Builtin.Writer

/-- The name under which the hits of a message are written. -/
def nameOf (message : Message PayloadKind .hits) : String :=
  match message.detector with
  | some detector => detector.name
  | none => ""

/-- The messages that no later one for the same detector supersedes. -/
def standing : List (Message PayloadKind .hits) → List (Message PayloadKind .hits)
  | [] => []
  | message :: rest =>
      if nameOf message ∈ rest.map nameOf then standing rest else message :: standing rest

/-- The messages that a later one for the same detector supersedes. -/
def superseded : List (Message PayloadKind .hits) → List (Message PayloadKind .hits)
  | [] => []
  | message :: rest =>
      if nameOf message ∈ rest.map nameOf then message :: superseded rest else superseded rest

/-- The entry of a message in a line. -/
def entryOf (message : Message PayloadKind .hits) : String × List PixelHit :=
  (nameOf message, message.data)

/-- The number of hits in the line of some messages. -/
def lineHits (messages : List (Message PayloadKind .hits)) : Nat :=
  ((byDetector messages).entries.map fun entry => entry.2.length).sum

/-- Put the hits of further messages into a table. -/
def addAll (table : Table String (List PixelHit)) (messages : List (Message PayloadKind .hits)) :
    Table String (List PixelHit) :=
  messages.foldl (fun table message => table.insertSorted textBefore (nameOf message) message.data)
    table

theorem ascending_addAll {table : Table String (List PixelHit)} (ascending : table.Ascending)
    (messages : List (Message PayloadKind .hits)) : (addAll table messages).Ascending := by
  induction messages generalizing table with
  | nil => exact ascending
  | cons message rest ih => exact ih (ascending.insertSorted _ message.data)

/-- The entries of a table after further messages are those of the messages that stand,
and those that were there under other names. -/
theorem addAll_perm {table : Table String (List PixelHit)} (ascending : table.Ascending)
    (messages : List (Message PayloadKind .hits)) :
    (addAll table messages).entries.Perm ((standing messages).map entryOf ++
      table.entries.filter fun entry => entry.1 ∉ messages.map nameOf) := by
  induction messages generalizing table with
  | nil => simp [addAll, standing]
  | cons message rest ih =>
    have grown := ih (ascending.insertSorted (nameOf message) message.data)
    have others : (table.entries.filter fun entry => entry.1 ≠ nameOf message).filter
          (fun entry => entry.1 ∉ rest.map nameOf)
        = table.entries.filter fun entry => entry.1 ∉ (message :: rest).map nameOf := by
      rw [List.filter_filter]
      refine List.filter_congr fun entry _ => ?_
      simp [not_or, Bool.and_comm]
    have placed := (Table.insertSorted_perm ascending.nodup textBefore (nameOf message)
      message.data).filter fun entry => entry.1 ∉ rest.map nameOf
    refine (grown.trans (placed.append_left _)).trans ?_
    by_cases again : nameOf message ∈ rest.map nameOf
    · rw [List.filter_cons_of_neg (by simpa using again), others, standing, if_pos again]
    · rw [List.filter_cons_of_pos (by simpa using again), others, standing, if_neg again]
      exact List.perm_middle

/-- Superseding a message takes no name away. -/
theorem mem_map_standing {messages : List (Message PayloadKind .hits)} {name : String} :
    name ∈ (standing messages).map nameOf ↔ name ∈ messages.map nameOf := by
  induction messages with
  | nil => exact Iff.rfl
  | cons message rest ih =>
    rw [standing, List.map_cons, List.mem_cons]
    split
    · next again =>
      rw [ih]
      constructor
      · exact .inr
      · rintro (rfl | later)
        · exact again
        · exact later
    · rw [List.map_cons, List.mem_cons, ih]

/-- The line has the hits of the messages that stand, each under its name. -/
theorem entries_perm (messages : List (Message PayloadKind .hits)) :
    (byDetector messages).entries.Perm ((standing messages).map entryOf) := by
  have perm := addAll_perm .empty messages
  rwa [Table.empty, List.filter_nil, List.append_nil] at perm

/-- The names in the line are those of all messages. -/
theorem mem_keys_byDetector {messages : List (Message PayloadKind .hits)} {name : String} :
    name ∈ (byDetector messages).keys ↔ name ∈ messages.map nameOf := by
  rw [Table.keys, ((entries_perm messages).map Prod.fst).mem_iff, List.map_map]
  exact mem_map_standing

/-! ## What is counted -/

/-- The hits of a message. -/
def hitsOf (message : Message PayloadKind .hits) : List PixelHit :=
  message.data

theorem countHits_eq_sum (messages : List (Message PayloadKind .hits)) :
    countHits messages = (messages.map fun message => (hitsOf message).length).sum := by
  have counted (start : Nat) : messages.foldl
      (fun count message => count + (hitsOf message).length) start
      = start + (messages.map fun message => (hitsOf message).length).sum := by
    induction messages generalizing start with
    | nil => rfl
    | cons message rest ih =>
      rw [List.foldl_cons, ih, List.map_cons, List.sum_cons, Nat.add_assoc]
  exact (counted 0).trans (Nat.zero_add _)

theorem countHits_cons (message : Message PayloadKind .hits)
    (rest : List (Message PayloadKind .hits)) :
    countHits (message :: rest) = (hitsOf message).length + countHits rest := by
  rw [countHits_eq_sum, countHits_eq_sum, List.map_cons, List.sum_cons]

/-- Every message stands or is superseded. -/
theorem countHits_eq_add (messages : List (Message PayloadKind .hits)) :
    countHits messages = countHits (standing messages) + countHits (superseded messages) := by
  induction messages with
  | nil => rfl
  | cons message rest ih =>
    rw [countHits_cons, ih, standing, superseded]
    split
    · rw [countHits_cons, Nat.add_left_comm]
    · rw [countHits_cons, Nat.add_assoc]

theorem lineHits_eq (messages : List (Message PayloadKind .hits)) :
    lineHits messages = countHits (standing messages) := by
  have perm := (entries_perm messages).map fun entry => entry.2.length
  rw [lineHits, perm.sum_nat, countHits_eq_sum, List.map_map]
  rfl

theorem superseded_eq_nil {messages : List (Message PayloadKind .hits)}
    (distinct : (messages.map nameOf).Nodup) :
    superseded messages = [] ∧ standing messages = messages := by
  induction messages with
  | nil => exact ⟨rfl, rfl⟩
  | cons message rest ih =>
    obtain ⟨fresh, distinct⟩ := List.nodup_cons.mp distinct
    obtain ⟨nothing, all⟩ := ih distinct
    rw [superseded, standing, if_neg fresh, if_neg fresh, nothing, all]
    exact ⟨rfl, rfl⟩

/-! ## What a writer does in an event -/

/-- What a writer makes of the messages of an event. -/
structure Records (id : InstanceId) (key : FileKey) (event : Nat)
    (messages : List (Message PayloadKind .hits)) (before after : Workspace) : Prop where
  /-- A line is added to its file. -/
  files_eq : after.files = before.files.append key (lineOf event messages)
  /-- All hits are added to its count. -/
  hits_eq : (after.writer id).hits = (before.writer id).hits + countHits messages
  events_eq : (after.writer id).events = (before.writer id).events + 1
  /-- The line has the hits of the messages that stand, under the names of their
  detectors. -/
  entries_perm : (byDetector messages).entries.Perm ((standing messages).map entryOf)
  /-- The names stand in their order. -/
  ascending : (byDetector messages).Ascending
  /-- What is counted and not written are the hits of the messages that are superseded. -/
  countHits_eq : countHits messages = lineHits messages + countHits (superseded messages)
  /-- Nothing is lost if no two messages are for the same detector. -/
  nothing_lost : (messages.map nameOf).Nodup →
    standing messages = messages ∧ superseded messages = []

/-- What the writer does once it has added its line to the file, if that was open. -/
def afterLine {ω : Type} [HasWorkspace ω] (id : InstanceId) (event count : Nat) (before : ω) :
    EventCode PayloadKind ω Unit :=
  match ((HasWorkspace.workspace before).writer id).output with
  | none => .fail (.logic "output file is not open")
  | some _ => EventCode.log .debug s!"Wrote {count} hits of event {event}"

section Running

variable {messenger : Messenger PayloadKind Workspace} {receiver : Receiver} {id : InstanceId}
  {slot : MultiSlot PayloadKind .hits} {state : EventState PayloadKind Workspace} {key : FileKey}

theorem exec_run (opened : (state.env.world.writer id).output = some key) :
    ∃ journal, EventCode.exec messenger receiver (run id slot) state
      = (.ok (), ⟨state.data,
          ⟨addLine id (lineOf state.data.store.event (state.data.store.multi slot))
            (countHits (state.data.store.multi slot)) state.env.world, journal⟩⟩) := by
  have added : EventCode.exec messenger receiver (run id slot) state
      = EventCode.exec messenger receiver
          (afterLine id state.data.store.event (countHits (state.data.store.multi slot))
            state.env.world)
          ⟨state.data,
            ⟨addLine id (lineOf state.data.store.event (state.data.store.multi slot))
              (countHits (state.data.store.multi slot)) state.env.world,
              state.env.journal⟩⟩ := rfl
  have same : HasWorkspace.workspace state.env.world = state.env.world := rfl
  rw [added, afterLine, same, opened]
  exact ⟨_, rfl⟩

/-- **What a writer records.**  A writer that has its file open adds a line with the hits
that it got in an event, except those of a message that a later one for the same detector
supersedes; it counts all of them. -/
theorem records_of_run (opened : (state.env.world.writer id).output = some key) :
    ∃ after, EventCode.exec messenger receiver (run id slot) state = (.ok (), after) ∧
      Records id key state.data.store.event (state.data.store.multi slot) state.env.world
        after.env.world := by
  obtain ⟨journal, ran⟩ := exec_run opened
  refine ⟨_, ran, ?_⟩
  generalize state.data.store.multi slot = messages
  have counted : (addLine id (lineOf state.data.store.event messages) (countHits messages)
      state.env.world).writer id = { state.env.world.writer id with
        events := (state.env.world.writer id).events + 1
        hits := (state.env.world.writer id).hits + countHits messages } := by
    rw [writer_addLine, if_pos (by rw [opened]; rfl)]
  refine ⟨?_, ?_, ?_, entries_perm messages, ascending_addAll .empty messages, ?_,
    fun distinct => ?_⟩
  · dsimp only
    rw [addLine_of_open opened]
    rfl
  · exact congrArg WriterState.hits counted
  · exact congrArg WriterState.events counted
  · rw [lineHits_eq]
    exact countHits_eq_add messages
  · obtain ⟨nothing, all⟩ := superseded_eq_nil distinct
    exact ⟨all, nothing⟩

end Running

/-! ## Messages to try things on -/

/-- A message with one hit, in a given column. -/
def hitIn (column : Int) (name : String) (serial : Nat) : Message PayloadKind .hits :=
  ⟨⟨1, serial⟩, [⟨column, 0, 1⟩], some (.atOrigin name "sensor")⟩

/-- Two messages for the detector on the left, and one for that on the right. -/
def crowded : List (Message PayloadKind .hits) :=
  [hitIn 1 "left" 0, hitIn 2 "right" 1, hitIn 3 "left" 2]

/-- An event in which a writer with an open file gets these messages. -/
def crowdedEvent : EventState PayloadKind Workspace where
  data := ⟨⟨1, ⟨[(⟨0⟩, [.multi (crowded.map fun message => ⟨.hits, message⟩)])]⟩⟩,
    .forEvent mixedWords 0 1, .start 1⟩
  env := ⟨{ Workspace.ofFiles .empty with
    writers := ⟨[(⟨0⟩, ⟨some ["hits"], 0, 0⟩)]⟩ }, .empty⟩

/-- Three hits are counted, and two of them are written. -/
theorem records_crowded :
    (crowdedEvent.env.world.writer ⟨0⟩).output = some ["hits"] ∧
      lineHits crowded = 2 ∧ countHits crowded = 3 ∧
      ∃ after : EventState PayloadKind Workspace,
        Records ⟨0⟩ ["hits"] 1 crowded crowdedEvent.env.world after.env.world := by
  have opened : (crowdedEvent.env.world.writer ⟨0⟩).output = some ["hits"] := by decide +kernel
  obtain ⟨after, -, records⟩ :=
    @records_of_run .empty ⟨⟨0⟩, "JsonWriter", none⟩ ⟨0⟩ ⟨⟨⟨0⟩, 0⟩⟩ crowdedEvent ["hits"] opened
  exact ⟨opened, by decide +kernel, by decide +kernel, after, records⟩

/-- A writer may lose hits: not every hit that it got is in the line, and not all that it
counts are written. -/
theorem not_lossless :
    (¬ ∀ messages : List (Message PayloadKind .hits), ∀ message ∈ messages,
        ∀ hit ∈ hitsOf message, ∃ entry ∈ (byDetector messages).entries,
          entry.1 = nameOf message ∧ hit ∈ entry.2) ∧
      ¬ ∀ messages : List (Message PayloadKind .hits),
        lineHits messages = countHits messages := by
  constructor
  · intro contained
    have absent : ∀ entry ∈ (byDetector crowded).entries, ∀ hit ∈ entry.2, hit.column ≠ 1 := by
      decide +kernel
    obtain ⟨entry, among, -, written⟩ :=
      contained crowded (hitIn 1 "left" 0) List.mem_cons_self ⟨1, 0, 1⟩ List.mem_cons_self
    exact absent entry among _ written rfl
  · intro agree
    have written : lineHits crowded = 2 := by decide +kernel
    have counted : countHits crowded = 3 := by decide +kernel
    have same := agree crowded
    omega

end Builtin.Writer

end DetectorSim
