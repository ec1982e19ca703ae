import DetectorSim.Proofs.Builtin.Chain
import DetectorSim.Proofs.Module.Sparing

/-!
# What a run of the built-in chain comes to

The order of the list decides which instances of the built-in collection run: the same
ones in every event, on one thread and on a pool alike.  No message comes to a slot that
is taken, a digitizer only gets what was propagated for its detector, and a line of the
writer tells of those detectors whose digitizers run before it.
-/

set_option autoImplicit false

namespace DetectorSim.Builtin

open Manager (Scheduler Shows outset processEvents runWith)

variable {ω : Type} [HasWorkspace ω] {geometry : Geometry} {parts : List Part}
  {bonds : List (Bond PayloadKind ω)}

/-! ## Visits -/

/-- A line for an event has the hits of the detectors whose digitizers run before the
writer, each under its name. -/
def IsLine (parts : List Part) (index event : Nat) (line : String) : Prop :=
  ∃ hits : List (String × Json),
    line = (Json.object [("event", .integer event), ("hits", .object hits)]).render ++ "\n" ∧
      (hits.map Prod.fst).Nodup ∧
      ∀ detector, detector ∈ hits.map Prod.fst ↔ Digitized parts index detector

/-- A visit is as the order of the list wants it. -/
structure Decided (parts : List Part) (plan : RunPlan PayloadKind ω)
    (visit : Visit PayloadKind) : Prop where
  /-- The instance runs or is skipped. -/
  ran_iff : ∀ ran, visit.outcome = .ok ran → (ran = true ↔ RunsAt parts visit.index)
  /-- If it fails, it is not for a second message in a slot that takes one. -/
  mild : ∀ err, visit.outcome = .error err → ¬ err.IsOverwrite
  /-- A digitizer reads nothing but charges that were propagated for its detector. -/
  digitizes : ∀ detector, parts[visit.index]? = some (.digitizer detector) →
    ∀ sight ∈ visit.sights, sight.IsReading →
      ∃ slot message, sight = .single .propagated slot (some message) ∧
        message.detector.map Detector.name = some detector
  /-- A writer adds a line for the event to its file, if that is open. -/
  writes : parts[visit.index]? = some .writer →
    ∃ line count, IsLine parts visit.index visit.event line ∧
      ∀ inst state, plan.instances[visit.index]? = some inst →
        visit = inst.visitBy plan.messenger visit.event visit.index state →
          (inst.runEvent plan.messenger state).2.env.world
            = onWorkspace (Writer.addLine inst.receiver.id line count) state.env.world

section Visits

variable {plan : RunPlan PayloadKind ω} {visit : Visit PayloadKind}
  {inst : Instance PayloadKind ω} {state : EventState PayloadKind ω} {index : Nat}
  {bond : Bond PayloadKind ω} {store : MessageStore PayloadKind}

omit [HasWorkspace ω] in
/-- What an instance that runs does to the world is what its code does. -/
theorem world_called (inst : Instance PayloadKind ω) (messenger : Messenger PayloadKind ω)
    (state : EventState PayloadKind ω) :
    ∃ journal, (inst.called messenger state).2.env.world
      = (EventCode.exec messenger inst.receiver inst.module.run
          (HasJournal.withJournal journal state)).2.env.world := by
  simp only [Instance.called, Proc.bind_apply, Proc.andThen, Instance.call, Proc.within,
    Proc.mapError]
  generalize (HasJournal.journal state).enter _ = entered
  refine ⟨entered.2, ?_⟩
  generalize EventCode.exec messenger inst.receiver inst.module.run _ = result
  obtain ⟨outcome, ended⟩ := result
  cases outcome <;> rfl

omit [HasWorkspace ω] in
/-- What is in the slot of a digitizer that runs was propagated for its detector. -/
theorem exists_propagated (laden : store.Laden bonds (Sent parts index)) {detector : Detector}
    (own : inst.receiver.detector = some detector)
    (binds : Binds bonds inst .propagated .requiredInput .single bond)
    (supplied : Sent parts index (.propagated, some detector.name)) :
    ∃ message : Message PayloadKind .propagated, store.single ⟨bond.slot⟩ = some message ∧
      message.detector.map Detector.name = some detector.name := by
  obtain ⟨message, read⟩ := laden.exists_single binds.live binds.how_eq binds.kind_eq supplied
    ((binds.takes_iff own).mpr rfl)
  refine ⟨message, read, ?_⟩
  obtain ⟨was_sent, takes⟩ := laden.topic_of_single binds.live binds.how_eq binds.kind_eq read
  cases named : message.detector.map Detector.name with
  | none =>
    rw [named] at was_sent
    exact absurd was_sent (not_sent_none _)
  | some name =>
    rw [named, binds.takes_iff own, Prod.mk.injEq] at takes
    exact takes.2

omit [HasWorkspace ω] in
/-- What is in the slot of a writer makes the line of the event. -/
theorem isLine_lineOf (laden : store.Laden bonds (Sent parts index))
    (own : inst.receiver.detector = none) (binds : Binds bonds inst .hits .none .multi bond)
    (event : Nat) :
    IsLine parts index event (Writer.lineOf event (store.multi ⟨bond.slot⟩)) := by
  have read {name : Option String} : (∃ message ∈ store.multi
        (MultiSlot.mk bond.slot : MultiSlot PayloadKind .hits),
      message.detector.map Detector.name = name) ↔ Sent parts index (.hits, name) := by
    rw [laden.mem_multi_iff binds.live binds.how_eq binds.kind_eq]
    apply and_iff_left
    rw [Bond.takes_iff_of_none (binds.receiver_eq ▸ own), binds.kind_eq]
  generalize store.multi (MultiSlot.mk bond.slot : MultiSlot PayloadKind .hits) = messages at read ⊢
  refine ⟨_, rfl, ?_, fun detector => ?_⟩
  · rw [List.map_map]
    exact (Writer.ascending_addAll .empty messages).nodup
  · rw [List.map_map]
    change _ ∈ (Writer.byDetector messages).keys ↔ _
    rw [Writer.mem_keys_byDetector, List.mem_map, ← sent_hits_iff, ← read]
    apply exists_congr
    intro message
    apply and_congr_right
    intro among
    cases named : message.detector with
    | none => exact absurd (read.mp ⟨message, among, congrArg _ named⟩) (not_sent_none _)
    | some detector => simp [Writer.nameOf, named]

section Members

variable {instances : List (Instance PayloadKind ω)} {messenger : Messenger PayloadKind ω}
  (lineup : Lineup geometry parts bonds instances messenger)

include lineup

/-- A digitizer reads nothing but charges that were propagated for its detector. -/
theorem Lineup.exists_of_reading (laden : state.data.store.Laden bonds (Sent parts index))
    (found : instances[index]? = some inst) {name : String}
    (here : parts[index]? = some (.digitizer name)) {sight : Sight PayloadKind}
    (among : sight ∈ inst.sights messenger state) (reading : sight.IsReading) :
    ∃ slot message, sight = .single .propagated slot (some message) ∧
      message.detector.map Detector.name = some name := by
  by_cases missing : messenger.missingRequired inst.receiver.id state.data.store = []
  · have runs := (lineup.missing_iff laden found).mp missing
    obtain ⟨part, there, member⟩ := lineup.exists_part found
    obtain rfl : part = .digitizer name := Option.some.inj (there.symm.trans here)
    cases member with
    | @digitizer _ bond samplers settings detector known own binds module_eq =>
      rw [Instance.sights_of_missing_eq_nil missing, module_eq] at among
      have supplied := (runsAt_iff_of_reads here nofun rfl).mp runs
      obtain ⟨message, read, named⟩ := exists_propagated laden own binds supplied
      have seen := Digitizer.reading_of_mem_sights among reading
      exact ⟨⟨bond.slot⟩, message, seen.trans (congrArg _ read), named⟩
  · rw [Instance.sights_of_missing_ne_nil missing] at among
    cases among

/-- A writer adds the line of the event to its file, if that is open. -/
theorem Lineup.exists_line (laden : store.Laden bonds (Sent parts index))
    (found : instances[index]? = some inst) (here : parts[index]? = some .writer) :
    ∃ line count, IsLine parts index store.event line ∧
      ∀ state : EventState PayloadKind ω, state.data.store = store →
        (inst.runEvent messenger state).2.env.world
          = onWorkspace (Writer.addLine inst.receiver.id line count) state.env.world := by
  obtain ⟨part, there, member⟩ := lineup.exists_part found
  obtain rfl : part = .writer := Option.some.inj (there.symm.trans here)
  have missing := (lineup.missing_iff laden found).mpr (.writer here)
  cases member with
  | @writer _ bond path own binds module_eq =>
    let messages := store.multi (MultiSlot.mk bond.slot : MultiSlot PayloadKind .hits)
    refine ⟨Writer.lineOf store.event messages, Writer.countHits messages,
      isLine_lineOf laden own binds store.event, ?_⟩
    rintro state rfl
    rw [Instance.runEvent_of_missing_eq_nil missing]
    obtain ⟨journal, world_eq⟩ := world_called inst messenger state
    rw [world_eq, module_eq]
    exact Writer.world_exec_run

end Members

/-- **The visits of an event.**  Whatever run they are part of, the order of the list
decides what comes of them. -/
theorem Lineup.decided (lineup : Lineup geometry parts bonds plan.instances plan.messenger)
    (distinct : geometry.Distinct) (hosts : plan.Hosts visit) : Decided parts plan visit := by
  have laden := lineup.laden_of_arrives distinct hosts.arrives
  have event_eq := hosts.arrives.event_eq
  obtain ⟨inst, state, found, visit_eq⟩ := hosts.makes
  have before_eq : visit.before = state.data := congrArg Visit.before visit_eq
  have outcome_eq : visit.outcome = (inst.runEvent plan.messenger state).1 :=
    congrArg Visit.outcome visit_eq
  have sights_eq : visit.sights = inst.sights plan.messenger state :=
    congrArg Visit.sights visit_eq
  have laden_state : state.data.store.Laden bonds (Sent parts visit.index) := before_eq ▸ laden
  refine ⟨?_, ?_, ?_, ?_⟩
  · intro ran ended
    rw [outcome_eq] at ended
    exact (lineup.of_runEvent_ok distinct laden_state found ended).1
  · intro err failed
    rw [outcome_eq] at failed
    exact lineup.mild_of_runEvent distinct laden_state found failed
  · intro detector here sight among reading
    rw [sights_eq] at among
    exact lineup.exists_of_reading laden_state found here among reading
  · intro here
    obtain ⟨line, count, is_line, adds⟩ := lineup.exists_line laden found here
    rw [event_eq] at is_line
    refine ⟨line, count, is_line, ?_⟩
    intro other state' found' visit_eq'
    obtain rfl : other = inst := Option.some.inj (found'.symm.trans found)
    exact adds state' (congrArg (fun made => made.before.store) visit_eq').symm

end Visits

/-! ## Runs -/

section Runs

variable {instances : List (Instance PayloadKind ω)} {messenger : Messenger PayloadKind ω}
  {inst : Instance PayloadKind ω}

variable {scheduler : Scheduler PayloadKind ω} {host : Host} {settings : Settings}
  {before : Manager PayloadKind ω × Env ω}

end Runs

/-! ## Configurations -/

/-- The registry of the built-in collection. -/
def enlisted : Registry PayloadKind Workspace × Journal :=
  (Registry.addCollection (collection .plain) (.empty, .empty)).2

/-- What comes of loading some sections for two detectors. -/
def assembled (sections : List Config.Section) :
    Outcome Unit × (Manager PayloadKind Workspace × Env Workspace) :=
  Manager.load ⟨sections⟩ enlisted.1 .pair (.empty, ⟨.ofFiles .empty, .empty⟩)

/-- A chain without propagations. -/
def interrupted : List Config.Section :=
  [⟨"DepositionGenerator", none, []⟩, ⟨"DefaultDigitizer", none, []⟩, ⟨"JsonWriter", none, []⟩]

end DetectorSim.Builtin
