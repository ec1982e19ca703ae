import DetectorSim.Proofs.Builtin.Exchange
import DetectorSim.Proofs.Module.Lifecycle

/-!
# The built-in chain

A chain of built-in modules makes hits from deposits: a generator, propagations, digitizers
and a writer.  An instance runs if what it needs was sent before, and that depends only on
the order of the list.  So in each event of each run the same instances run, and the writer
finds hits of the same detectors.
-/

set_option autoImplicit false

namespace DetectorSim.Builtin

open EventCode (Leads)

/-! ## Who runs -/

/-- The instance at a place of the list runs: a generator and a writer always do, a
propagation behind a generator, and a digitizer behind a propagation for its detector that
runs itself. -/
inductive RunsAt (parts : List Part) : Nat → Prop where
  | generator {index : Nat} (here : parts[index]? = some .generator) : RunsAt parts index
  | propagation {index earlier : Nat} {detector : String}
      (here : parts[index]? = some (.propagation detector)) (before : earlier < index)
      (supplied : parts[earlier]? = some .generator) : RunsAt parts index
  | digitizer {index earlier : Nat} {detector : String}
      (here : parts[index]? = some (.digitizer detector)) (before : earlier < index)
      (supplied : parts[earlier]? = some (.propagation detector))
      (runs : RunsAt parts earlier) : RunsAt parts index
  | writer {index : Nat} (here : parts[index]? = some .writer) : RunsAt parts index

/-- The digitizer of a detector runs before the instance at a place. -/
def Digitized (parts : List Part) (index : Nat) (detector : String) : Prop :=
  ∃ earlier < index, parts[earlier]? = some (.digitizer detector) ∧ RunsAt parts earlier

/-- What the instance at a place sends in an event.  The generator deposits charges only
where there is a propagation in the list, be it before or behind it. -/
inductive Emits (parts : List Part) (index : Nat) : Topic PayloadKind → Prop where
  | deposits {detector : String} (here : parts[index]? = some .generator)
      (waits : .propagation detector ∈ parts) : Emits parts index (.deposited, some detector)
  | propagates {detector : String} (here : parts[index]? = some (.propagation detector))
      (runs : RunsAt parts index) : Emits parts index (.propagated, some detector)
  | digitizes {detector : String} (here : parts[index]? = some (.digitizer detector))
      (runs : RunsAt parts index) : Emits parts index (.hits, some detector)

/-- What was sent in an event before the instance at a place. -/
def Sent (parts : List Part) (index : Nat) (topic : Topic PayloadKind) : Prop :=
  ∃ earlier < index, Emits parts earlier topic

section Places

variable {parts : List Part} {index : Nat} {detector : String} {topic : Topic PayloadKind}

theorem runsAt_propagation_iff (here : parts[index]? = some (.propagation detector)) :
    RunsAt parts index ↔ ∃ earlier < index, parts[earlier]? = some .generator := by
  constructor
  · rintro (other | ⟨-, before, supplied⟩ | ⟨other, -, -, -⟩ | other)
    · cases here.symm.trans other
    · exact ⟨_, before, supplied⟩
    · cases here.symm.trans other
    · cases here.symm.trans other
  · rintro ⟨earlier, before, supplied⟩
    exact .propagation here before supplied

theorem runsAt_digitizer_iff (here : parts[index]? = some (.digitizer detector)) :
    RunsAt parts index ↔
      ∃ earlier < index, parts[earlier]? = some (.propagation detector) ∧ RunsAt parts earlier := by
  constructor
  · rintro (other | ⟨other, -, -⟩ | ⟨there, before, supplied, runs⟩ | other)
    · cases here.symm.trans other
    · cases here.symm.trans other
    · cases here.symm.trans there
      exact ⟨_, before, supplied, runs⟩
    · cases here.symm.trans other
  · rintro ⟨earlier, before, supplied, runs⟩
    exact .digitizer here before supplied runs

theorem emits_generator_iff (here : parts[index]? = some .generator) :
    Emits parts index topic ↔
      ∃ detector, topic = (.deposited, some detector) ∧ .propagation detector ∈ parts := by
  constructor
  · rintro (⟨-, waits⟩ | ⟨other, -⟩ | ⟨other, -⟩)
    · exact ⟨_, rfl, waits⟩
    · cases here.symm.trans other
    · cases here.symm.trans other
  · rintro ⟨detector, rfl, waits⟩
    exact .deposits here waits

theorem emits_propagation_iff (here : parts[index]? = some (.propagation detector)) :
    Emits parts index topic ↔ topic = (.propagated, some detector) ∧ RunsAt parts index := by
  constructor
  · rintro (⟨other, -⟩ | ⟨there, runs⟩ | ⟨other, -⟩)
    · cases here.symm.trans other
    · cases here.symm.trans there
      exact ⟨rfl, runs⟩
    · cases here.symm.trans other
  · rintro ⟨rfl, runs⟩
    exact .propagates here runs

theorem emits_digitizer_iff (here : parts[index]? = some (.digitizer detector)) :
    Emits parts index topic ↔ topic = (.hits, some detector) ∧ RunsAt parts index := by
  constructor
  · rintro (⟨other, -⟩ | ⟨other, -⟩ | ⟨there, runs⟩)
    · cases here.symm.trans other
    · cases here.symm.trans other
    · cases here.symm.trans there
      exact ⟨rfl, runs⟩
  · rintro ⟨rfl, runs⟩
    exact .digitizes here runs

theorem not_emits_writer (here : parts[index]? = some .writer) : ¬ Emits parts index topic := by
  rintro (⟨other, -⟩ | ⟨other, -⟩ | ⟨other, -⟩) <;> cases here.symm.trans other

/-- An instance that does not run sends nothing. -/
theorem Emits.runsAt (emits : Emits parts index topic) : RunsAt parts index := by
  cases emits with
  | deposits here waits => exact .generator here
  | propagates here runs => exact runs
  | digitizes here runs => exact runs

theorem Emits.named (emits : Emits parts index topic) : topic.2 ≠ none := by
  cases emits <;> exact Option.some_ne_none _

/-- Each topic has one sender. -/
theorem Emits.unique {other : Nat} (distinct : parts.Nodup) (emits : Emits parts index topic)
    (also : Emits parts other topic) : index = other := by
  have same {part : Part} (one : parts[index]? = some part) (two : parts[other]? = some part) :
      index = other :=
    (List.getElem?_inj (List.getElem?_eq_some_iff.mp one).1 distinct).mp (one.trans two.symm)
  cases emits with
  | deposits here waits => cases also with | deposits there => exact same here there
  | propagates here runs => cases also with | propagates there => exact same here there
  | digitizes here runs => cases also with | digitizes there => exact same here there

theorem not_sent_zero : ¬ Sent parts 0 topic :=
  fun ⟨_, before, _⟩ => Nat.not_lt_zero _ before

theorem sent_succ_iff :
    Sent parts (index + 1) topic ↔ Sent parts index topic ∨ Emits parts index topic := by
  unfold Sent
  constructor
  · rintro ⟨earlier, before, emits⟩
    rcases Nat.lt_succ_iff_lt_or_eq.mp before with before | rfl
    · exact .inl ⟨earlier, before, emits⟩
    · exact .inr emits
  · rintro (⟨earlier, before, emits⟩ | emits)
    · exact ⟨earlier, Nat.lt_succ_of_lt before, emits⟩
    · exact ⟨index, Nat.lt_succ_self index, emits⟩

/-- What an instance is to send was not sent before. -/
theorem Emits.not_sent (distinct : parts.Nodup) (emits : Emits parts index topic) :
    ¬ Sent parts index topic := by
  rintro ⟨earlier, before, also⟩
  exact absurd (emits.unique distinct also) (Nat.ne_of_gt before)

theorem sent_deposited_iff : Sent parts index (.deposited, some detector) ↔
    (∃ earlier < index, parts[earlier]? = some .generator) ∧ .propagation detector ∈ parts := by
  constructor
  · rintro ⟨earlier, before, emits⟩
    cases emits with
    | deposits here waits => exact ⟨⟨earlier, before, here⟩, waits⟩
  · rintro ⟨⟨earlier, before, here⟩, waits⟩
    exact ⟨earlier, before, .deposits here waits⟩

theorem sent_propagated_iff : Sent parts index (.propagated, some detector) ↔
    ∃ earlier < index, parts[earlier]? = some (.propagation detector) ∧ RunsAt parts earlier := by
  constructor
  · rintro ⟨earlier, before, emits⟩
    cases emits with
    | propagates here runs => exact ⟨earlier, before, here, runs⟩
  · rintro ⟨earlier, before, here, runs⟩
    exact ⟨earlier, before, .propagates here runs⟩

theorem sent_hits_iff :
    Sent parts index (.hits, some detector) ↔ Digitized parts index detector := by
  constructor
  · rintro ⟨earlier, before, emits⟩
    cases emits with
    | digitizes here runs => exact ⟨earlier, before, here, runs⟩
  · rintro ⟨earlier, before, here, runs⟩
    exact ⟨earlier, before, .digitizes here runs⟩

theorem not_sent_none (kind : PayloadKind) : ¬ Sent parts index (kind, none) :=
  fun ⟨_, _, emits⟩ => emits.named rfl

/-- Who runs can be read off the list. -/
instance decidableRunsAt (parts : List Part) (index : Nat) : Decidable (RunsAt parts index) :=
  match here : parts[index]? with
  | some .generator => .isTrue (.generator here)
  | some .writer => .isTrue (.writer here)
  | some (.propagation _) => decidable_of_iff _ (runsAt_propagation_iff here).symm
  | some (.digitizer detector) =>
      decidable_of_iff (∃ earlier < index, parts[earlier]? = some (.propagation detector) ∧
          ∃ first < earlier, parts[first]? = some .generator) <| by
        rw [runsAt_digitizer_iff here]
        apply exists_congr
        intro earlier
        refine and_congr_right fun _ => and_congr_right fun supplied => ?_
        rw [runsAt_propagation_iff supplied]
  | none => .isFalse fun runs => by
      rcases runs with other | ⟨other, -, -⟩ | ⟨other, -, -, -⟩ | other <;>
        cases here.symm.trans other

/-- An instance that requires an input runs if that was sent. -/
theorem runsAt_iff_of_reads {part : Part} (here : parts[index]? = some part)
    (input : part ≠ .writer) (reads : part.Reads topic) :
    RunsAt parts index ↔ Sent parts index topic := by
  cases part with
  | generator => cases reads
  | propagation detector =>
    obtain rfl : topic = (.deposited, some detector) := reads
    rw [runsAt_propagation_iff here, sent_deposited_iff]
    exact (and_iff_left (List.mem_of_getElem? here)).symm
  | digitizer detector =>
    obtain rfl : topic = (.propagated, some detector) := reads
    rw [runsAt_digitizer_iff here, sent_propagated_iff]
  | writer => exact absurd rfl input

end Places

/-! ## What the bonds take -/

section Bonds

variable {ω : Type} [HasWorkspace ω] {geometry : Geometry} {parts : List Part}
  {bonds : List (Bond PayloadKind ω)} {instances : List (Instance PayloadKind ω)}
  {messenger : Messenger PayloadKind ω} {inst : Instance PayloadKind ω} {part : Part}
  {bond : Bond PayloadKind ω} {index : Nat} {kind : PayloadKind} {name : String}

omit [HasWorkspace ω] in
theorem Binds.owner_eq {flags : MessageFlags} {how : DelegateKind PayloadKind ω}
    (binds : Binds bonds inst kind flags how bond) : bond.owner = inst.receiver.id :=
  congrArg Receiver.id binds.receiver_eq

omit [HasWorkspace ω] in
/-- A bond of an instance for a detector that minds the names takes one topic of those
that are for detectors. -/
theorem Binds.takes_iff {how : DelegateKind PayloadKind ω} {detector : Detector}
    (binds : Binds bonds inst kind .requiredInput how bond)
    (own : inst.receiver.detector = some detector) {other : PayloadKind} :
    bond.Takes (other, some name) ↔ (other, some name) = (kind, some detector.name) := by
  rw [Bond.takes_iff_of_detector (binds.receiver_eq ▸ own) (by rw [binds.flags_eq]; rfl),
    binds.kind_eq, Prod.mk.injEq, Option.some.injEq]

namespace Member

/-- What is for a detector is taken for an instance if its part is to read it. -/
theorem takes_iff (member : Member geometry bonds part inst) (live : bond ∈ bonds)
    (own : bond.owner = inst.receiver.id) :
    bond.Takes (kind, some name) ↔ part.Reads (kind, some name) := by
  cases member with
  | generator samplers settings unbound => exact absurd own (unbound bond live)
  | propagation samplers diffusion known here binds =>
    obtain rfl := binds.alone bond live own
    exact binds.takes_iff here
  | digitizer samplers settings known here binds =>
    obtain rfl := binds.alone bond live own
    exact binds.takes_iff here
  | writer path here binds =>
    obtain rfl := binds.alone bond live own
    rw [Bond.takes_iff_of_none (binds.receiver_eq ▸ here), binds.kind_eq]
    rfl

/-- The writer has a slot for all messages, the others for one. -/
theorem kind_cases (member : Member geometry bonds part inst) (live : bond ∈ bonds)
    (own : bond.owner = inst.receiver.id) :
    part ≠ .writer ∧ bond.delegate.kind = .single ∨
      part = .writer ∧ bond.delegate.kind = .multi := by
  cases member with
  | generator samplers settings unbound => exact absurd own (unbound bond live)
  | propagation samplers diffusion known here binds =>
    obtain rfl := binds.alone bond live own
    exact .inl ⟨nofun, binds.how_eq⟩
  | digitizer samplers settings known here binds =>
    obtain rfl := binds.alone bond live own
    exact .inl ⟨nofun, binds.how_eq⟩
  | writer path here binds =>
    obtain rfl := binds.alone bond live own
    exact .inr ⟨rfl, binds.how_eq⟩

end Member

theorem Part.Reads.unique {topic other : Topic PayloadKind} (reads : part.Reads topic)
    (also : part.Reads other) (input : part ≠ .writer) : topic = other := by
  cases part with
  | generator => cases reads
  | propagation detector => exact Eq.trans reads (Eq.symm also)
  | digitizer detector => exact Eq.trans reads (Eq.symm also)
  | writer => exact absurd rfl input

namespace Lineup

variable (lineup : Lineup geometry parts bonds instances messenger)

include lineup

theorem exists_part (found : instances[index]? = some inst) :
    ∃ part, parts[index]? = some part ∧ Member geometry bonds part inst := by
  obtain ⟨inside, rfl⟩ := List.getElem?_eq_some_iff.mp found
  have within : index < parts.length := lineup.members.length_eq ▸ inside
  exact ⟨parts[index], List.getElem?_eq_getElem within, lineup.members.get within inside⟩

theorem exists_inst (found : parts[index]? = some part) :
    ∃ inst, instances[index]? = some inst ∧ Member geometry bonds part inst := by
  obtain ⟨inside, rfl⟩ := List.getElem?_eq_some_iff.mp found
  have within : index < instances.length := lineup.members.length_eq ▸ inside
  exact ⟨instances[index], List.getElem?_eq_getElem within, lineup.members.get inside within⟩

theorem exists_owner (live : bond ∈ bonds) :
    ∃ part ∈ parts, ∃ inst, bond.owner = inst.receiver.id ∧ Member geometry bonds part inst := by
  obtain ⟨inst, among, same⟩ := lineup.owned bond live
  obtain ⟨index, found⟩ := List.mem_iff_getElem?.mp among
  obtain ⟨part, there, member⟩ := lineup.exists_part found
  exact ⟨part, List.mem_of_getElem? there, inst, same.symm, member⟩

/-- A slot for one message takes messages on one topic only. -/
theorem strict : Messenger.Strict bonds where
  unheard := by
    intro bond live callback heard
    obtain ⟨part, -, inst, own, member⟩ := lineup.exists_owner live
    rcases member.kind_cases live own with ⟨-, how⟩ | ⟨-, how⟩ <;> cases heard.symm.trans how
  narrow := by
    intro bond live single kind other name name' takes also
    obtain ⟨part, -, inst, own, member⟩ := lineup.exists_owner live
    rcases member.kind_cases live own with ⟨input, -⟩ | ⟨-, how⟩
    · rw [member.takes_iff live own] at takes also
      have same := takes.unique also input
      simpa using same
    · rw [how] at single
      cases single

/-- Somebody waits for the deposits in a detector exactly if there is a propagation for
it. -/
theorem waits_iff :
    (∃ bond ∈ bonds, bond.Takes (.deposited, some name)) ↔ .propagation name ∈ parts := by
  constructor
  · rintro ⟨bond, live, takes⟩
    obtain ⟨part, among, inst, own, member⟩ := lineup.exists_owner live
    rw [member.takes_iff live own] at takes
    cases part with
    | generator => cases takes
    | propagation detector =>
      obtain rfl : name = detector := by simpa [Part.Reads] using takes
      exact among
    | digitizer detector => cases takes
    | writer => cases takes
  · intro among
    obtain ⟨index, found⟩ := List.mem_iff_getElem?.mp among
    obtain ⟨inst, -, member⟩ := lineup.exists_inst found
    cases member with
    | propagation samplers diffusion known own binds =>
      exact ⟨_, binds.live, (binds.takes_iff own).mpr rfl⟩

/-- A propagation is for a detector of the setup. -/
theorem exists_detector (among : .propagation name ∈ parts) :
    ∃ detector ∈ geometry.detectors, detector.name = name := by
  obtain ⟨index, found⟩ := List.mem_iff_getElem?.mp among
  obtain ⟨inst, -, member⟩ := lineup.exists_inst found
  cases member with
  | propagation samplers diffusion known own binds => exact ⟨_, known, rfl⟩

end Lineup

end Bonds

/-! ## An event on its way -/

section Events

variable {ω : Type} [HasWorkspace ω] {geometry : Geometry} {parts : List Part}
  {bonds : List (Bond PayloadKind ω)} {instances : List (Instance PayloadKind ω)}
  {messenger : Messenger PayloadKind ω} {inst : Instance PayloadKind ω} {index : Nat}

omit [HasWorkspace ω] in
/-- An instance with one bond, which is required, misses nothing if that has got
something. -/
theorem Binds.missing_iff {bond : Bond PayloadKind ω} {kind : PayloadKind}
    {how : DelegateKind PayloadKind ω} {store : MessageStore PayloadKind}
    (binds : Binds bonds inst kind .requiredInput how bond) (wired : messenger.Wired bonds) :
    messenger.missingRequired inst.receiver.id store = [] ↔ store.received bond.slot := by
  rw [wired.missingRequired_eq_nil_iff]
  constructor
  · intro all
    apply all bond binds.live binds.owner_eq
    rw [binds.flags_eq]
    rfl
  · intro received other live own _
    rwa [binds.alone other live own]

namespace Lineup

variable (lineup : Lineup geometry parts bonds instances messenger)

include lineup

/-- An instance misses nothing exactly if it is to run. -/
theorem missing_iff {store : MessageStore PayloadKind}
    (laden : store.Laden bonds (Sent parts index)) (found : instances[index]? = some inst) :
    messenger.missingRequired inst.receiver.id store = [] ↔ RunsAt parts index := by
  obtain ⟨part, here, member⟩ := lineup.exists_part found
  have supplied {bond : Bond PayloadKind ω} {detector : Detector} {kind : PayloadKind}
      (binds : Binds bonds inst kind .requiredInput .single bond)
      (own : inst.receiver.detector = some detector)
      (input : part ≠ .writer) (reads : part.Reads (kind, some detector.name)) :
      messenger.missingRequired inst.receiver.id store = [] ↔ RunsAt parts index := by
    rw [binds.missing_iff lineup.wired, laden.received_iff binds.live,
      runsAt_iff_of_reads here input reads]
    constructor
    · rintro ⟨⟨other, name⟩, was_sent, takes⟩
      cases name with
      | none => exact absurd was_sent (not_sent_none other)
      | some name => rwa [(binds.takes_iff own).mp takes] at was_sent
    · intro was_sent
      exact ⟨_, was_sent, (binds.takes_iff own).mpr rfl⟩
  cases member with
  | generator samplers settings unbound =>
    rw [lineup.wired.missingRequired_eq_nil_iff]
    exact iff_of_true (fun bond live own => absurd own (unbound bond live)) (.generator here)
  | propagation samplers diffusion known own binds => exact supplied binds own nofun rfl
  | digitizer samplers settings known own binds => exact supplied binds own nofun rfl
  | writer path own binds =>
    rw [lineup.wired.missingRequired_eq_nil_iff]
    refine iff_of_true (fun bond live own required => ?_) (.writer here)
    rw [binds.alone bond live own, binds.flags_eq] at required
    cases required

/-- An instance that runs adds to the messages of an event what it is to send. -/
theorem leads_run (distinct : geometry.Distinct) (found : instances[index]? = some inst)
    (runs : RunsAt parts index) :
    Leads messenger inst.receiver (fun err => ¬ err.IsOverwrite)
      (MessageStore.Laden bonds (Sent parts index)) inst.module.run
      fun _ => MessageStore.Laden bonds (Sent parts (index + 1)) := by
  obtain ⟨part, here, member⟩ := lineup.exists_part found
  have fresh {topic : Topic PayloadKind} (emits : Emits parts index topic) :
      ¬ Sent parts index topic := emits.not_sent lineup.distinct
  have grown {topics : Topic PayloadKind → Prop}
      (adds : ∀ topic, Emits parts index topic ↔ topics topic) (store : MessageStore PayloadKind)
      (laden : store.Laden bonds fun topic => Sent parts index topic ∨ topics topic) :
      store.Laden bonds (Sent parts (index + 1)) := by
    apply laden.congr
    intro topic
    rw [sent_succ_iff, adds]
  cases member with
  | generator samplers settings unbound module_eq =>
    rw [module_eq]
    apply (Deposition.leads_run samplers lineup.wired lineup.strict settings distinct
      not_sent_none ?_).mono
    · exact fun _ => id
    · intro _
      apply grown
      intro topic
      rw [emits_generator_iff here]
      constructor
      · rintro ⟨name, rfl, waits⟩
        obtain ⟨detector, known, rfl⟩ := lineup.exists_detector waits
        exact ⟨detector, known, rfl, lineup.waits_iff.mpr waits⟩
      · rintro ⟨detector, known, rfl, waits⟩
        exact ⟨detector.name, rfl, lineup.waits_iff.mp waits⟩
    · intro detector known was_sent
      exact fresh (.deposits here (sent_deposited_iff.mp was_sent).2) was_sent
  | @propagation _ bond samplers diffusion detector known own binds module_eq =>
    rw [module_eq]
    have supplied := (runsAt_iff_of_reads here nofun rfl).mp runs
    apply (Propagation.leads_run samplers lineup.wired lineup.strict diffusion binds.live
      binds.how_eq binds.kind_eq supplied ((binds.takes_iff own).mpr rfl) not_sent_none
      (fresh (.propagates here runs))).mono
    · exact fun _ => id
    · intro _
      apply grown
      intro topic
      rw [emits_propagation_iff here, and_iff_left runs]
  | @digitizer _ bond samplers settings detector known own binds module_eq =>
    rw [module_eq]
    have supplied := (runsAt_iff_of_reads here nofun rfl).mp runs
    apply (Digitizer.leads_run samplers lineup.wired lineup.strict settings inst.receiver.id
      binds.live binds.how_eq binds.kind_eq supplied ((binds.takes_iff own).mpr rfl) not_sent_none
      (fresh (.digitizes here runs))).mono
    · exact fun _ => id
    · intro _
      apply grown
      intro topic
      rw [emits_digitizer_iff here, and_iff_left runs]
  | writer path own binds module_eq =>
    rw [module_eq]
    apply (Writer.leads_run inst.receiver.id path _).mono fun _ => id
    intro _ store laden
    apply laden.congr
    intro topic
    rw [sent_succ_iff, or_iff_left (not_emits_writer here)]

/-- **One step of an event.**  Offered an event that has what was sent before, an instance
runs exactly if it is to, and afterwards the event has what was sent by then.  If the
instance fails, it is not for a second message in a slot that takes one. -/
theorem runEvent_cases (distinct : geometry.Distinct) {state : EventState PayloadKind ω}
    (laden : state.data.store.Laden bonds (Sent parts index))
    (found : instances[index]? = some inst) :
    match inst.runEvent messenger state with
    | (.ok ran, ended) =>
        (ran = true ↔ RunsAt parts index) ∧
          ended.data.store.Laden bonds (Sent parts (index + 1))
    | (.error err, _) => ¬ err.IsOverwrite
    | (.panic _, _) => True := by
  by_cases runs : RunsAt parts index
  · rw [Instance.runEvent_of_missing_eq_nil ((lineup.missing_iff laden found).mpr runs)]
    have step := Instance.called_of_leads (lineup.leads_run distinct found runs) laden
    generalize inst.called messenger state = result at step ⊢
    obtain ⟨outcome, ended⟩ := result
    cases outcome with
    | ok ran => exact ⟨iff_of_true step.1 runs, step.2⟩
    | error err =>
      obtain ⟨cause, mild, rfl⟩ := step
      exact mild
    | panic text => trivial
  · obtain ⟨text, skipped⟩ :=
      Instance.exists_of_missing_ne_nil (mt (lineup.missing_iff laden found).mp runs)
    rw [skipped]
    refine ⟨iff_of_false Bool.false_ne_true runs, laden.congr fun topic => ?_⟩
    rw [sent_succ_iff, or_iff_left fun emits => runs emits.runsAt]

theorem of_runEvent_ok (distinct : geometry.Distinct) {state : EventState PayloadKind ω}
    {ran : Bool} (laden : state.data.store.Laden bonds (Sent parts index))
    (found : instances[index]? = some inst)
    (ended : (inst.runEvent messenger state).1 = .ok ran) :
    (ran = true ↔ RunsAt parts index) ∧
      (inst.runEvent messenger state).2.data.store.Laden bonds (Sent parts (index + 1)) := by
  have step := lineup.runEvent_cases distinct laden found
  generalize inst.runEvent messenger state = result at step ended ⊢
  obtain ⟨outcome, after⟩ := result
  obtain rfl : outcome = .ok ran := ended
  exact step

theorem mild_of_runEvent (distinct : geometry.Distinct) {state : EventState PayloadKind ω}
    {err : Error} (laden : state.data.store.Laden bonds (Sent parts index))
    (found : instances[index]? = some inst)
    (failed : (inst.runEvent messenger state).1 = .error err) : ¬ err.IsOverwrite := by
  have step := lineup.runEvent_cases distinct laden found
  generalize inst.runEvent messenger state = result at step failed
  obtain ⟨outcome, after⟩ := result
  obtain rfl : outcome = .error err := failed
  exact step

end Lineup

variable {plan : RunPlan PayloadKind ω} {event : Nat} {data : EventData PayloadKind}

/-- **All steps of an event.**  When an event comes to an instance, it has what was sent
before, in every run and on every thread. -/
theorem Lineup.laden_of_arrives (lineup : Lineup geometry parts bonds plan.instances plan.messenger)
    (distinct : geometry.Distinct) (arrives : plan.Arrives event index data) :
    data.store.Laden bonds (Sent parts index) := by
  induction arrives with
  | start =>
    apply (MessageStore.Laden.opened lineup.wired event).congr
    exact fun topic => (iff_false_intro not_sent_zero).symm
  | next before found ended ih => exact (lineup.of_runEvent_ok distinct ih found ended).2

end Events

end DetectorSim.Builtin
