import DetectorSim.Proofs.Module.Accounting
import DetectorSim.Proofs.Module.Remnant

/-!
# Failures name who has failed

A manager hands on the error of a factory or of a call as it comes, with the one wrapper
that it got there.  So an error that a call of the manager ends with names exactly the
instance whose code has raised it, and the phase; if it names nobody, nobody's code has
failed, and the manager itself has refused the call.  Whoever listens is named inside the
error of the instance that has dispatched.
-/

set_option autoImplicit false

namespace DetectorSim

open Config

namespace Manager

/-! ## Failures that were seen -/

section Failures

variable {κ ω : Type} [Payload κ]

/-- An error was seen to come out of a call of the instance with an index. -/
inductive Faults (marks : List (Mark κ)) : Phase → Nat → Error → Prop
  | hook {phase : Phase} {index : Nat} {err : Error}
      (seen : .called phase index (.error err) ∈ marks) : Faults marks phase index err
  | threadHook {phase : Phase} {index : Nat} {err : Error}
      (seen : .acted (.hooked phase index (.error err)) ∈ marks) : Faults marks phase index err
  | visit {visit : Visit κ} {err : Error} (seen : .acted (.offered visit) ∈ marks)
      (failed : visit.outcome = .error err) : Faults marks .run visit.index err

theorem not_faults_nil {phase : Phase} {index : Nat} {err : Error} :
    ¬ Faults ([] : List (Mark κ)) phase index err := by
  rintro (seen | seen | seen)
  · cases seen
  · cases seen
  · cases seen

/-- Whether a call loads a configuration. -/
def Command.IsLoad : Command κ ω → Prop
  | .load .. => True
  | _ => False

variable [DecidableEq κ]

/-- An error has come out of a factory or out of a call of an instance, in a call of the
manager. -/
def Episode.Fails (episode : Episode κ ω) (err : Error) : Prop :=
  (∃ commission ∈ episode.commissions, ∃ cause, commission.result.1 = .error cause ∧
      err = commission.blame cause) ∨
    ∃ phase index, Faults episode.marks phase index err

theorem Episode.commissions_of_not_isLoad {episode : Episode κ ω}
    (other : ¬ episode.command.IsLoad) : episode.commissions = [] := by
  unfold commissions
  split
  · next called =>
    rw [called] at other
    exact absurd trivial other
  · rfl

/-- Where nothing is seen of a call that is no load, nobody's code has failed. -/
theorem Command.not_fails_of_silent {command : Command κ ω} (other : ¬ command.IsLoad)
    (before : Manager κ ω × Env ω) (err : Error) : ¬ (command.episode before []).Fails err := by
  rintro (⟨commission, called, -⟩ | ⟨phase, index, faults⟩)
  · rw [Episode.commissions_of_not_isLoad other] at called
    cases called
  · exact not_faults_nil faults

end Failures

/-! ## Calls of a manager -/

section Calls

variable {κ ω : Type} [Payload κ] [DecidableEq κ] {before : Manager κ ω × Env ω}
  {command : Command κ ω} {marks : List (Mark κ)} {round : Round κ ω} {err : Error}

omit [DecidableEq κ] in
/-- What is seen of a round are the ends of its turns. -/
theorem exists_of_mem_marks {mark : Mark κ} (seen : mark ∈ round.marks before) :
    ∃ index inst mid, before.1.instances[index]? = some inst ∧
      mark = .called round.phase index (round.turn inst mid).1 := by
  unfold Round.marks at seen
  by_cases due : before.1.state = round.needs
  · rw [expect_of_due due] at seen
    obtain ⟨index, outcome, placed, rfl⟩ := Round.mem_marksOf.mp seen
    obtain ⟨inst, mid, found, rfl⟩ := Proc.exists_of_getElem?_outcomes placed
    exact ⟨index, inst, mid, found, rfl⟩
  · obtain ⟨text, refused⟩ := expect_of_wrong due round.verb
    rw [refused] at seen
    cases seen

/-- The error of a turn is that of a hook of the instance, wrapped. -/
theorem answers_of_turn (makes : command.round? = some round) {inst : Instance κ ω}
    {mid : Manager κ ω × Env ω} (failed : (round.turn inst mid).1 = .error err)
    (messenger : Messenger κ ω) : inst.Answers messenger round.phase err := by
  obtain ⟨env, same⟩ : ∃ env, (round.turn inst mid).1 = (round.call inst env).1 := ⟨_, rfl⟩
  rw [same] at failed
  cases command with
  | load => cases makes
  | run => cases makes
  | init =>
    obtain rfl := Option.some.inj makes
    exact Instance.answers_of_call rfl failed
  | finalize =>
    obtain rfl := Option.some.inj makes
    exact Instance.answers_of_call rfl failed

/-- What is seen of an event loop is seen of the instances of the manager. -/
theorem Command.Shows.exists_of_acted (shows : command.Shows before marks) {act : Act κ}
    (acted : .acted act ∈ marks) :
    ∃ scheduler plan events workers env roster, plan.instances = before.1.instances ∧
      plan.messenger = before.1.messenger ∧
      Manager.Shows scheduler plan events workers env roster ∧ act ∈ actsOf roster := by
  have uncalled {round : Round κ ω} : .acted act ∉ round.marks before := by
    intro seen
    obtain ⟨index, inst, mid, -, same⟩ := exists_of_mem_marks seen
    cases same
  cases shows with
  | load => cases acted
  | idle => cases acted
  | init => exact absurd acted uncalled
  | finalize => exact absurd acted uncalled
  | @run scheduler host settings _ workers plan begun left roster started seen ended =>
    obtain ⟨manager, env⟩ := before
    obtain ⟨instances_eq, messenger_eq⟩ := plan_of_outset started
    refine ⟨scheduler, plan, _, workers, left, roster, instances_eq, messenger_eq, seen, ?_⟩
    simpa using acted

/-- Whatever error was seen to come out of a call of an instance was raised by its code in this
phase, and names it. -/
theorem Command.Shows.answers (shows : command.Shows before marks) {phase : Phase} {index : Nat}
    (faults : Faults marks phase index err) :
    ∃ inst, before.1.instances[index]? = some inst ∧
      inst.Answers before.1.messenger phase err := by
  cases faults with
  | hook seen =>
    have called {round : Round κ ω} (makes : command.round? = some round)
        (seen : .called phase index (.error err) ∈ round.marks before) :
        ∃ inst, before.1.instances[index]? = some inst ∧
          inst.Answers before.1.messenger phase err := by
      obtain ⟨place, inst, mid, found, same⟩ := exists_of_mem_marks seen
      obtain ⟨rfl, rfl, ended⟩ := Mark.called.inj same
      exact ⟨inst, found, answers_of_turn makes ended.symm _⟩
    cases shows with
    | load => cases seen
    | idle => cases seen
    | init => exact called rfl seen
    | finalize => exact called rfl seen
    | run => simp at seen
  | threadHook seen =>
    obtain ⟨scheduler, plan, events, workers, env, roster, instances_eq, -, all, done⟩ :=
      shows.exists_of_acted seen
    obtain ⟨inst, left, found, ⟨rfl, ended⟩ | ⟨rfl, ended⟩⟩ := all.hooks done
    · exact ⟨inst, instances_eq ▸ found, Instance.answers_of_call rfl ended.symm⟩
    · exact ⟨inst, instances_eq ▸ found, Instance.answers_of_call rfl ended.symm⟩
  | visit seen failed =>
    obtain ⟨scheduler, plan, events, workers, env, roster, instances_eq, messenger_eq, all, done⟩ :=
      shows.exists_of_acted seen
    obtain ⟨inst, state, found, visit_eq⟩ := (all.hosts _ (mem_visits.mpr done)).makes
    rw [visit_eq] at failed
    rw [← instances_eq, ← messenger_eq]
    exact ⟨inst, found, Instance.answers_of_runEvent failed⟩

/-- The error that a load ends with is that of a factory, or no factory has failed. -/
theorem fails_of_load {reader : Reader} {registry : Registry κ ω} {geometry : Geometry}
    (failed : (load reader registry geometry before).1 = .error err) :
    ((Command.load reader registry geometry).episode before []).Fails err ∨
      ¬ err.IsWrapped ∧
        ∀ other, ¬ ((Command.load reader registry geometry).episode before []).Fails other := by
  have accounts := accounts_load reader registry geometry before
  by_cases wrapped : err.IsWrapped
  · exact .inl (.inl (accounts.traced err failed wrapped))
  · refine .inr ⟨wrapped, ?_⟩
    -- Had a factory failed, its error would have ended the load, wrapped.
    rintro other (⟨commission, called, cause, raised, -⟩ | ⟨phase, index, faults⟩)
    · obtain rfl := Outcome.error.inj (failed.symm.trans
        (accounts.blamed commission called cause raised))
      exact wrapped trivial
    · exact not_faults_nil faults

/-- The error that a round ends with is that of a turn, or the round was refused. -/
theorem fails_of_round (round : Round κ ω) (makes : command.round? = some round)
    (failed : (round.perform before).1 = .error err) :
    (command.episode before (round.marks before)).Fails err ∨ ¬ err.IsWrapped ∧
      ∀ other, ¬ (command.episode before (round.marks before)).Fails other := by
  have noLoad : ¬ command.IsLoad := by
    cases command with
    | load => cases makes
    | _ => exact id
  have effect : Effect before command (round.marks before) (round.perform before).1
      (round.perform before).2 := effect_round makes
  rw [failed] at effect
  generalize round.marks before = marks at effect ⊢
  generalize (round.perform before).2 = after at effect
  cases effect with
  | refused => exact .inr ⟨id, command.not_fails_of_silent noLoad before⟩
  | @broken _ other fine _ makes' =>
    refine .inl (.inr ⟨other.phase, fine, .hook (Round.mem_marksOf.mpr ⟨fine, _, ?_, rfl⟩)⟩)
    simp
  | _ => cases makes

/-- An error that comes out of a call of the manager has come out of the code of an instance,
or names nobody, and then nobody's code has failed. -/
theorem Command.Shows.fails_of_error (shows : command.Shows before marks)
    (failed : (command.perform before).1 = .error err) :
    (command.episode before marks).Fails err ∨
      ¬ err.IsWrapped ∧ ∀ other, ¬ (command.episode before marks).Fails other := by
  cases shows with
  | load => exact fails_of_load failed
  | init => exact fails_of_round .init rfl failed
  | finalize => exact fails_of_round .finalize rfl failed
  | @idle scheduler host settings _ unstarted =>
    refine .inr ⟨?_, Command.not_fails_of_silent id before⟩
    rw [perform_run] at failed
    have ended := Outcome.map_eq_error_iff.mp failed
    rcases outset_cases host settings before with ⟨workers, plan, begun, started⟩ |
      ⟨text, refused⟩ | ⟨names, declined⟩
    · exact absurd started (unstarted _ _)
    · cases ended.symm.trans (congrArg Prod.fst (runWith_of_error refused))
      exact id
    · cases ended.symm.trans (congrArg Prod.fst (runWith_of_error declined))
      exact id
  | @run scheduler host settings _ workers plan begun left roster started seen ended =>
    rw [perform_run] at failed
    have ended := (fst_runWith_of_outset started).symm.trans (Outcome.map_eq_error_iff.mp failed)
    have processed := Proc.eq_of_fst_eq (Outcome.map_eq_error_iff.mp ended)
    have acted {act : Act κ} (done : act ∈ actsOf roster) :
        .acted act ∈ Mark.began workers :: ((actsOf roster).map .acted ++ [.ended]) := by
      simpa using done
    rcases error_mem_calls_iff.mp (seen.error_mem_calls processed) with
      ⟨visit, made, raised⟩ | ⟨phase, index, done⟩
    · exact .inl (.inr ⟨.run, visit.index, .visit (acted (mem_visits.mp made)) raised⟩)
    · exact .inl (.inr ⟨phase, index, .threadHook (acted done)⟩)

/-- A dispatch that has failed was objected to by a delegate that the message was for. -/
theorem Command.Shows.exists_objects (shows : command.Shows before marks) {visit : Visit κ}
    (offered : .acted (.offered visit) ∈ marks) {message : AnyMessage κ}
    (seen : .dispatched message (.error err) ∈ visit.sights) :
    ∃ delegate ∈ before.1.messenger.accepting message, delegate.Objects message err := by
  obtain ⟨scheduler, plan, events, workers, env, roster, -, messenger_eq, all, done⟩ :=
    shows.exists_of_acted offered
  obtain ⟨inst, state, -, visit_eq⟩ := (all.hosts _ (mem_visits.mpr done)).makes
  rw [visit_eq] at seen
  rw [← messenger_eq]
  exact inst.exists_objects_of_mem_sights seen

end Calls

/-! ## Lives -/

section Lives

variable {κ ω : Type} [Payload κ] [DecidableEq κ] {episodes : List (Episode κ ω)}
  {manager : Manager κ ω}

/-- Only loads change anything but the state of a manager. -/
theorem Effect.kept {before after : Manager κ ω × Env ω} {command : Command κ ω}
    {marks : List (Mark κ)} {outcome : Outcome Unit}
    (effect : Effect before command marks outcome after) (other : ¬ command.IsLoad) :
    after.1 = { before.1 with state := after.1.state } := by
  cases effect with
  | unloaded => exact absurd trivial other
  | loaded => exact absurd trivial other
  | _ => rfl

namespace Life

/-- All delegates of a manager were bound by the factory calls of its life. -/
theorem bound (life : Life episodes manager) :
    Bound (episodes.flatMap Episode.commissions) manager.messenger := by
  induction life with
  | born => exact .empty
  | @call episodes manager command marks earlier env shows ih =>
    rw [List.flatMap_append, List.flatMap_singleton]
    by_cases loads : command.IsLoad
    · cases command with
      | load reader registry geometry =>
        exact (accounts_load reader registry geometry (manager, env)).binds ih
      | _ => cases loads
    · rw [Episode.commissions_of_not_isLoad loads, shows.effect.kept loads]
      exact ih.append []

/-- As long as no load has panicked, all delegates belong to the instances of the list. -/
theorem exists_staffed (life : Life episodes manager)
    (calm : ∀ episode ∈ episodes, episode.command.IsLoad → ∀ text, episode.outcome ≠ .panic text) :
    ∃ crew, Staffed (episodes.flatMap Episode.commissions) crew manager := by
  induction life with
  | born => exact ⟨[], .empty⟩
  | @call episodes manager command marks earlier env shows ih =>
    obtain ⟨calmBefore, last⟩ := List.forall_mem_append.mp calm
    obtain ⟨crew, staffed⟩ := ih calmBefore
    rw [List.flatMap_append, List.flatMap_singleton]
    by_cases loads : command.IsLoad
    · cases command with
      | load reader registry geometry =>
        exact staffed.load rfl (last _ (List.mem_singleton_self _) loads)
      | _ => cases loads
    · rw [Episode.commissions_of_not_isLoad loads, List.append_nil, shows.effect.kept loads]
      obtain ⟨numbered, distinct, among, built, trim⟩ := staffed
      exact ⟨crew, numbered, distinct, among, built, trim⟩

/-- Every call is made of a manager that has had a life before. -/
theorem exists_earlier (life : Life episodes manager) {episode : Episode κ ω}
    (among : episode ∈ episodes) : ∃ earlier, earlier ⊆ episodes ∧
      Life earlier episode.before.1 ∧ episode.command.Shows episode.before episode.marks ∧
      episode = episode.command.episode episode.before episode.marks := by
  induction life with
  | born => cases among
  | @call episodes manager command marks earlier env shows ih =>
    rcases List.mem_append.mp among with before | last
    · obtain ⟨first, within, known⟩ := ih before
      exact ⟨first, fun other there => List.mem_append_left _ (within there), known⟩
    · obtain rfl := List.mem_singleton.mp last
      exact ⟨episodes, List.subset_append_left _ _, earlier, shows, rfl⟩

end Life

/-- The errors that calls of a manager end with are laid to whose code has failed. -/
structure Attributed (episodes : List (Episode κ ω)) : Prop where
  /-- The error of a factory ends the load, with the name of the instance and the phase. -/
  constructed : ∀ episode ∈ episodes, ∀ commission ∈ episode.commissions, ∀ cause,
    commission.result.1 = .error cause → episode.outcome = .error
      (cause.inModule commission.site.identifier.display .construction)
  /-- Whatever error comes out of a call of an instance was raised by its code in this phase,
  and comes with its name and the phase. -/
  called : ∀ episode ∈ episodes, ∀ phase index err, Faults episode.marks phase index err →
    ∃ inst cause, episode.before.1.instances[index]? = some inst ∧
      inst.Raises episode.before.1.messenger phase cause ∧ err = cause.inModule inst.name phase
  /-- The error that a call of the manager ends with is one of these, as it came.  Otherwise
  it names nobody, and nobody's code has failed. -/
  returned : ∀ episode ∈ episodes, ∀ err, episode.outcome = .error err →
    episode.Fails err ∨ ¬ err.IsWrapped ∧ ∀ other, ¬ episode.Fails other
  /-- An instance that passes on the error of a dispatch is named around it. -/
  passed : ∀ episode ∈ episodes, ∀ visit, .acted (.offered visit) ∈ episode.marks →
    ∀ message err, .dispatched message (.error err) ∈ visit.sights →
      ∀ name phase, visit.outcome = .error (err.inModule name phase) →
        phase = .run ∧ ∃ inst, episode.before.1.instances[visit.index]? = some inst ∧
          name = inst.name
  /-- The error of a dispatch is that of a listener, with the name of who listens, or names
  nobody and says that a slot does not take the message.  The one that listens is an instance
  of the list, unless a load has panicked; in any case a factory was called to construct it. -/
  heard : ∀ episode ∈ episodes, ∀ visit, .acted (.offered visit) ∈ episode.marks →
    ∀ message err, .dispatched message (.error err) ∈ visit.sights →
      ∃ delegate ∈ episode.before.1.messenger.accepting message, delegate.Objects message err ∧
        (∃ commission ∈ episodes.flatMap Episode.commissions,
          delegate.receiver = commission.site.receiver ∧
            delegate.receiver.name = commission.site.identifier.display) ∧
        ((∀ other ∈ episodes, other.command.IsLoad → ∀ text, other.outcome ≠ .panic text) →
          ∃ inst ∈ episode.before.1.instances,
            delegate.receiver = inst.receiver ∧ delegate.receiver.name = inst.name)
  /-- However often an error was wrapped, its category is that of the innermost cause. -/
  category : ∀ episode ∈ episodes, ∀ err, episode.outcome = .error err →
    err.category = err.cause.category ∧ ¬ err.cause.IsWrapped

/-- **Failures name who has failed.**  Whatever calls are made of a manager, and whatever its
instances do, on one thread or on a pool under any scheduler, errors are laid to whose code
has failed. -/
theorem Life.attributed (life : Life episodes manager) : Attributed episodes where
  constructed episode among commission called cause failed := by
    obtain ⟨earlier, -, -, shows, same⟩ := life.exists_earlier among
    rw [same] at called ⊢
    generalize episode.command = command at called ⊢
    cases command with
    | load reader registry geometry =>
      exact (accounts_load reader registry geometry episode.before).blamed _ called cause failed
    | _ => cases called
  called episode among phase index err faults := by
    obtain ⟨earlier, -, -, shows, -⟩ := life.exists_earlier among
    obtain ⟨inst, found, cause, raised, err_eq⟩ := shows.answers faults
    exact ⟨inst, cause, found, raised, err_eq⟩
  returned episode among err failed := by
    obtain ⟨earlier, -, -, shows, same⟩ := life.exists_earlier among
    rw [same] at failed ⊢
    exact shows.fails_of_error failed
  passed episode among visit offered message err seen name phase ended := by
    obtain ⟨earlier, -, -, shows, -⟩ := life.exists_earlier among
    obtain ⟨inst, found, cause, -, same⟩ := shows.answers (.visit offered ended)
    obtain ⟨name_eq, phase_eq, -⟩ := Error.inModule.inj same
    exact ⟨phase_eq, inst, found, name_eq⟩
  heard episode among visit offered message err seen := by
    obtain ⟨earlier, within, before, shows, -⟩ := life.exists_earlier among
    obtain ⟨delegate, accepts, objects⟩ := shows.exists_objects offered seen
    -- Who owns the delegate is on the list only if no panic has kept it from there.
    refine ⟨delegate, accepts, objects, ?_, fun calm => ?_⟩
    · obtain ⟨commission, called, same⟩ := before.bound.exists_commission accepts
      obtain ⟨other, there, own⟩ := List.mem_flatMap.mp called
      exact ⟨commission, List.mem_flatMap.mpr ⟨other, within there, own⟩, same,
        congrArg Receiver.name same⟩
    · obtain ⟨crew, staffed⟩ := before.exists_staffed fun other there => calm other (within there)
      obtain ⟨bond, bound, -, rfl⟩ := staffed.trim.mem_accepting_iff.mp accepts
      obtain ⟨commission, hired, own⟩ := List.mem_flatMap.mp bound
      obtain ⟨inst, listed, yields⟩ := staffed.exists_yields hired
      have same : bond.delegate.receiver = inst.receiver :=
        (Commission.receiver_of_mem_bonds own).trans yields.receiver.symm
      exact ⟨inst, listed, same, (congrArg Receiver.name same).trans yields.name⟩
  category episode among err failed := ⟨err.category_cause.symm, err.not_isWrapped_cause⟩

end Lives

end Manager

/-! ## Someone who does not want to listen -/

open Builtin

/-- A module that sends hits in every event. -/
def Module.speaking : Module PayloadKind Unit where
  safety := .threadSafe
  init := .done ()
  threadInit := .done ()
  run := EventCode.dispatch .hits [] none
  threadFinalize := .done ()
  finalize := .done ()
  release := .done ()

/-- The type of this module. -/
def Descriptor.speaker : Descriptor PayloadKind Unit :=
  ⟨"Speaker", .unique fun _ _ _ => .done .speaking⟩

/-- A module type that listens to hits, and fails when it gets them. -/
def Descriptor.grump : Descriptor PayloadKind Unit :=
  ⟨"Grump", .perDetector fun _ _ _ => do
    let _ ← Construction.listen PayloadKind.hits .none fun _ => .fail (.runtime "not now")
    return { Module.idle with safety := .threadSafe }⟩

/-- The registry that has these types. -/
def Registry.speakerAndGrump : Registry PayloadKind Unit :=
  ⟨⟨[("Speaker", .speaker), ("Grump", .grump)]⟩, .empty⟩

namespace Manager

/-- The calls that lead to a run of one who speaks and of one who does not want to listen. -/
def introducing : List (Command PayloadKind Unit) :=
  [.load ⟨[⟨"Speaker", none, []⟩, ⟨"Grump", none, [("name", "left")]⟩]⟩ .speakerAndGrump .pair,
    .init]

/-- A run on two workers. -/
def conversation : Command PayloadKind Unit :=
  .run RunPlan.runToEnd ⟨4, 0, mixedWords⟩ threeOnTwo

/-- The error names the speaker, and inside it the listener. -/
theorem attributed_conversation :
    ∃ episodes episode, episodes.map Episode.command = introducing ∧
      episode.command = conversation ∧
      episode.outcome = .error (.inModule "Speaker" .run
        (.inModule "Grump:left" .run (.runtime "not now"))) ∧
      Attributed (episodes ++ [episode]) := by
  have fair : conversation.IsFair := by
    have few : threeOnTwo.events + threeOnTwo.workers 4 < 18446744073709551616 := by decide
    exact ⟨fair_runToEnd, few⟩
  have opening : ∀ command ∈ introducing, command.IsFair := by
    simp [introducing, Command.IsFair]
  obtain ⟨episodes, life, called⟩ := Life.born.exists_lead introducing opening ⟨(), .empty⟩
  obtain ⟨marks, shows⟩ := Command.exists_shows fair (lead introducing (.empty, ⟨(), .empty⟩))
  have ended : (conversation.perform (lead introducing (.empty, ⟨(), .empty⟩))).1
      = .error (.inModule "Speaker" .run
          (.inModule "Grump:left" .run (.runtime "not now"))) := by decide +kernel
  generalize lead introducing (.empty, ⟨(), .empty⟩) = before at life shows ended
  obtain ⟨manager, env⟩ := before
  exact ⟨episodes, conversation.episode (manager, env) marks, called, rfl, ended,
    (life.call env shows).attributed⟩

end Manager

end DetectorSim
