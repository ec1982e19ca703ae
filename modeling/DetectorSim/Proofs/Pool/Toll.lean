import DetectorSim.Proofs.Pool.Progress

/-!
# What failures cost a pool

A worker carries the outcome of the first call that failed on it, until it has
told the others: a panic turns into an error when it is contained, and an error
is kept before the run is stopped.  A call is that of a hook; counting an event
where there is no room for it fails like one.  What a step does to the burden of
its worker and to what is kept is said once here, as a relation.
-/

set_option autoImplicit false

namespace DetectorSim

variable {κ ω : Type} [Payload κ]

/-! ## Calls -/

namespace Act

/-- How the hook ended that was called. -/
def hook? : Act κ → Option (Outcome Unit)
  | .hooked _ _ outcome => some outcome
  | .offered visit => some (visit.outcome.map fun _ => ())
  | _ => none

/-- How a hook ended that was called, or a count that ran over. -/
def call? : Act κ → Option (Outcome Unit)
  | .overflowed => some (.panic overflowText)
  | act => act.hook?

/-- The text of the panic that was contained. -/
def contained? : Act κ → Option String
  | .contained text => some text
  | _ => none

end Act

/-- How the hooks ended that were called, in order. -/
def hookCalls (acts : List (Act κ)) : List (Outcome Unit) :=
  acts.filterMap Act.hook?

/-- How the hooks and the counts ended, in order; of the counts those that ran over. -/
def calls (acts : List (Act κ)) : List (Outcome Unit) :=
  acts.filterMap Act.call?

/-- The texts of the panics that were contained, in order. -/
def containedTexts (acts : List (Act κ)) : List String :=
  acts.filterMap Act.contained?

/-- A call that ended somehow is one of a hook, or the count of a worker ran over. -/
theorem mem_calls_iff {acts : List (Act κ)} {outcome : Outcome Unit} :
    outcome ∈ calls acts ↔
      outcome ∈ hookCalls acts ∨ outcome = .panic overflowText ∧ .overflowed ∈ acts := by
  simp only [calls, hookCalls, List.mem_filterMap]
  constructor
  · rintro ⟨act, done, called⟩
    cases act with
    | overflowed => exact .inr ⟨(Option.some.inj called).symm, done⟩
    | _ => exact .inl ⟨_, done, called⟩
  · rintro (⟨act, done, called⟩ | ⟨rfl, done⟩)
    · cases act with
      | overflowed => cases called
      | _ => exact ⟨_, done, called⟩
    · exact ⟨_, done, rfl⟩

/-! ## Burdens -/

namespace Stage

/-- The failure that a worker has not told the others yet. -/
def burden : Stage κ → Outcome Unit
  | .leaving _ _ _ outcome => outcome
  | .unwinding text _ => .panic text
  | .closing (.error err) => .error err
  | .finishing (.error err) _ => .error err
  | .failing err => .error err
  | _ => .ok ()

/-- Whether a worker has told the others of a failure and stops them. -/
def hasRaised : Stage κ → Prop
  | .raising => True
  | .releasing _ => True
  | _ => False

end Stage

/-- A step stops nobody, unless the worker has told the others of a failure. -/
structure Pool.Unstopped (pool next : Pool κ ω) (raised : Prop) : Prop where
  aborted : next.aborted = true → pool.aborted = true ∨ raised
  gates : ∀ {index gate}, next.gate? index = some gate → gate.aborted = true →
    (∃ before, pool.gate? index = some before ∧ before.aborted = true) ∨ raised

/-- A step stops nobody and keeps neither an error nor a panic. -/
structure Pool.Silent (pool next : Pool κ ω) (raised : Prop) : Prop
    extends pool.Unstopped next raised where
  failure_eq : next.failure = pool.failure
  panicked_eq : next.panicked = pool.panicked

namespace Pool

variable {pool next : Pool κ ω} {raised : Prop}

theorem Unstopped.of_eq (aborted_eq : next.aborted = pool.aborted)
    (gates_eq : next.gates = pool.gates) : pool.Unstopped next raised := by
  refine ⟨fun h => .inl (aborted_eq ▸ h), ?_⟩
  intro index gate found aborted
  rw [gate?_congr gates_eq] at found
  exact .inl ⟨gate, found, aborted⟩

theorem Silent.of_eq (failure_eq : next.failure = pool.failure)
    (panicked_eq : next.panicked = pool.panicked) (aborted_eq : next.aborted = pool.aborted)
    (gates_eq : next.gates = pool.gates) : pool.Silent next raised :=
  ⟨.of_eq aborted_eq gates_eq, failure_eq, panicked_eq⟩

/-- Handing on a turn is silent. -/
theorem Silent.of_handOn {event place : Nat} :
    pool.Silent (pool.changeGate place (·.handOn event)) raised := by
  refine ⟨⟨.inl, ?_⟩, rfl, rfl⟩
  intro index gate found aborted
  obtain ⟨before, found', rfl⟩ := exists_gate?_of_modify rfl found
  refine .inl ⟨before, found', ?_⟩
  split at aborted <;> exact aborted

end Pool

namespace RunPlan

/-- What a step does to the burden of the worker that makes it, and to what all
workers share for failures. -/
inductive Toll (pool next : Pool κ ω) : Stage κ → Stage κ → Option (Act κ) → Prop where
  /-- Nothing is called. -/
  | quiet {old new : Stage κ} {act : Option (Act κ)}
      (silent : pool.Silent next old.hasRaised) (burden_eq : new.burden = old.burden)
      (raised : new.hasRaised → old.hasRaised)
      (opens : old.isOpen = true → new.burden = .ok () → new.isOpen = true ∨
        pool.aborted = true ∨ old = .claiming)
      (uncalled : act.bind Act.call? = none) (uncontained : act.bind Act.contained? = none) :
      Toll pool next old new act
  /-- A hook is called, or a count runs over.  A failure is a burden, unless there is an
  error already and the hook did not panic. -/
  | called {old new : Stage κ} {act : Option (Act κ)} {outcome : Outcome Unit}
      (silent : pool.Silent next old.hasRaised) (called : act.bind Act.call? = some outcome)
      (uncontained : act.bind Act.contained? = none)
      (unpanicked : ∀ text, old.burden ≠ .panic text)
      (burden : new.burden = outcome ∧ (outcome = .ok () → old.burden = .ok ()) ∨
        new.burden = old.burden ∧ old.burden ≠ .ok () ∧ ∀ text, outcome ≠ .panic text)
      (unraised : ¬ new.hasRaised)
      (opens : old.isOpen = true → outcome = .ok () → new.isOpen = true) :
      Toll pool next old new act
  /-- An event is turned away at an aborted gate. -/
  | refused {event index : Nat} {data : EventData κ} {gate : Gate}
      (silent : pool.Silent next False) (found : pool.gate? index = some gate)
      (aborted : gate.aborted = true) :
      Toll pool next (.arriving event data index) (.closing (.error .aborted)) none
  /-- A panic is contained. -/
  | contained {text : String} {what : Interrupted} {err : Error} {new : Stage κ}
      (failure_eq : next.failure = pool.failure)
      (panicked_eq : next.panicked = pool.panicked.or (some text))
      (unstopped : pool.Unstopped next False) (burden_eq : new.burden = .error err)
      (unraised : ¬ new.hasRaised) (shut : new.isOpen = false) :
      Toll pool next (.unwinding text what) new (some (.contained text))
  /-- An error is kept if it is the first. -/
  | kept {err : Error} (failure_eq : next.failure = pool.failure.or (some err))
      (panicked_eq : next.panicked = pool.panicked) (unstopped : pool.Unstopped next False) :
      Toll pool next (.failing err) .raising none

/-! ## Every step has its toll -/

section Steps

variable (plan : RunPlan κ ω) (events : Nat) (pool : Pool κ ω) (worker : Worker κ)

/-- Going out of an instance hands on the turn and keeps the burden. -/
theorem toll_leave {event index : Nat} {data : EventData κ} {outcome : Outcome Unit} :
    Toll pool (leave pool event data index outcome).1 (.leaving event data index outcome)
      (leave pool event data index outcome).2 (some (.left event index)) := by
  cases outcome with
  | ok value => exact .quiet .of_handOn rfl id (fun _ _ => .inl rfl) rfl rfl
  | error err => exact .quiet .of_handOn rfl id (fun _ h => by cases h) rfl rfl
  | panic text => exact .quiet .of_handOn rfl id (fun _ h => by cases h) rfl rfl

/-- Making an error of a panic contains it. -/
theorem toll_unwind {text : String} {what : Interrupted} :
    Toll pool (unwind pool text what).1 (.unwinding text what) (unwind pool text what).2
      (some (.contained text)) := by
  cases what with
  | event => exact .contained rfl rfl (.of_eq rfl rfl) rfl id rfl
  | thread => exact .contained rfl rfl (.of_eq rfl rfl) rfl id rfl

/-- Keeping an error keeps it if it is the first. -/
theorem toll_keepFailure {err : Error} :
    Toll pool (pool.keepFailure worker.thread err) (.failing err) .raising none := by
  unfold Pool.keepFailure
  cases kept : pool.failure with
  | some first => exact .kept (by rw [kept]; rfl) rfl (.of_eq rfl rfl)
  | none => exact .kept (by rw [kept]; rfl) rfl (.of_eq rfl rfl)

/-- Aborting gates is for workers that have told of a failure. -/
theorem toll_release {index : Nat} :
    Toll pool (release pool index).1 (.releasing index) (release pool index).2 none := by
  unfold release
  split
  · refine .quiet ⟨⟨.inl, ?_⟩, rfl, rfl⟩ rfl id (fun h => by cases h) rfl rfl
    exact fun _ _ => .inr trivial
  · exact .quiet (.of_eq rfl rfl rfl rfl) rfl (fun h => h.elim) (fun h => by cases h) rfl rfl

/-- The list of workers does not matter for the toll. -/
theorem Toll.withWorkers {next : Pool κ ω} {old new : Stage κ} {act : Option (Act κ)}
    (toll : Toll pool next old new act) (list : List (Worker κ)) :
    Toll pool { next with workers := list } old new act := by
  have unstopped : ∀ {raised}, pool.Unstopped next raised →
      pool.Unstopped { next with workers := list } raised := fun before =>
    ⟨before.aborted, before.gates⟩
  have silently : ∀ {raised}, pool.Silent next raised →
      pool.Silent { next with workers := list } raised := fun silent =>
    ⟨unstopped silent.toUnstopped, silent.failure_eq, silent.panicked_eq⟩
  cases toll with
  | quiet silent burden_eq raised opens uncalled uncontained =>
    exact .quiet (silently silent) burden_eq raised opens uncalled uncontained
  | called silent called uncontained unpanicked burden unraised opens =>
    exact .called (silently silent) called uncontained unpanicked burden unraised opens
  | refused silent found aborted => exact .refused (silently silent) found aborted
  | contained failure_eq panicked_eq before burden_eq unraised shut =>
    exact .contained failure_eq panicked_eq (unstopped before) burden_eq unraised shut
  | kept failure_eq panicked_eq before =>
    exact .kept failure_eq panicked_eq (unstopped before)

variable [DecidableEq κ]

/-- Initializing an instance on a thread calls its hook. -/
theorem toll_start {index : Nat} (stage : worker.stage = .starting index) :
    Toll pool (plan.start pool worker index).1 (.starting index)
      (plan.start pool worker index).2 (plan.act? events pool worker) := by
  simp only [start, act?, stage]
  cases found : plan.instances[index]? with
  | none => exact .quiet (.of_eq rfl rfl rfl rfl) rfl id (fun _ _ => .inl rfl) rfl rfl
  | some inst =>
    simp only [Pool.perform]
    split <;> rename_i performed <;> obtain ⟨outcome_eq, rfl⟩ := Prod.mk.inj performed
    · exact .called (.of_eq rfl rfl rfl rfl) (congrArg some outcome_eq) rfl
        (by simp [Stage.burden]) (.inl ⟨rfl, fun _ => rfl⟩) id (fun _ _ => rfl)
    · exact .called (.of_eq rfl rfl rfl rfl) (congrArg some outcome_eq) rfl
        (by simp [Stage.burden]) (.inl ⟨rfl, fun h => by cases h⟩) id (fun _ h => by cases h)
    · exact .called (.of_eq rfl rfl rfl rfl) (congrArg some outcome_eq) rfl
        (by simp [Stage.burden]) (.inl ⟨rfl, fun h => by cases h⟩) id (fun _ h => by cases h)

/-- Finalizing an instance on a thread calls its hook. -/
theorem toll_finish {result : Except Error Unit} {index : Nat}
    (stage : worker.stage = .finishing result index) :
    Toll pool (plan.finish pool worker result index).1 (.finishing result index)
      (plan.finish pool worker result index).2 (plan.act? events pool worker) := by
  simp only [finish, act?, stage]
  cases found : plan.instances[index]? with
  | none =>
    cases result with
    | ok value =>
      exact .quiet (.of_eq rfl rfl rfl rfl) rfl (fun h => h.elim) (fun h => by cases h) rfl rfl
    | error err =>
      exact .quiet (.of_eq rfl rfl rfl rfl) rfl (fun h => h.elim) (fun h => by cases h) rfl rfl
  | some inst =>
    simp only [Pool.perform]
    cases result with
    | ok value =>
      split <;> rename_i performed <;> obtain ⟨outcome_eq, rfl⟩ := Prod.mk.inj performed
      · exact .called (.of_eq rfl rfl rfl rfl) (congrArg some outcome_eq) rfl
          (by simp [Stage.burden]) (.inl ⟨rfl, fun _ => rfl⟩) id (fun h => by cases h)
      · exact .called (.of_eq rfl rfl rfl rfl) (congrArg some outcome_eq) rfl
          (by simp [Stage.burden]) (.inl ⟨rfl, fun h => by cases h⟩) id (fun h => by cases h)
      · exact .called (.of_eq rfl rfl rfl rfl) (congrArg some outcome_eq) rfl
          (by simp [Stage.burden]) (.inl ⟨rfl, fun h => by cases h⟩) id (fun h => by cases h)
    | error err =>
      split <;> rename_i performed <;> obtain ⟨outcome_eq, rfl⟩ := Prod.mk.inj performed
      · exact .called (.of_eq rfl rfl rfl rfl) (congrArg some outcome_eq) rfl
          (by simp [Stage.burden]) (.inr ⟨rfl, by simp [Stage.burden], by simp⟩) id
          (fun h => by cases h)
      · exact .called (.of_eq rfl rfl rfl rfl) (congrArg some outcome_eq) rfl
          (by simp [Stage.burden]) (.inr ⟨rfl, by simp [Stage.burden], by simp⟩) id
          (fun h => by cases h)
      · exact .called (.of_eq rfl rfl rfl rfl) (congrArg some outcome_eq) rfl
          (by simp [Stage.burden]) (.inl ⟨rfl, fun h => by cases h⟩) id (fun h => by cases h)

/-- Taking an event calls no hook. -/
theorem toll_claim (stage : worker.stage = .claiming) :
    Toll pool (plan.claim events pool worker).1 .claiming (plan.claim events pool worker).2
      (plan.act? events pool worker) := by
  simp only [claim, act?, stage]
  split <;>
    exact .quiet (.of_eq rfl rfl rfl rfl) rfl id (fun _ _ => .inr (.inr rfl)) rfl rfl

/-- Going in to an instance calls no hook, but an aborted gate gives an error. -/
theorem toll_arrive {event index : Nat} {data : EventData κ} {new : Stage κ}
    (stage : worker.stage = .arriving event data index)
    (inside : index < plan.instances.length)
    (arrived : arrive? pool event data index = some new) :
    Toll pool pool (.arriving event data index) new (plan.act? events pool worker) := by
  have course := course_arrive plan events pool worker stage inside arrived
  generalize plan.act? events pool worker = act at course ⊢
  cases course with
  | entered => exact .quiet (.of_eq rfl rfl rfl rfl) rfl id (fun _ _ => .inl rfl) rfl rfl
  | refused found aborted => exact .refused (.of_eq rfl rfl rfl rfl) found aborted
  | completed beyond => exact absurd inside (Nat.not_lt_of_le beyond)
  | overflowed beyond => exact absurd inside (Nat.not_lt_of_le beyond)
  | aside unclaimed still => cases still

/-- Offering an event to an instance calls its hook. -/
theorem toll_visitAt {event index : Nat} {data : EventData κ} {inst : Instance κ ω}
    (stage : worker.stage = .running event data index)
    (found : plan.instances[index]? = some inst) :
    Toll pool (plan.visitAt pool worker event data index inst).1 (.running event data index)
      (plan.visitAt pool worker event data index inst).2 (plan.act? events pool worker) := by
  rw [visitAt_eq]
  simp only [act?, stage, found, Option.map_some]
  refine .called (.of_eq rfl rfl rfl rfl) rfl rfl (by simp [Stage.burden]) (.inl ⟨rfl, ?_⟩) id
    (fun _ _ => rfl)
  exact fun _ => rfl

/-- Every step of a worker has its toll. -/
theorem toll_of_advance? {choice : Choice} {middle : Pool κ ω} {after : Worker κ}
    (advanced : plan.advance? events pool choice worker = some (middle, after)) :
    Toll pool middle worker.stage after.stage (plan.act? events pool worker) := by
  have advance := advance_of_advance? advanced
  generalize stage : worker.stage = old at advance ⊢
  generalize after.stage = new at advance ⊢
  cases advance with
  | woken =>
    simp only [act?, stage]
    exact .quiet (.of_eq rfl rfl rfl rfl) rfl id (fun _ _ => .inl rfl) rfl rfl
  | started => exact toll_start plan events pool worker stage
  | checked =>
    simp only [act?, stage]
    split
    · next stopped =>
      exact .quiet (.of_eq rfl rfl rfl rfl) rfl id (fun _ _ => .inr (.inl stopped)) rfl rfl
    · exact .quiet (.of_eq rfl rfl rfl rfl) rfl id (fun _ _ => .inl rfl) rfl rfl
  | claimed => exact toll_claim plan events pool worker stage
  | arrived inside arrived => exact toll_arrive plan events pool worker stage inside arrived
  | completed beyond room =>
    simp only [act?, stage, if_neg beyond, if_pos room]
    exact .quiet (.of_eq rfl rfl rfl rfl) rfl id (fun _ _ => .inl rfl) rfl rfl
  | overflowed beyond full =>
    simp only [act?, stage, if_neg beyond, full, Bool.false_eq_true, if_false]
    exact .called (.of_eq rfl rfl rfl rfl) rfl rfl (by simp [Stage.burden])
      (.inl ⟨rfl, fun h => by cases h⟩) id (fun _ h => by cases h)
  | visited found => exact toll_visitAt plan events pool worker stage found
  | left => simpa only [act?, stage] using toll_leave pool
  | unwound => simpa only [act?, stage] using toll_unwind pool
  | @closed result text =>
    simp only [act?, stage]
    cases result <;>
      exact .quiet (.of_eq rfl rfl rfl rfl) rfl id (fun h => by cases h) rfl rfl
  | finished => exact toll_finish plan events pool worker stage
  | failed => simpa only [act?, stage] using toll_keepFailure pool worker
  | raised =>
    simp only [act?, stage]
    refine .quiet ⟨⟨fun _ => .inr trivial, ?_⟩, rfl, rfl⟩ rfl id (fun h => by cases h) rfl rfl
    exact fun _ _ => .inr trivial
  | released => simpa only [act?, stage] using toll_release pool

/-- Every step of a pool replaces one worker, follows a course and has its toll. -/
theorem toll_of_step? {choice : Choice} {next : Pool κ ω}
    (found : pool.workers[choice.worker]? = some worker)
    (step : plan.step? events pool choice = some next) :
    ∃ new, pool.Replaces next choice.worker worker.stage new ∧
      Course plan events pool next.next next.gates worker.stage new
        (plan.act? events pool worker) ∧
      Toll pool next worker.stage new (plan.act? events pool worker) := by
  obtain ⟨same, middle, after, found', advanced, rfl⟩ := exists_of_step? step
  obtain rfl : worker = same := Option.some.inj (found.symm.trans found')
  obtain ⟨workers_eq, course⟩ := course_of_advance? plan events pool worker advanced
  have toll := toll_of_advance? plan events pool worker advanced
  exact ⟨after.stage, Pool.replaces_of_set found (by simp [workers_eq]), course,
    toll.withWorkers pool _⟩

end Steps

end RunPlan

end DetectorSim
