import DetectorSim.Proofs.Pool.Toll

/-!
# How the run of a pool ends

A failure is neither lost nor made up: the run succeeds exactly if no call has
failed, and then every event has been at every instance.  If there was a panic, the
first one that was contained comes out again; else an error comes out that a hook
ended with.  The error of an aborted gate never does, for gates are aborted only
after another error was kept.
-/

set_option autoImplicit false

namespace DetectorSim

variable {κ ω : Type} [Payload κ]

/-- No hook that was called has failed, and no count ran over. -/
def isCalm (acts : List (Act κ)) : Prop :=
  ∀ outcome ∈ calls acts, outcome = .ok ()

theorem calls_append (acts : List (Act κ)) (act : Option (Act κ)) :
    calls (acts ++ act.toList) = calls acts ++ (act.bind Act.call?).toList :=
  filterMap_append_act Act.call? acts act

theorem hookCalls_append (acts : List (Act κ)) (act : Option (Act κ)) :
    hookCalls (acts ++ act.toList) = hookCalls acts ++ (act.bind Act.hook?).toList :=
  filterMap_append_act Act.hook? acts act

theorem containedTexts_append (acts : List (Act κ)) (act : Option (Act κ)) :
    containedTexts (acts ++ act.toList)
      = containedTexts acts ++ (act.bind Act.contained?).toList :=
  filterMap_append_act Act.contained? acts act

/-- Nothing has failed exactly if no hook has and no count ran over. -/
theorem isCalm_iff {acts : List (Act κ)} :
    isCalm acts ↔ (∀ outcome ∈ hookCalls acts, outcome = .ok ()) ∧ .overflowed ∉ acts := by
  constructor
  · intro calm
    refine ⟨fun outcome called => calm outcome (mem_calls_iff.mpr (.inl called)), fun done => ?_⟩
    cases calm _ (mem_calls_iff.mpr (.inr ⟨rfl, done⟩))
  · rintro ⟨fine, kept⟩ outcome called
    rcases mem_calls_iff.mp called with hook | ⟨-, done⟩
    · exact fine outcome hook
    · exact absurd done kept

/-- What was calm in the end was so before. -/
theorem isCalm_of_append {acts : List (Act κ)} {act : Option (Act κ)}
    (calm : isCalm (acts ++ act.toList)) : isCalm acts := by
  intro outcome called
  apply calm outcome
  rw [calls_append]
  exact List.mem_append_left _ called

/-- A failure was told to the workers of a pool. -/
def Pool.isStopped (pool : Pool κ ω) : Prop :=
  pool.aborted = true ∨
    (∃ index gate, pool.gate? index = some gate ∧ gate.aborted = true) ∨
      ∃ i stage, pool.stage? i = some stage ∧ stage.hasRaised

/-- All failures so far are accounted for: those that were kept and those that are
the burden of a worker come from calls, and each failure of a call was kept or is
somebody's burden. -/
structure Honest (acts : List (Act κ)) (pool : Pool κ ω) : Prop where
  panicked_eq : pool.panicked = (containedTexts acts).head?
  contained : ∀ {text}, text ∈ containedTexts acts → .panic text ∈ calls acts
  carries_panic : ∀ {i stage text}, pool.stage? i = some stage →
    stage.burden = .panic text → .panic text ∈ calls acts
  /-- Beside the errors of hooks, there is that of a panic that was contained and
  that of a gate that was aborted. -/
  carries_error : ∀ {i stage err}, pool.stage? i = some stage → stage.burden = .error err →
    .error err ∈ calls acts ∨ containedTexts acts ≠ [] ∨ pool.failure ≠ none
  kept : ∀ {err}, pool.failure = some err →
    .error err ∈ calls acts ∨ containedTexts acts ≠ []
  stopped : pool.isStopped → pool.failure ≠ none
  panics : ∀ {text}, .panic text ∈ calls acts → containedTexts acts ≠ [] ∨
    ∃ i stage text, pool.stage? i = some stage ∧ stage.burden = .panic text
  failures : ∀ {outcome}, outcome ∈ calls acts → outcome ≠ .ok () →
    pool.failure ≠ none ∨ ∃ i stage, pool.stage? i = some stage ∧ stage.burden ≠ .ok ()

namespace Honest

variable {i : Nat} {pool next : Pool κ ω} {acts : List (Act κ)} {act : Option (Act κ)}
  {old new : Stage κ}

/-- As long as no call has failed, nothing was kept and nobody has a burden. -/
theorem of_calm (honest : Honest acts pool) (calm : isCalm acts) :
    pool.failure = none ∧ containedTexts acts = [] ∧
      ∀ i stage, pool.stage? i = some stage → stage.burden = .ok () := by
  have none_contained : containedTexts acts = [] := by
    rw [List.eq_nil_iff_forall_not_mem]
    intro text inside
    cases calm _ (honest.contained inside)
  have none_kept : pool.failure = none := by
    cases kept : pool.failure with
    | none => rfl
    | some err =>
      rcases honest.kept kept with called | contained
      · cases calm _ called
      · exact absurd none_contained contained
  refine ⟨none_kept, none_contained, fun i stage was => ?_⟩
  cases burden : stage.burden with
  | ok value => rfl
  | error err =>
    rcases honest.carries_error was burden with called | contained | kept
    · cases calm _ called
    · exact absurd none_contained contained
    · exact absurd none_kept kept
  | panic text => cases calm _ (honest.carries_panic was burden)

/-- Workers are stopped only after a failure was kept. -/
theorem stopped_of (honest : Honest acts pool) (moved : pool.Replaces next i old new)
    {raised : Prop} (unstopped : pool.Unstopped next raised) (told : raised → old.hasRaised)
    (raises : new.hasRaised → old.hasRaised) (stopped : next.isStopped) :
    pool.failure ≠ none := by
  have was_told : old.hasRaised → pool.failure ≠ none := fun told =>
    honest.stopped (.inr (.inr ⟨i, old, moved.was, told⟩))
  rcases stopped with aborted | ⟨index, gate, found, aborted⟩ | ⟨j, stage, was, told'⟩
  · rcases unstopped.aborted aborted with before | now
    · exact honest.stopped (.inl before)
    · exact was_told (told now)
  · rcases unstopped.gates found aborted with ⟨before, found', aborted'⟩ | now
    · exact honest.stopped (.inr (.inl ⟨index, before, found', aborted'⟩))
    · exact was_told (told now)
  · rcases moved.cases_stage was with ⟨-, rfl⟩ | ⟨-, was⟩
    · exact was_told (raises told')
    · exact honest.stopped (.inr (.inr ⟨j, stage, was, told'⟩))

/-- A step without a call. -/
theorem quiet (honest : Honest acts pool) (moved : pool.Replaces next i old new)
    (silent : pool.Silent next old.hasRaised) (burden_eq : new.burden = old.burden)
    (raised : new.hasRaised → old.hasRaised) (uncalled : act.bind Act.call? = none)
    (uncontained : act.bind Act.contained? = none) : Honest (acts ++ act.toList) next := by
  have calls_eq : calls (acts ++ act.toList) = calls acts := by
    rw [calls_append, uncalled, Option.toList_none, List.append_nil]
  have texts_eq : containedTexts (acts ++ act.toList) = containedTexts acts := by
    rw [containedTexts_append, uncontained, Option.toList_none, List.append_nil]
  -- Every burden is where it was.
  have from_before : ∀ {j stage}, next.stage? j = some stage →
      ∃ stage', pool.stage? j = some stage' ∧ stage'.burden = stage.burden := by
    intro j stage was
    rcases moved.cases_stage was with ⟨rfl, rfl⟩ | ⟨-, was⟩
    · exact ⟨old, moved.was, burden_eq.symm⟩
    · exact ⟨stage, was, rfl⟩
  have to_after : ∀ {j stage}, pool.stage? j = some stage →
      ∃ stage', next.stage? j = some stage' ∧ stage'.burden = stage.burden := by
    intro j stage was
    by_cases same : j = i
    · subst same
      obtain rfl := Option.some.inj (was.symm.trans moved.was)
      exact ⟨new, moved.here, burden_eq⟩
    · exact ⟨stage, moved.stays same was, rfl⟩
  refine ⟨?_, ?_, ?_, ?_, ?_, ?_, ?_, ?_⟩ <;>
    simp only [calls_eq, texts_eq, silent.failure_eq, silent.panicked_eq]
  · exact honest.panicked_eq
  · exact honest.contained
  · intro j stage text was burden
    obtain ⟨stage', was', same⟩ := from_before was
    exact honest.carries_panic was' (same.trans burden)
  · intro j stage err was burden
    obtain ⟨stage', was', same⟩ := from_before was
    exact honest.carries_error was' (same.trans burden)
  · exact honest.kept
  · exact honest.stopped_of moved silent.toUnstopped id raised
  · intro text called
    rcases honest.panics called with contained | ⟨j, stage, text', was, burden⟩
    · exact .inl contained
    · obtain ⟨stage', was', same⟩ := to_after was
      exact .inr ⟨j, stage', text', was', same.trans burden⟩
  · intro outcome called failed
    rcases honest.failures called failed with kept | ⟨j, stage, was, burden⟩
    · exact .inl kept
    · obtain ⟨stage', was', same⟩ := to_after was
      exact .inr ⟨j, stage', was', same ▸ burden⟩

/-- A step with a call. -/
theorem called (honest : Honest acts pool) (moved : pool.Replaces next i old new)
    {outcome : Outcome Unit} (silent : pool.Silent next old.hasRaised)
    (called : act.bind Act.call? = some outcome) (uncontained : act.bind Act.contained? = none)
    (unpanicked : ∀ text, old.burden ≠ .panic text)
    (burden : new.burden = outcome ∧ (outcome = .ok () → old.burden = .ok ()) ∨
      new.burden = old.burden ∧ old.burden ≠ .ok () ∧ ∀ text, outcome ≠ .panic text)
    (unraised : ¬ new.hasRaised) : Honest (acts ++ act.toList) next := by
  have calls_eq : calls (acts ++ act.toList) = calls acts ++ [outcome] := by
    rw [calls_append, called, Option.toList_some]
  have texts_eq : containedTexts (acts ++ act.toList) = containedTexts acts := by
    rw [containedTexts_append, uncontained, Option.toList_none, List.append_nil]
  refine ⟨?_, ?_, ?_, ?_, ?_, ?_, ?_, ?_⟩ <;>
    simp only [calls_eq, texts_eq, silent.failure_eq, silent.panicked_eq, List.mem_append,
      List.mem_singleton]
  · exact honest.panicked_eq
  · exact fun inside => .inl (honest.contained inside)
  · intro j stage text was carried
    rcases moved.cases_stage was with ⟨rfl, rfl⟩ | ⟨-, was⟩
    · rcases burden with ⟨burden_eq, -⟩ | ⟨burden_eq, -⟩
      · exact .inr (carried.symm.trans burden_eq)
      · exact absurd (burden_eq.symm.trans carried) (unpanicked text)
    · exact .inl (honest.carries_panic was carried)
  · intro j stage err was carried
    rcases moved.cases_stage was with ⟨rfl, rfl⟩ | ⟨-, was⟩
    · rcases burden with ⟨burden_eq, -⟩ | ⟨burden_eq, -⟩
      · exact .inl (.inr (carried.symm.trans burden_eq))
      · exact (honest.carries_error moved.was (burden_eq.symm.trans carried)).imp .inl id
    · exact (honest.carries_error was carried).imp .inl id
  · exact fun kept => (honest.kept kept).imp .inl id
  · exact honest.stopped_of moved silent.toUnstopped id fun raised => absurd raised unraised
  · intro text panicked
    rcases panicked with before | now
    · rcases honest.panics before with contained | ⟨j, stage, text', was, carried⟩
      · exact .inl contained
      · have other : j ≠ i := by
          rintro rfl
          obtain rfl := Option.some.inj (was.symm.trans moved.was)
          exact unpanicked text' carried
        exact .inr ⟨j, stage, text', moved.stays other was, carried⟩
    · rcases burden with ⟨burden_eq, -⟩ | ⟨-, -, no_panic⟩
      · exact .inr ⟨i, new, text, moved.here, burden_eq.trans now.symm⟩
      · exact absurd now.symm (no_panic text)
  · intro outcome' called' failed
    -- The worker had no burden, or it still has one.
    have burdened : old.burden ≠ .ok () ∨ outcome ≠ .ok () → new.burden ≠ .ok () := by
      rcases burden with ⟨burden_eq, was_ok⟩ | ⟨burden_eq, was_bad, -⟩
      · rw [burden_eq]
        exact fun bad ended => bad.elim (fun h => h (was_ok ended)) fun h => h ended
      · exact fun _ ended => was_bad (burden_eq ▸ ended)
    rcases called' with before | rfl
    · rcases honest.failures before failed with kept | ⟨j, stage, was, carried⟩
      · exact .inl kept
      · by_cases same : j = i
        · subst same
          obtain rfl := Option.some.inj (was.symm.trans moved.was)
          exact .inr ⟨j, new, moved.here, burdened (.inl carried)⟩
        · exact .inr ⟨j, stage, moved.stays same was, carried⟩
    · exact .inr ⟨i, new, moved.here, burdened (.inr failed)⟩

/-- A step in which an event is turned away. -/
theorem refused (honest : Honest acts pool) {event index : Nat} {data : EventData κ}
    {gate : Gate} (moved : pool.Replaces next i (.arriving event data index)
      (.closing (.error .aborted)))
    (silent : pool.Silent next False) (found : pool.gate? index = some gate)
    (aborted : gate.aborted = true) : Honest acts next := by
  have failed : pool.failure ≠ none := honest.stopped (.inr (.inl ⟨index, gate, found, aborted⟩))
  have elsewhere : ∀ {j stage}, pool.stage? j = some stage → stage.burden ≠ .ok () →
      next.stage? j = some stage := by
    intro j stage was burden
    refine moved.stays ?_ was
    rintro rfl
    obtain rfl := Option.some.inj (was.symm.trans moved.was)
    exact burden rfl
  have failure_eq := silent.failure_eq
  refine ⟨silent.panicked_eq.trans honest.panicked_eq, honest.contained, ?_, ?_, ?_, ?_, ?_, ?_⟩
  · intro j stage text was carried
    rcases moved.cases_stage was with ⟨-, rfl⟩ | ⟨-, was⟩
    · cases carried
    · exact honest.carries_panic was carried
  · exact fun _ _ => .inr (.inr (failure_eq ▸ failed))
  · rw [failure_eq]
    exact honest.kept
  · exact fun _ => failure_eq ▸ failed
  · intro text panicked
    rcases honest.panics panicked with contained | ⟨j, stage, text', was, carried⟩
    · exact .inl contained
    · exact .inr ⟨j, stage, text', elsewhere was (by simp [carried]), carried⟩
  · exact fun _ _ => .inl (failure_eq ▸ failed)

/-- A step in which a panic is contained. -/
theorem contains (honest : Honest acts pool) {text : String} {what : Interrupted} {err : Error}
    (moved : pool.Replaces next i (.unwinding text what) new)
    (failure_eq : next.failure = pool.failure)
    (panicked_eq : next.panicked = pool.panicked.or (some text))
    (unstopped : pool.Unstopped next False) (burden_eq : new.burden = .error err)
    (unraised : ¬ new.hasRaised) :
    Honest (acts ++ (some (.contained text) : Option (Act κ)).toList) next := by
  have calls_eq : calls (acts ++ (some (.contained text) : Option (Act κ)).toList)
      = calls acts := by
    rw [calls_append]
    exact List.append_nil _
  have texts_eq : containedTexts (acts ++ (some (.contained text) : Option (Act κ)).toList)
      = containedTexts acts ++ [text] := containedTexts_append _ _
  have nonempty : containedTexts acts ++ [text] ≠ [] := by simp
  refine ⟨?_, ?_, ?_, ?_, ?_, ?_, ?_, ?_⟩ <;>
    simp only [calls_eq, texts_eq, failure_eq, panicked_eq, List.mem_append, List.mem_singleton]
  · rw [honest.panicked_eq, List.head?_append]
    rfl
  · rintro text' (inside | rfl)
    · exact honest.contained inside
    · exact honest.carries_panic moved.was rfl
  · intro j stage text' was carried
    rcases moved.cases_stage was with ⟨-, rfl⟩ | ⟨-, was⟩
    · rw [burden_eq] at carried
      cases carried
    · exact honest.carries_panic was carried
  · exact fun _ _ => .inr (.inl nonempty)
  · exact fun _ => .inr nonempty
  · exact honest.stopped_of moved unstopped False.elim fun raised => absurd raised unraised
  · exact fun _ => .inl nonempty
  · exact fun _ _ => .inr ⟨i, new, moved.here, by simp [burden_eq]⟩

/-- A step in which an error is kept. -/
theorem keeps (honest : Honest acts pool) {err : Error}
    (moved : pool.Replaces next i (.failing err) .raising)
    (failure_eq : next.failure = pool.failure.or (some err))
    (panicked_eq : next.panicked = pool.panicked) : Honest acts next := by
  have failed : next.failure ≠ none := by
    rw [failure_eq]
    cases pool.failure <;> simp
  refine ⟨panicked_eq.trans honest.panicked_eq, honest.contained, ?_, ?_, ?_, fun _ => failed,
    ?_, fun _ _ => .inl failed⟩
  · intro j stage text was carried
    rcases moved.cases_stage was with ⟨-, rfl⟩ | ⟨-, was⟩
    · cases carried
    · exact honest.carries_panic was carried
  · exact fun _ _ => .inr (.inr failed)
  · intro err' kept
    cases before : pool.failure with
    | some first =>
      rw [failure_eq, before] at kept
      exact honest.kept (before.trans kept)
    | none =>
      rw [failure_eq, before] at kept
      obtain rfl := Option.some.inj kept
      rcases honest.carries_error moved.was rfl with called | contained | kept'
      · exact .inl called
      · exact .inr contained
      · exact absurd before kept'
  · intro text panicked
    rcases honest.panics panicked with contained | ⟨j, stage, text', was, carried⟩
    · exact .inl contained
    · have other : j ≠ i := by
        rintro rfl
        obtain rfl := Option.some.inj (was.symm.trans moved.was)
        cases carried
      exact .inr ⟨j, stage, text', moved.stays other was, carried⟩

/-- Every step keeps the accounts. -/
theorem step (honest : Honest acts pool) (moved : pool.Replaces next i old new)
    (toll : RunPlan.Toll pool next old new act) : Honest (acts ++ act.toList) next := by
  cases toll with
  | quiet silent burden_eq raised opens uncalled uncontained =>
    exact honest.quiet moved silent burden_eq raised uncalled uncontained
  | called silent called uncontained unpanicked burden unraised opens =>
    exact honest.called moved silent called uncontained unpanicked burden unraised
  | refused silent found aborted =>
    rw [Option.toList_none, List.append_nil]
    exact honest.refused moved silent found aborted
  | contained failure_eq panicked_eq unstopped burden_eq unraised shut =>
    exact honest.contains moved failure_eq panicked_eq unstopped burden_eq unraised
  | kept failure_eq panicked_eq unstopped =>
    rw [Option.toList_none, List.append_nil]
    exact honest.keeps moved failure_eq panicked_eq

end Honest

end DetectorSim
