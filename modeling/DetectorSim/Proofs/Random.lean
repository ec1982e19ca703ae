import DetectorSim.Proofs.Module.Conduct
import DetectorSim.Proofs.Pool.Itinerary

/-!
# The seeds of events

The stride between the seeds of two events in a row is odd, so it can be undone in the
arithmetic of 64 bits.  Hence every seed belongs to one event of a run, and to one seed of
a run for each event.  What an event draws on its way through the instances comes from its
own seed alone.
-/

set_option autoImplicit false

namespace DetectorSim

/-! ## Seeds -/

/-- The word that undoes the stride. -/
def seedUnstride : UInt64 :=
  0xF1DE83E19937733D

theorem seedStride_mul_seedUnstride : seedStride * seedUnstride = 1 := by
  decide

/-- The event that has a seed. -/
def eventOfSeed (runSeed seed : UInt64) : UInt64 :=
  (seed - runSeed) * seedUnstride

/-- The seed of the run in which an event has a seed. -/
def runSeedOf (event seed : UInt64) : UInt64 :=
  seed - event * seedStride

theorem eventOfSeed_eventSeed (runSeed event : UInt64) :
    eventOfSeed runSeed (eventSeed runSeed event) = event :=
  calc eventOfSeed runSeed (eventSeed runSeed event)
      = (event * seedStride + runSeed - runSeed) * seedUnstride := by
        rw [eventOfSeed, eventSeed, UInt64.add_comm]
    _ = event * (seedStride * seedUnstride) := by rw [UInt64.add_sub_cancel, UInt64.mul_assoc]
    _ = event := by rw [seedStride_mul_seedUnstride, UInt64.mul_one]

theorem eventSeed_eventOfSeed (runSeed seed : UInt64) :
    eventSeed runSeed (eventOfSeed runSeed seed) = seed :=
  calc eventSeed runSeed (eventOfSeed runSeed seed)
      = runSeed + (seed - runSeed) * (seedStride * seedUnstride) := by
        rw [eventSeed, eventOfSeed, UInt64.mul_assoc, UInt64.mul_comm seedUnstride]
    _ = seed - runSeed + runSeed := by
        rw [seedStride_mul_seedUnstride, UInt64.mul_one, UInt64.add_comm]
    _ = seed := UInt64.sub_add_cancel seed runSeed

/-- In a run every seed is that of one event. -/
theorem bijective_eventSeed (runSeed : UInt64) : Function.Bijective (eventSeed runSeed) :=
  Function.bijective_iff_has_inverse.mpr
    ⟨eventOfSeed runSeed, eventOfSeed_eventSeed runSeed, eventSeed_eventOfSeed runSeed⟩

/-- For an event every seed is that of one run. -/
theorem bijective_eventSeed_left (event : UInt64) :
    Function.Bijective fun runSeed => eventSeed runSeed event :=
  Function.bijective_iff_has_inverse.mpr
    ⟨runSeedOf event, fun runSeed => UInt64.add_sub_cancel runSeed (event * seedStride),
      fun seed => UInt64.sub_add_cancel seed (event * seedStride)⟩

/-! ## What an event draws from -/

variable {κ ω : Type} [Payload κ]

/-- The seed of an event in a run. -/
def RunPlan.seedOf (plan : RunPlan κ ω) (event : Nat) : UInt64 :=
  eventSeed plan.seed (UInt64.ofNat event)

section Drawing

variable [DecidableEq κ] {messenger : Messenger κ ω} {receiver : Receiver}

/-- No operation changes the words that there are to be drawn. -/
theorem EventOp.keeps_words_perform (messenger : Messenger κ ω) (receiver : Receiver)
    (op : EventOp κ ω) :
    Proc.Keeps (fun state => state.data.random.words) (op.perform messenger receiver) := by
  cases op with
  | dispatch message =>
    intro state
    simp only [perform, caught, EventState.onStore, Proc.zoom]
    generalize messenger.dispatch receiver message (state.data.store, state.env) = result
    obtain ⟨outcome, store, env⟩ := result
    cases outcome <;> rfl
  | _ => exact fun _ => rfl

/-- A word that code has drawn is one of those that there were to be drawn. -/
theorem EventCode.exists_of_drew {α : Type} {code : EventCode κ ω α} {state : EventState κ ω}
    {word : UInt64} (drew : .drew word ∈ code.sights messenger receiver state) :
    ∃ index, word = state.data.random.words index := by
  induction code generalizing state with
  | ask op next ih =>
    rw [sights] at drew
    have kept := EventOp.keeps_words_perform messenger receiver op state
    split at drew
    · next reply mid performed =>
      rcases List.mem_append.mp drew with here | later
      · cases op with
        | draw =>
          obtain rfl := Sight.drew.inj (List.mem_singleton.mp here)
          cases performed
          exact ⟨_, rfl⟩
        | hook => cases here
        | _ => cases List.mem_singleton.mp here
      · rw [performed] at kept
        obtain ⟨index, rfl⟩ := ih reply later
        exact ⟨index, congrFun kept index⟩
    · cases drew
  | _ => cases drew

/-- A word that an instance has drawn from an event is one of the words of the event. -/
theorem Instance.exists_of_drew {inst : Instance κ ω} {state : EventState κ ω} {word : UInt64}
    (drew : .drew word ∈ inst.sights messenger state) :
    ∃ index, word = state.data.random.words index := by
  unfold sights at drew
  split at drew
  · -- Entering the log of the instance leaves the words as they are.
    have found := EventCode.exists_of_drew drew
    exact found
  · cases drew

end Drawing

namespace RunPlan

variable {plan : RunPlan κ ω} {events : Nat}

/-- Different event numbers of 64 bits have different seeds. -/
theorem injOn_seedOf (plan : RunPlan κ ω) : Set.InjOn plan.seedOf {event | event < 2 ^ 64} := by
  intro event small other small' same
  have words := (bijective_eventSeed plan.seed).injective same
  have numbers := congrArg UInt64.toNat words
  rwa [UInt64.toNat_ofNat_of_lt' small, UInt64.toNat_ofNat_of_lt' small'] at numbers

variable [DecidableEq κ]

/-- An event has the words of its own seed, at whatever instance it is. -/
theorem Arrives.words_eq {event index : Nat} {data : EventData κ}
    (arrives : plan.Arrives event index data) :
    data.random.words = plan.source (plan.seedOf event) :=
  arrives.view_eq (fun data => data.random.words) (EventOp.keeps_words_perform plan.messenger)

theorem Hosts.exists_of_drew {visit : Visit κ} (hosts : plan.Hosts visit) {word : UInt64}
    (drew : .drew word ∈ visit.sights) :
    ∃ index, word = plan.source (plan.seedOf visit.event) index := by
  obtain ⟨inst, state, -, visit_eq⟩ := hosts.makes
  rw [visit_eq] at drew
  obtain ⟨index, word_eq⟩ := Instance.exists_of_drew drew
  refine ⟨index, ?_⟩
  rw [word_eq, ← hosts.arrives.words_eq, visit_eq]
  rfl

/-! ## The numbers of events -/

/-- No worker takes an event beyond the last one. -/
theorem History.event_le {first pool : Pool κ ω} {acts : List (Act κ)}
    (history : plan.History events first acts pool) :
    ∀ event ∈ takenEvents acts, event ≤ events := by
  induction history with
  | start => nofun
  | @step acts pool next worker choice before found step ih =>
    intro event taken
    rw [takenEvents_append, List.mem_append, Option.mem_toList] at taken
    obtain ⟨new, moved, course⟩ := course_of_step? plan events pool worker found step
    rcases taken with earlier | now
    · exact ih event earlier
    · rcases course.counter_cases with ⟨-, -, still⟩ | ⟨stage, beyond⟩ | ⟨-, within, -, here⟩
      · cases still.symm.trans now
      · simp [act?, stage, beyond] at now
      · obtain rfl := Option.some.inj (here.symm.trans now)
        exact within

theorem event_of_mem_visitsOf {event index : Nat} {instances : List (Instance κ ω)}
    {state : List Tally × EventState κ ω} :
    ∀ visit ∈ plan.visitsOf event index instances state, visit.event = event := by
  induction instances generalizing index state with
  | nil => nofun
  | cons inst rest ih =>
    intro visit made
    rw [visitsOf, List.mem_cons] at made
    rcases made with rfl | later
    · rfl
    · split at later
      · exact ih visit later
      · cases later

/-- Nor is an event beyond the last one processed on one thread. -/
theorem event_lt_of_mem_visitsFrom {first count : Nat} {state : List Tally × Env ω} :
    ∀ visit ∈ plan.visitsFrom first count state, visit.event < first + count := by
  induction count generalizing first state with
  | zero => nofun
  | succ count ih =>
    intro visit made
    rw [visitsFrom, List.mem_append] at made
    rcases made with here | later
    · rw [event_of_mem_visitsOf visit here]
      omega
    · split at later
      · have := ih visit later
        omega
      · cases later

end RunPlan

/-! ## In all runs -/

/-- Every event that is seen draws from its own seed. -/
structure RunPlan.Sown (plan : RunPlan κ ω) (made : List (Visit κ)) : Prop where
  drawn : ∀ visit ∈ made, ∀ word, .drew word ∈ visit.sights →
    ∃ index, word = plan.source (plan.seedOf visit.event) index
  apart : ∀ visit ∈ made, ∀ other ∈ made, visit.event ≠ other.event →
    plan.seedOf visit.event ≠ plan.seedOf other.event

namespace Manager

variable [DecidableEq κ] {scheduler : Scheduler κ ω} {plan : RunPlan κ ω} {events workers : Nat}
  {env : Env ω} {roster : List (Nat × Act κ)}

/-- No visit is of an event beyond the last one. -/
theorem Shows.event_le (shows : Shows scheduler plan events workers env roster) :
    ∀ visit ∈ visits (actsOf roster), visit.event ≤ events := by
  intro visit made
  cases shows with
  | serial alone =>
    rw [RunPlan.actsOf_serialRoster, RunPlan.visits_serialActs] at made
    have := RunPlan.event_lt_of_mem_visitsFrom visit made
    omega
  | pooled several signed =>
    obtain ⟨worker, offered⟩ := mem_actsOf.mp (mem_visits.mp made)
    have taken := mem_actsOf.mpr ⟨worker, signed.tended.offered offered⟩
    exact signed.history.event_le _ (mem_takenEvents.mpr taken)

theorem Shows.sown (shows : Shows scheduler plan events workers env roster)
    (fits : events < 2 ^ 64) : plan.Sown (visits (actsOf roster)) where
  drawn visit made _ drew := (shows.hosts visit made).exists_of_drew drew
  apart visit made other made' := by
    have small := Nat.lt_of_le_of_lt (shows.event_le visit made) fits
    have small' := Nat.lt_of_le_of_lt (shows.event_le other made') fits
    exact mt (plan.injOn_seedOf small small')

/-- **A seed for every event.**  In a run the seed of an event tells which event it is, and
for an event the seed tells which run it is; every seed is taken.  So in whatever is seen of
a run the events draw from seeds of their own. -/
theorem bijective_eventSeed_and_sown :
    (∀ runSeed, Function.Bijective (eventSeed runSeed)) ∧
      (∀ event, Function.Bijective fun runSeed => eventSeed runSeed event) ∧
      ∀ (scheduler : Scheduler κ ω) (plan : RunPlan κ ω) (events workers : Nat) (env : Env ω)
        (roster : List (Nat × Act κ)), events < 2 ^ 64 →
        Shows scheduler plan events workers env roster → plan.Sown (visits (actsOf roster)) :=
  ⟨bijective_eventSeed, bijective_eventSeed_left, fun _ _ _ _ _ _ fits shows => shows.sown fits⟩

/-- A module that draws a word in every event. -/
def drawing : Module Builtin.PayloadKind Unit :=
  { (Module.idle : Module Builtin.PayloadKind Unit) with run := do let _ ← EventCode.draw }

/-- Two events on one thread draw one word each, from two seeds. -/
theorem sown_serial_drawing :
    let plan := RunPlan.ofModules [drawing]
    let roster := plan.serialRoster 2 (plan.noTallies, ⟨(), .empty⟩)
    (visits (actsOf roster)).map (fun visit => (visit.event, visit.sights.length))
        = [(1, 1), (2, 1)] ∧
      plan.Sown (visits (actsOf roster)) := by
  refine ⟨by decide +kernel, ?_⟩
  exact bijective_eventSeed_and_sown.2.2 RunPlan.runToEnd (.ofModules [drawing]) 2 1 _ _
    (by decide) (.serial (by decide))

end Manager

end DetectorSim
