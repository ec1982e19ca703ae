import DetectorSim.Proofs.Gate.Hall

/-!
# A gate by itself

Parties with different numbers come to a gate, pass it and go on, in any interleaving, and
at some time the gate may be aborted.  The turns are granted from the first number on and
without a gap, one at a time.  Whoever can be reached without a gap gets through unless the
gate is aborted; all others wait until it is, and are then turned away.
-/

set_option autoImplicit false

namespace DetectorSim

namespace Hall

/-- Every number from the first one up to this one has a party. -/
def Connected (first : Nat) (events : List Nat) (number : Nat) : Prop :=
  first ≤ number ∧ ∀ between, first ≤ between → between ≤ number → between ∈ events

namespace Watchful

variable {first : Nat} {events : List Nat} {moves : List Move} {hall : Hall}

/-! ## Without an abort -/

/-- Who was let in could be reached from the first number without a gap. -/
theorem connected_of_granted (watchful : Watchful first events moves hall) {event : Nat}
    (granted : event ∈ hall.gathering.granted) : Connected first events event := by
  have arranged := watchful.arranged
  have numbers := arranged.granted_range'
  rw [numbers, List.mem_range'_1] at granted
  refine ⟨granted.1, fun between above below => ?_⟩
  have among : between ∈ hall.gathering.granted := by
    rw [numbers, List.mem_range'_1]
    omega
  exact arranged.mem_events_of_granted among

theorem mem_waiting (watchful : Watchful first events moves hall)
    (opened : hall.gathering.gate.aborted = false) {event : Nat} (among : event ∈ events)
    (outside : event ∉ hall.gathering.granted) : event ∈ hall.gathering.waiting := by
  have somewhere := watchful.arranged.parties.mem_iff.mpr among
  rw [watchful.arranged.patient opened, List.append_nil, List.mem_append] at somewhere
  exact somewhere.resolve_right outside

/-- The number of the gate is the first one that has not got through. -/
theorem connected_next_iff (watchful : Watchful first events moves hall) :
    Connected first events hall.gathering.gate.next ↔ hall.gathering.gate.next ∈ events := by
  have arranged := watchful.arranged
  have turn := arranged.turn
  constructor
  · exact fun connected => connected.2 _ connected.1 (Nat.le_refl _)
  · refine fun among => ⟨by omega, fun between above below => ?_⟩
    rcases Nat.lt_or_eq_of_le below with behind | rfl
    · have through := arranged.mem_handed_iff.mpr ⟨above, behind⟩
      refine arranged.mem_events_of_granted ?_
      rw [arranged.granted_eq]
      exact List.mem_append_left _ through
    · exact among

/-- A party that can not be reached is blocked. -/
theorem blocked (watchful : Watchful first events moves hall)
    (opened : hall.gathering.gate.aborted = false) {event : Nat} (among : event ∈ events)
    (apart : ¬ Connected first events event) :
    event ∈ hall.gathering.waiting ∧ hall.gathering.gate.wait? event = none := by
  constructor
  · exact watchful.mem_waiting opened among fun granted =>
      apart (watchful.connected_of_granted granted)
  · refine Gate.wait?_eq_none_iff.mpr ⟨opened, ?_⟩
    rintro rfl
    exact apart (watchful.connected_next_iff.mpr among)

/-- When nobody can get on, exactly those have got through who could be reached. -/
theorem mem_handedOn_iff (watchful : Watchful first events moves hall) (idle : hall.Idle)
    (opened : hall.gathering.gate.aborted = false) (event : Nat) :
    event ∈ handedOn moves ↔ Connected first events event := by
  have arranged := watchful.arranged
  have granted_eq : hall.gathering.granted = handedOn moves := by
    rw [arranged.granted_eq, idle.holding_eq_nil, List.append_nil]
  -- nobody waits with the number of the gate, since a party that sleeps has nothing to be told
  have absent : hall.gathering.gate.next ∉ events := by
    intro among
    have outside : hall.gathering.gate.next ∉ hall.gathering.granted := by
      rw [granted_eq, arranged.mem_handed_iff]
      omega
    have sleeps := idle.mem_asleep (watchful.mem_waiting opened among outside)
    have untold := watchful.untold _ sleeps
    rw [Gate.wait?_next opened] at untold
    cases untold
  constructor
  · exact fun through => watchful.connected_of_granted (granted_eq ▸ through)
  · refine fun connected => arranged.mem_handed_iff.mpr ⟨connected.1, ?_⟩
    by_contra beyond
    have reached := arranged.turn
    exact absent (connected.2 _ (by omega) (Nat.le_of_not_lt beyond))

/-! ## After an abort -/

theorem asleep_eq_nil (watchful : Watchful first events moves hall)
    (closed : hall.gathering.gate.aborted = true) : hall.asleep = [] := by
  refine List.eq_nil_iff_forall_not_mem.mpr fun event sleeps => ?_
  have untold := watchful.untold event sleeps
  rw [Gate.wait?_of_aborted closed] at untold
  cases untold

/-- Everybody who was not let in before was turned away, or will be when it looks. -/
theorem released (watchful : Watchful first events moves hall)
    (closed : hall.gathering.gate.aborted = true) {event : Nat} (among : event ∈ events)
    (outside : event ∉ hall.gathering.granted) :
    event ∈ hall.gathering.refused ∨
      hall.gathering.gate.wait? event = some (.error .aborted) ∧
        ∃ after, hall.step? (.look event) = some after ∧ event ∈ after.gathering.refused := by
  have somewhere := watchful.arranged.parties.mem_iff.mpr among
  rw [List.append_assoc, List.mem_append, List.mem_append] at somewhere
  rcases somewhere with waits | granted | refused
  · refine .inr ⟨Gate.wait?_of_aborted closed, ?_⟩
    have awake : event ∉ hall.asleep := by
      rw [watchful.asleep_eq_nil closed]
      exact List.not_mem_nil
    refine ⟨_, step?_eq_some_iff.mpr (.told awake (.refused waits closed)), ?_⟩
    exact List.mem_append_right _ (List.mem_singleton_self event)
  · exact absurd granted outside
  · exact .inl refused

theorem waiting_eq_nil (watchful : Watchful first events moves hall) (idle : hall.Idle)
    (closed : hall.gathering.gate.aborted = true) : hall.gathering.waiting = [] := by
  refine List.eq_nil_iff_forall_not_mem.mpr fun event waits => ?_
  have sleeps := idle.mem_asleep waits
  rw [watchful.asleep_eq_nil closed] at sleeps
  cases sleeps

end Watchful

/-! ## Every interleaving -/

/-- What is the case at a gate for the parties with certain numbers, after some moves. -/
structure Regulated (first : Nat) (events : List Nat) (moves : List Move) (hall : Hall) :
    Prop where
  /-- The turns are granted from the first number on, in order and without a gap. -/
  granted_eq : hall.gathering.granted = List.range' first hall.gathering.granted.length
  /-- Who was granted a turn has handed it on, or holds it. -/
  granted_split : hall.gathering.granted = handedOn moves ++ hall.gathering.holding
  alone : hall.gathering.holding.length ≤ 1
  next_eq : hall.gathering.gate.next = first + (handedOn moves).length
  /-- A turn that is held can be handed on, also when the gate is aborted. -/
  handing : ∀ event ∈ hall.gathering.holding, ∃ after,
    hall.step? (.leave event) = some after ∧ after.gathering.gate.next = event + 1 ∧
      after.gathering.holding = []
  later : ∀ more later, hall.Runs more later →
    hall.gathering.gate.next ≤ later.gathering.gate.next ∧
      hall.gathering.granted <+: later.gathering.granted ∧
      (.abort ∈ moves → later.gathering.granted = hall.gathering.granted)
  /-- Unless the gate is aborted, every number that can be reached can get through. -/
  passing : .abort ∉ moves → ∀ event, Connected first events event →
    ∃ more later, (∀ move ∈ more, Move.Works move) ∧ hall.Runs more later ∧
      event ∈ handedOn (moves ++ more)
  /-- All others stay blocked. -/
  blocking : .abort ∉ moves → ∀ event ∈ events, ¬ Connected first events event →
    event ∈ hall.gathering.waiting ∧ hall.gathering.gate.wait? event = none
  /-- After an abort nobody sleeps, and who was not let in is turned away. -/
  turning : .abort ∈ moves → hall.asleep = [] ∧
    ∀ event ∈ events, event ∉ hall.gathering.granted → event ∈ hall.gathering.refused ∨
      hall.gathering.gate.wait? event = some (.error .aborted) ∧
        ∃ after, hall.step? (.look event) = some after ∧ event ∈ after.gathering.refused
  /-- The parties do not go on for ever. -/
  bounded : ∃ bound, ∀ more later, hall.Runs more later → (∀ move ∈ more, Move.Works move) →
    more.length ≤ bound
  /-- When no party can get on, everybody has got through who could, and after an abort
  everybody else was turned away. -/
  settled : hall.Idle → hall.gathering.holding = [] ∧
    (.abort ∉ moves → hall.gathering.refused = [] ∧
      ∀ event, event ∈ handedOn moves ↔ Connected first events event) ∧
    (.abort ∈ moves → hall.gathering.waiting = [] ∧
      (hall.gathering.granted ++ hall.gathering.refused).Perm events)

variable {first : Nat} {events : List Nat} {moves : List Move} {hall : Hall}

/-- **Parties at a gate.**  For parties with different numbers that can be counted up, in
every interleaving of looking, sleeping, waking, handing on and aborting: the turns are
granted one after the other from the first number on, the number of the gate counts those
handed on, nobody is let in after an abort, and nobody is kept waiting who can be let in or
turned away. -/
theorem regulated_of_runs (distinct : events.Nodup) (fits : ∀ event ∈ events, event < 2 ^ 64 - 1)
    (runs : (Hall.start first events).Runs moves hall) : Regulated first events moves hall := by
  have watchful : Watchful first events moves hall :=
    (Watchful.start first events).runs distinct fits runs
  have arranged := watchful.arranged
  have opened (unaborted : .abort ∉ moves) : hall.gathering.gate.aborted = false :=
    Bool.eq_false_iff.mpr fun closed => unaborted (watchful.aborted_iff.mp closed)
  refine ⟨arranged.granted_range', arranged.granted_eq, arranged.length_holding_le,
    arranged.turn, ?_, ?_, ?_, ?_, ?_, ?_, ?_⟩
  · intro event holds
    have known := fits event
      (arranged.mem_events_of_granted (arranged.mem_granted_of_holds holds))
    refine ⟨_, step?_eq_some_iff.mpr (.left (.left holds) known), ?_, ?_⟩
    · rw [Gate.advance_of_lt known, Gate.handOn_next]
    · change hall.gathering.holding.erase event = []
      rw [(arranged.eq_next holds).2, List.erase_cons_head]
  · intro more later after
    have reached := watchful.runs distinct fits after
    obtain ⟨kept, nobody⟩ := after.granted
    refine ⟨?_, kept, fun aborted => (nobody (watchful.aborted_iff.mpr aborted)).1⟩
    rw [arranged.turn, reached.arranged.turn, handedOn_append, List.length_append]
    omega
  · intro unaborted event connected
    obtain ⟨more, later, works, after, idle⟩ := watchful.exists_idle distinct fits
    have reached := watchful.runs distinct fits after
    have still : later.gathering.gate.aborted = false := by
      refine Bool.eq_false_iff.mpr fun closed => ?_
      rcases List.mem_append.mp (reached.aborted_iff.mp closed) with before | among
      · exact unaborted before
      · exact works .abort among
    exact ⟨more, later, works, after, (reached.mem_handedOn_iff idle still event).mpr connected⟩
  · exact fun unaborted event among apart => watchful.blocked (opened unaborted) among apart
  · intro aborted
    have closed := watchful.aborted_iff.mpr aborted
    exact ⟨watchful.asleep_eq_nil closed, fun event among outside =>
      watchful.released closed among outside⟩
  · refine ⟨hall.load events.length, fun more later after works => ?_⟩
    have bound := watchful.length_add_load_le distinct fits after works
    omega
  · intro idle
    refine ⟨idle.holding_eq_nil, fun unaborted => ?_, fun aborted => ?_⟩
    · exact ⟨arranged.patient (opened unaborted),
        watchful.mem_handedOn_iff idle (opened unaborted)⟩
    · have nobody := watchful.waiting_eq_nil idle (watchful.aborted_iff.mpr aborted)
      refine ⟨nobody, ?_⟩
      simpa [nobody] using arranged.parties

/-- The fifth, the third, the first and the fourth event come to a gate that waits for the
third one.  It is aborted while the fourth is inside. -/
def interrupted : List Move :=
  [.look 5, .look 3, .look 4, .look 1, .leave 3, .look 5, .look 4, .abort, .look 5, .leave 4]

/-- The fourth event hands on its turn; the fifth, which has slept twice, is turned away, and
the first will be. -/
theorem regulated_interrupted :
    ∃ hall, (Hall.start 3 [5, 3, 1, 4]).Runs interrupted hall ∧
      Regulated 3 [5, 3, 1, 4] interrupted hall ∧ hall.gathering.granted = [3, 4] ∧
      hall.gathering.gate.next = 5 ∧ hall.gathering.refused = [5] ∧
      hall.gathering.waiting = [1] ∧ hall.asleep = [] := by
  have runs : ∃ hall, (Hall.start 3 [5, 3, 1, 4]).Runs interrupted hall ∧
      hall = ⟨⟨⟨5, true⟩, [1], [], [3, 4], [5]⟩, []⟩ :=
    ⟨_, ((((((((((Runs.stay.step rfl).step rfl).step rfl).step rfl).step rfl).step rfl).step
      rfl).step rfl).step rfl).step rfl), rfl⟩
  obtain ⟨hall, runs, rfl⟩ := runs
  exact ⟨_, runs, regulated_of_runs (by decide) (by decide) runs, rfl, rfl, rfl, rfl, rfl⟩

end Hall

end DetectorSim
