import DetectorSim.Proofs.Gate.Gathering

/-!
# Nobody sleeps through its turn

In a hall the parties that have to wait sleep.  They are woken whenever the number of the
gate changes and when the gate is aborted, and they may wake up by themselves.  So nobody
sleeps whom the gate has something to tell.  As long as the gate is not aborted, every
number that can be reached from the first one without a gap gets through and all others
stay blocked; once it is aborted, nobody does.
-/

set_option autoImplicit false

namespace DetectorSim

namespace Hall

variable {hall after mid later : Hall} {move : Move} {moves more : List Move}

/-! ## Moves -/

/-- The moves of a hall are those of its gathering, and falling asleep and waking up. -/
inductive Change (hall : Hall) : Move → Hall → Prop
  | slept {event : Nat} (waits : event ∈ hall.gathering.waiting) (awake : event ∉ hall.asleep)
      (untold : hall.gathering.gate.wait? event = none) :
      Change hall (.look event) { hall with asleep := event :: hall.asleep }
  | told {event : Nat} {gathering : Gathering} (awake : event ∉ hall.asleep)
      (entered : hall.gathering.Change (.enter event) gathering) :
      Change hall (.look event) { hall with gathering }
  | stirred {event : Nat} (sleeps : event ∈ hall.asleep) :
      Change hall (.stir event) { hall with asleep := hall.asleep.erase event }
  | left {event : Nat} {gathering : Gathering}
      (left : hall.gathering.Change (.leave event) gathering) (fits : event < 2 ^ 64 - 1) :
      Change hall (.leave event) ⟨gathering, []⟩
  | panicked {event : Nat} {gathering : Gathering}
      (left : hall.gathering.Change (.leave event) gathering) (large : ¬ event < 2 ^ 64 - 1) :
      Change hall (.leave event) { hall with gathering }
  | aborted :
      Change hall .abort ⟨{ hall.gathering with gate := hall.gathering.gate.abort }, []⟩

theorem step?_eq_some_iff : hall.step? move = some after ↔ hall.Change move after := by
  constructor
  · intro step
    cases move with
    | look event =>
      simp only [step?] at step
      split at step
      · next here =>
        obtain ⟨waits, awake⟩ := here
        split at step
        · next gathering entered =>
          obtain rfl := Option.some.inj step
          exact .told awake (Gathering.step?_eq_some_iff.mp entered)
        · next blocked =>
          obtain rfl := Option.some.inj step
          exact .slept waits awake ((Gathering.step?_enter_eq_none_iff waits).mp blocked)
      · cases step
    | stir event =>
      simp only [step?] at step
      split at step
      · next sleeps =>
        obtain rfl := Option.some.inj step
        exact .stirred sleeps
      · cases step
    | leave event =>
      obtain ⟨gathering, left, done⟩ := Option.map_eq_some_iff.mp step
      have left := Gathering.step?_eq_some_iff.mp left
      by_cases fits : event < 2 ^ 64 - 1
      · rw [Gate.advance_of_lt fits] at done
        subst done
        exact .left left fits
      · rw [Gate.advance_of_not_lt fits] at done
        subst done
        exact .panicked left fits
    | abort =>
      obtain rfl := Option.some.inj step
      exact .aborted
  · intro change
    cases change with
    | slept waits awake untold =>
      have blocked := (Gathering.step?_enter_eq_none_iff waits).mpr untold
      simp only [step?, if_pos (And.intro waits awake), blocked]
    | @told event _ awake entered =>
      have waits : event ∈ hall.gathering.waiting := by cases entered <;> assumption
      have entered := Gathering.step?_eq_some_iff.mpr entered
      simp only [step?, if_pos (And.intro waits awake), entered]
    | stirred sleeps => simp only [step?, if_pos sleeps]
    | left left fits =>
      have left := Gathering.step?_eq_some_iff.mpr left
      simp only [step?, left, Option.map_some, Gate.advance_of_lt fits]
    | panicked left large =>
      have left := Gathering.step?_eq_some_iff.mpr left
      simp only [step?, left, Option.map_some, Gate.advance_of_not_lt large]
    | aborted => rfl

/-- What some moves lead to, one after the other. -/
inductive Runs (hall : Hall) : List Move → Hall → Prop
  | stay : Runs hall [] hall
  | step {moves : List Move} {mid after : Hall} {move : Move} (before : Runs hall moves mid)
      (step : mid.step? move = some after) : Runs hall (moves ++ [move]) after

theorem Runs.append (before : hall.Runs moves mid) (rest : mid.Runs more later) :
    hall.Runs (moves ++ more) later := by
  induction rest with
  | stay => rwa [List.append_nil]
  | step _ step ih =>
    rw [← List.append_assoc]
    exact ih.step step

theorem Runs.single (step : hall.step? move = some after) : hall.Runs [move] after :=
  Runs.stay.step step

/-- Where nobody sleeps, what a gathering can do its hall can do. -/
theorem exists_step {state gathering : Gathering} {move : Gathering.Move}
    (change : state.Change move gathering) :
    ∃ made, (⟨state, []⟩ : Hall).Change made ⟨gathering, []⟩ := by
  cases move with
  | enter event => exact ⟨_, .told List.not_mem_nil change⟩
  | leave event =>
    by_cases fits : event < 2 ^ 64 - 1
    · exact ⟨_, .left change fits⟩
    · exact ⟨_, .panicked change fits⟩
  | abort =>
    cases change
    exact ⟨_, .aborted⟩

/-- Playing some moves of a gathering is one way in which its hall may go. -/
theorem exists_runs_play (moves : List Gathering.Move) (state : Gathering) :
    ∃ made, (⟨state, []⟩ : Hall).Runs made ⟨state.play moves, []⟩ := by
  induction moves generalizing state with
  | nil => exact ⟨[], .stay⟩
  | cons move rest ih =>
    unfold Gathering.play
    rw [List.foldl_cons]
    cases step : state.step? move with
    | none => exact ih state
    | some gathering =>
      obtain ⟨made, change⟩ := exists_step (Gathering.step?_eq_some_iff.mp step)
      obtain ⟨more, runs⟩ := ih gathering
      exact ⟨_, (Runs.single (step?_eq_some_iff.mpr change)).append runs⟩

/-- All who can pass, and the others turned away in the end: one of the runs. -/
theorem exists_runs_settle (first : Nat) (events : List Nat) :
    ∃ made, (Hall.start first events).Runs made
      ⟨(Gathering.start first events).settle, []⟩ := by
  obtain ⟨made, passed⟩ := exists_runs_play _ (Gathering.start first events)
  obtain ⟨more, aborted⟩ := exists_runs_play _ _
  exact ⟨_, passed.append aborted⟩

/-- The parties that hand on their turns in some moves, in order. -/
def handedOn (moves : List Move) : List Nat :=
  moves.filterMap fun
    | .leave event => some event
    | _ => none

theorem handedOn_append (moves more : List Move) :
    handedOn (moves ++ more) = handedOn moves ++ handedOn more :=
  List.filterMap_append

/-! ## Who sleeps -/

/-- The parties of a hall are arranged, and those that sleep have nothing to be told. -/
structure Watchful (first : Nat) (events : List Nat) (moves : List Move) (hall : Hall) :
    Prop where
  arranged : hall.gathering.Arranged first events (handedOn moves)
  aborted_iff : hall.gathering.gate.aborted = true ↔ .abort ∈ moves
  waits : ∀ event ∈ hall.asleep, event ∈ hall.gathering.waiting
  once : hall.asleep.Nodup
  untold : ∀ event ∈ hall.asleep, hall.gathering.gate.wait? event = none

namespace Watchful

variable {first : Nat} {events : List Nat}

theorem start (first : Nat) (events : List Nat) :
    Watchful first events [] (.start first events) where
  arranged := .start first events
  aborted_iff := by simp [Hall.start, Gathering.start, Gate.opening]
  waits := nofun
  once := .nil
  untold := nofun

theorem change (watchful : Watchful first events moves hall) (distinct : events.Nodup)
    (fits : ∀ event ∈ events, event < 2 ^ 64 - 1) (change : hall.Change move after) :
    Watchful first events (moves ++ [move]) after := by
  have arranged := watchful.arranged
  have still (event : Nat) : handedOn (moves ++ [.look event]) = handedOn moves := by
    rw [handedOn_append]
    exact List.append_nil _
  cases change with
  | @slept event waits awake untold =>
    refine ⟨(still event).symm ▸ arranged, ?_, ?_, ?_, ?_⟩
    · simpa using watchful.aborted_iff
    · exact List.forall_mem_cons.mpr ⟨waits, watchful.waits⟩
    · exact List.nodup_cons.mpr ⟨awake, watchful.once⟩
    · exact List.forall_mem_cons.mpr ⟨untold, watchful.untold⟩
  | @told event gathering awake entered =>
    have arranged' := arranged.change distinct fits entered
    have gate_eq : gathering.gate = hall.gathering.gate := by cases entered <;> rfl
    have waiting_eq : gathering.waiting = hall.gathering.waiting.erase event := by
      cases entered <;> rfl
    refine ⟨?_, ?_, ?_, watchful.once, ?_⟩
    · rw [still event]
      simpa [Gathering.Move.handed] using arranged'
    · simpa [gate_eq] using watchful.aborted_iff
    · intro other sleeps
      change other ∈ gathering.waiting
      have apart : other ≠ event := fun same => awake (same ▸ sleeps)
      rw [waiting_eq]
      exact (List.mem_erase_of_ne apart).mpr (watchful.waits other sleeps)
    · intro other sleeps
      change gathering.gate.wait? other = none
      rw [gate_eq]
      exact watchful.untold other sleeps
  | @stirred event sleeps =>
    refine ⟨?_, ?_, ?_, watchful.once.erase event, ?_⟩
    · rw [handedOn_append]
      exact (List.append_nil (handedOn moves)).symm ▸ arranged
    · simpa using watchful.aborted_iff
    · exact fun other among => watchful.waits other (List.mem_of_mem_erase among)
    · exact fun other among => watchful.untold other (List.mem_of_mem_erase among)
  | @left event gathering left _ =>
    have arranged' := arranged.change distinct fits left
    have aborted_eq : gathering.gate.aborted = hall.gathering.gate.aborted := by
      cases left
      simp only [Gate.advance]
      split <;> rfl
    refine ⟨?_, ?_, List.forall_mem_nil _, .nil, List.forall_mem_nil _⟩
    · rw [handedOn_append]
      exact arranged'
    · simpa [aborted_eq] using watchful.aborted_iff
  | @panicked event gathering left large =>
    cases left with
    | left holds =>
      have among := arranged.mem_events_of_granted (arranged.mem_granted_of_holds holds)
      exact absurd (fits event among) large
  | aborted =>
    have arranged' := arranged.change distinct fits .aborted
    refine ⟨?_, ?_, List.forall_mem_nil _, .nil, List.forall_mem_nil _⟩
    · rw [handedOn_append]
      exact arranged'
    · simp

theorem runs (watchful : Watchful first events moves hall) (distinct : events.Nodup)
    (fits : ∀ event ∈ events, event < 2 ^ 64 - 1) (runs : hall.Runs more later) :
    Watchful first events (moves ++ more) later := by
  induction runs with
  | stay => rwa [List.append_nil]
  | step _ step ih =>
    rw [← List.append_assoc]
    exact ih.change distinct fits (step?_eq_some_iff.mp step)

end Watchful

/-! ## What comes later -/

theorem Change.granted (change : hall.Change move after) :
    hall.gathering.granted <+: after.gathering.granted ∧
      (hall.gathering.gate.aborted = true →
        after.gathering.granted = hall.gathering.granted ∧
          after.gathering.gate.aborted = true) := by
  cases change with
  | slept waits awake untold => exact ⟨List.prefix_refl _, fun closed => ⟨rfl, closed⟩⟩
  | told awake entered =>
    obtain ⟨kept, nobody⟩ := entered.granted
    refine ⟨kept, fun closed => ⟨nobody closed, ?_⟩⟩
    cases entered <;> exact closed
  | stirred sleeps => exact ⟨List.prefix_refl _, fun closed => ⟨rfl, closed⟩⟩
  | left left fits =>
    cases left
    refine ⟨List.prefix_refl _, fun closed => ⟨rfl, ?_⟩⟩
    rw [Gate.advance_of_lt fits]
    exact closed
  | panicked left large =>
    cases left
    refine ⟨List.prefix_refl _, fun closed => ⟨rfl, ?_⟩⟩
    rw [Gate.advance_of_not_lt large]
    exact closed
  | aborted => exact ⟨List.prefix_refl _, fun _ => ⟨rfl, rfl⟩⟩

/-- Who was let in stays so, and once the gate is aborted nobody else is. -/
theorem Runs.granted (runs : hall.Runs more later) :
    hall.gathering.granted <+: later.gathering.granted ∧
      (hall.gathering.gate.aborted = true →
        later.gathering.granted = hall.gathering.granted ∧
          later.gathering.gate.aborted = true) := by
  induction runs with
  | stay => exact ⟨List.prefix_refl _, fun closed => ⟨rfl, closed⟩⟩
  | step _ step ih =>
    obtain ⟨kept, nobody⟩ := (step?_eq_some_iff.mp step).granted
    refine ⟨ih.1.trans kept, fun closed => ?_⟩
    obtain ⟨same, still⟩ := ih.2 closed
    exact ⟨(nobody still).1.trans same, (nobody still).2⟩

/-! ## Who can move -/

/-- The moves by which parties get on with their work. -/
def Move.Works : Move → Prop
  | .look _ => True
  | .leave _ => True
  | _ => False

/-- No party can get on with its work. -/
def Idle (hall : Hall) : Prop :=
  ∀ event, hall.step? (.look event) = none ∧ hall.step? (.leave event) = none

theorem exists_look {event : Nat} (waits : event ∈ hall.gathering.waiting)
    (awake : event ∉ hall.asleep) : ∃ after, hall.Change (.look event) after := by
  cases entered : hall.gathering.step? (.enter event) with
  | some gathering => exact ⟨_, .told awake (Gathering.step?_eq_some_iff.mp entered)⟩
  | none => exact ⟨_, .slept waits awake ((Gathering.step?_enter_eq_none_iff waits).mp entered)⟩

theorem exists_leave {event : Nat} (holds : event ∈ hall.gathering.holding) :
    ∃ after, hall.Change (.leave event) after := by
  by_cases fits : event < 2 ^ 64 - 1
  · exact ⟨_, .left (.left holds) fits⟩
  · exact ⟨_, .panicked (.left holds) fits⟩

namespace Idle

theorem holding_eq_nil (idle : hall.Idle) : hall.gathering.holding = [] := by
  refine List.eq_nil_iff_forall_not_mem.mpr fun event holds => ?_
  obtain ⟨after, change⟩ := exists_leave holds
  have step := step?_eq_some_iff.mpr change
  rw [(idle event).2] at step
  cases step

theorem mem_asleep (idle : hall.Idle) {event : Nat} (waits : event ∈ hall.gathering.waiting) :
    event ∈ hall.asleep := by
  by_contra awake
  obtain ⟨after, change⟩ := exists_look waits awake
  have step := step?_eq_some_iff.mpr change
  rw [(idle event).1] at step
  cases step

end Idle

/-! ## How much there is to do -/

/-- A bound for the moves that the parties still make: those that wait have to get in and
out, and those that are awake may fall asleep, which everybody does at most once for each
time that a party goes out. -/
def load (parties : Nat) (hall : Hall) : Nat :=
  (parties + 1) * (2 * hall.gathering.waiting.length + hall.gathering.holding.length)
    + (hall.gathering.waiting.length - hall.asleep.length)

theorem load_lt_of_lt {parties fewer many small large : Nat} (less : fewer < many)
    (bounded : small ≤ parties) :
    (parties + 1) * fewer + small < (parties + 1) * many + large := by
  have scaled := Nat.mul_le_mul_left (parties + 1) (Nat.succ_le_of_lt less)
  rw [Nat.mul_succ] at scaled
  omega

namespace Watchful

variable {first : Nat} {events : List Nat}

theorem length_asleep_le (watchful : Watchful first events moves hall) :
    hall.asleep.length ≤ hall.gathering.waiting.length :=
  (List.subperm_of_subset watchful.once watchful.waits).length_le

theorem length_waiting_le (watchful : Watchful first events moves hall) :
    hall.gathering.waiting.length ≤ events.length := by
  have whole := watchful.arranged.parties.length_eq
  simp only [List.length_append] at whole
  omega

/-- Every move of a party by which it gets on with its work leaves less to do. -/
theorem load_lt (watchful : Watchful first events moves hall)
    (watchful' : Watchful first events (moves ++ [move]) after) (works : move.Works)
    (change : hall.Change move after) : after.load events.length < hall.load events.length := by
  have few := watchful.length_waiting_le
  cases change with
  | @slept event waits awake untold =>
    have room := watchful'.length_asleep_le
    simp only [List.length_cons] at room
    simp only [load, List.length_cons]
    omega
  | @told event gathering awake entered =>
    have less : gathering.waiting.length < hall.gathering.waiting.length ∧
        2 * gathering.waiting.length + gathering.holding.length
          < 2 * hall.gathering.waiting.length + hall.gathering.holding.length := by
      cases entered with
      | admitted waits _ _ =>
        have shrinks := List.length_erase_of_mem waits
        have some_wait := List.length_pos_of_mem waits
        simp only [List.length_append, List.length_singleton]
        omega
      | refused waits _ =>
        have shrinks := List.length_erase_of_mem waits
        have some_wait := List.length_pos_of_mem waits
        simp only
        omega
    exact load_lt_of_lt less.2 (by simp only; omega)
  | stirred sleeps => exact works.elim
  | @left event gathering left fits =>
    cases left with
    | left holds =>
      have shrinks := List.length_erase_of_mem holds
      have some_hold := List.length_pos_of_mem holds
      exact load_lt_of_lt (by simp only; omega) (by simp only; omega)
  | @panicked event gathering left large =>
    cases left with
    | left holds =>
      have shrinks := List.length_erase_of_mem holds
      have some_hold := List.length_pos_of_mem holds
      exact load_lt_of_lt (by simp only; omega) (by simp only; omega)
  | aborted => exact works.elim

/-- The parties make no more moves than the load allows. -/
theorem length_add_load_le (watchful : Watchful first events moves hall) (distinct : events.Nodup)
    (fits : ∀ event ∈ events, event < 2 ^ 64 - 1) (runs : hall.Runs more later)
    (works : ∀ move ∈ more, move.Works) :
    more.length + later.load events.length ≤ hall.load events.length := by
  induction runs with
  | stay => simp
  | @step more mid after move before step ih =>
    obtain ⟨earlier, last⟩ := List.forall_mem_append.mp works
    have reached := watchful.runs distinct fits before
    have change := step?_eq_some_iff.mp step
    have less := reached.load_lt (reached.change distinct fits change)
      (last move (List.mem_singleton_self _)) change
    have bound := ih earlier
    simp only [List.length_append, List.length_singleton]
    omega

/-- The parties can go on until none of them can get on. -/
theorem exists_idle (watchful : Watchful first events moves hall) (distinct : events.Nodup)
    (fits : ∀ event ∈ events, event < 2 ^ 64 - 1) :
    ∃ more later, (∀ move ∈ more, Move.Works move) ∧ hall.Runs more later ∧ later.Idle := by
  induction size : hall.load events.length using Nat.strongRecOn generalizing hall moves with
  | _ size ih =>
    by_cases idle : hall.Idle
    · exact ⟨[], hall, nofun, .stay, idle⟩
    · obtain ⟨move, after, works, step⟩ :
          ∃ move after, Move.Works move ∧ hall.step? move = some after := by
        by_contra stuck
        refine idle fun event => ⟨?_, ?_⟩ <;> by_contra possible <;>
          obtain ⟨after, step⟩ := Option.ne_none_iff_exists'.mp possible
        · exact stuck ⟨.look event, after, trivial, step⟩
        · exact stuck ⟨.leave event, after, trivial, step⟩
      have change := step?_eq_some_iff.mp step
      have watchful' := watchful.change distinct fits change
      obtain ⟨more, later, work, runs, idle⟩ :=
        ih _ (size ▸ watchful.load_lt watchful' works change) watchful' rfl
      refine ⟨move :: more, later, List.forall_mem_cons.mpr ⟨works, work⟩, ?_, idle⟩
      exact (Runs.single step).append runs

end Watchful

end Hall

end DetectorSim
