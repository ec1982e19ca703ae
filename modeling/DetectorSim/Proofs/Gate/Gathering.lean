import Mathlib.Algebra.Ring.Nat
import Mathlib.Data.List.Perm.Basic
import DetectorSim.Gate

/-!
# Who is let in at a gate, and when

The parties of a gathering have the numbers of events, no two of them the same one.  A
move is possible for whoever waits while it is its turn, for whoever holds a turn, and at
any time the gate may be aborted.  Handing on sets the number of the gate from the number
of the party alone; that it only counts up by one, and that nobody else is inside, is due
to the parties that have gone through before: they are those with the first numbers.
-/

set_option autoImplicit false

namespace DetectorSim

namespace Gate

variable {gate : Gate} {event : Nat}

theorem wait?_eq_none_iff :
    gate.wait? event = none ↔ gate.aborted = false ∧ gate.next ≠ event := by
  unfold wait?
  cases gate.aborted <;> by_cases turn : gate.next = event <;> simp [turn]

theorem wait?_of_aborted (closed : gate.aborted = true) :
    gate.wait? event = some (.error .aborted) :=
  if_pos closed

theorem wait?_next (opened : gate.aborted = false) : gate.wait? gate.next = some (.ok ()) := by
  simp [wait?, opened]

/-- A number that has a successor of 64 bits is handed on. -/
theorem advance_of_lt (fits : event < 2 ^ 64 - 1) :
    advance event gate = (.ok (), gate.handOn event) :=
  if_pos (by omega)

theorem advance_of_not_lt (large : ¬ event < 2 ^ 64 - 1) :
    advance event gate = (.panic overflowText, gate) :=
  if_neg (by omega)

end Gate

namespace Gathering

variable {state after : Gathering} {move : Move}

/-- What a move of each kind needs and does. -/
inductive Change (state : Gathering) : Move → Gathering → Prop
  | admitted {event : Nat} (waits : event ∈ state.waiting)
      (opened : state.gate.aborted = false) (turn : state.gate.next = event) :
      Change state (.enter event)
        { state with
          waiting := state.waiting.erase event
          holding := state.holding ++ [event]
          granted := state.granted ++ [event] }
  | refused {event : Nat} (waits : event ∈ state.waiting)
      (closed : state.gate.aborted = true) :
      Change state (.enter event)
        { state with
          waiting := state.waiting.erase event
          refused := state.refused ++ [event] }
  | left {event : Nat} (holds : event ∈ state.holding) :
      Change state (.leave event)
        { state with
          gate := (Gate.advance event state.gate).2
          holding := state.holding.erase event }
  | aborted : Change state .abort { state with gate := state.gate.abort }

theorem step?_eq_some_iff : state.step? move = some after ↔ state.Change move after := by
  constructor
  · intro step
    cases move with
    | enter event =>
      simp only [step?] at step
      split at step
      · next waits =>
        by_cases closed : state.gate.aborted = true
        · rw [Gate.wait?_of_aborted closed] at step
          obtain rfl := Option.some.inj step
          exact .refused waits closed
        · rw [Bool.not_eq_true] at closed
          by_cases turn : state.gate.next = event
          · subst turn
            rw [Gate.wait?_next closed] at step
            obtain rfl := Option.some.inj step
            exact .admitted waits closed rfl
          · rw [Gate.wait?_eq_none_iff.mpr ⟨closed, turn⟩] at step
            cases step
      · cases step
    | leave event =>
      simp only [step?] at step
      split at step
      · next holds =>
        obtain rfl := Option.some.inj step
        exact .left holds
      · cases step
    | abort =>
      obtain rfl := Option.some.inj step
      exact .aborted
  · intro change
    cases change with
    | admitted waits opened turn =>
      subst turn
      simp [step?, waits, Gate.wait?_next opened]
    | refused waits closed => simp [step?, waits, Gate.wait?_of_aborted closed]
    | left holds => simp [step?, holds]
    | aborted => rfl

/-- Nobody is let in once the gate is aborted, and nobody is forgotten who was let in. -/
theorem Change.granted (change : state.Change move after) :
    state.granted <+: after.granted ∧
      (state.gate.aborted = true → after.granted = state.granted) := by
  cases change with
  | admitted waits opened turn =>
    exact ⟨List.prefix_append _ _, fun closed => absurd closed (by simp [opened])⟩
  | refused waits closed => exact ⟨List.prefix_refl _, fun _ => rfl⟩
  | left holds => exact ⟨List.prefix_refl _, fun _ => rfl⟩
  | aborted => exact ⟨List.prefix_refl _, fun _ => rfl⟩

/-- A party that waits can not move while the gate has nothing to tell it. -/
theorem step?_enter_eq_none_iff {event : Nat} (waits : event ∈ state.waiting) :
    state.step? (.enter event) = none ↔ state.gate.wait? event = none := by
  simp only [step?, if_pos waits]
  cases state.gate.wait? event with
  | none => simp
  | some told => cases told <;> simp

/-! ## The order of the parties -/

/-- Those that hand on their turn in a move. -/
def Move.handed : Move → List Nat
  | .leave event => [event]
  | _ => []

/-- The parties that were let in are those that have handed on their turns and the one
that holds it, if any: the first numbers, in order. -/
structure Arranged (first : Nat) (events handed : List Nat) (state : Gathering) : Prop where
  /-- Every party waits, was let in or was turned away, and only one of these. -/
  parties : (state.waiting ++ state.granted ++ state.refused).Perm events
  granted_eq : state.granted = handed ++ state.holding
  handed_eq : handed = List.range' first handed.length
  turn : state.gate.next = first + handed.length
  holder : state.holding = [] ∨ state.holding = [state.gate.next]
  patient : state.gate.aborted = false → state.refused = []

namespace Arranged

variable {first : Nat} {events handed : List Nat}

theorem start (first : Nat) (events : List Nat) :
    Arranged first events [] (.start first events) where
  parties := by simp [Gathering.start]
  granted_eq := rfl
  handed_eq := rfl
  turn := rfl
  holder := .inl rfl
  patient _ := rfl

theorem mem_events_of_granted (arranged : Arranged first events handed state) {event : Nat}
    (granted : event ∈ state.granted) : event ∈ events :=
  arranged.parties.mem_iff.mp (by simp [granted])

/-- Nobody waits who was let in. -/
theorem notMem_granted (arranged : Arranged first events handed state) (distinct : events.Nodup)
    {event : Nat} (waits : event ∈ state.waiting) : event ∉ state.granted := by
  have apart := arranged.parties.nodup_iff.mpr distinct
  rw [List.append_assoc, List.nodup_append] at apart
  exact fun granted => apart.2.2 event waits event (List.mem_append_left _ granted) rfl

/-- Whoever holds the turn has the number of the gate. -/
theorem eq_next (arranged : Arranged first events handed state) {event : Nat}
    (holds : event ∈ state.holding) : event = state.gate.next ∧ state.holding = [event] := by
  rcases arranged.holder with nobody | alone
  · rw [nobody] at holds
    cases holds
  · rw [alone] at holds
    obtain rfl := List.mem_singleton.mp holds
    exact ⟨rfl, alone⟩

theorem mem_granted_of_holds (arranged : Arranged first events handed state) {event : Nat}
    (holds : event ∈ state.holding) : event ∈ state.granted := by
  rw [arranged.granted_eq]
  exact List.mem_append_right _ holds

/-- While it is the turn of somebody who waits, nobody holds it. -/
theorem holding_eq_nil (arranged : Arranged first events handed state) (distinct : events.Nodup)
    (waits : state.gate.next ∈ state.waiting) : state.holding = [] := by
  rcases arranged.holder with nobody | alone
  · exact nobody
  · have holds : state.gate.next ∈ state.holding := by
      rw [alone]
      exact List.mem_singleton_self _
    exact absurd (arranged.mem_granted_of_holds holds) (arranged.notMem_granted distinct waits)

/-- A move keeps the parties arranged. -/
theorem change (arranged : Arranged first events handed state) (distinct : events.Nodup)
    (fits : ∀ event ∈ events, event < 2 ^ 64 - 1) (change : state.Change move after) :
    Arranged first events (handed ++ move.handed) after := by
  cases change with
  | @admitted event waits opened turn =>
    subst turn
    have nobody := arranged.holding_eq_nil distinct waits
    have moved : (state.waiting.erase state.gate.next ++ (state.granted ++ [state.gate.next])).Perm
        (state.waiting ++ state.granted) := by
      rw [← List.append_assoc]
      exact (List.perm_append_singleton _ _).trans
        ((List.perm_cons_erase waits).symm.append_right _)
    refine ⟨(moved.append_right _).trans arranged.parties, ?_, ?_, ?_, .inr ?_, arranged.patient⟩
    · simp only [arranged.granted_eq, nobody, Move.handed, List.append_nil, List.nil_append]
    · simpa [Move.handed] using arranged.handed_eq
    · simpa [Move.handed] using arranged.turn
    · rw [nobody]
      rfl
  | @refused event waits closed =>
    have moved : (state.waiting.erase event ++ state.granted ++ (state.refused ++ [event])).Perm
        (state.waiting ++ state.granted ++ state.refused) := by
      rw [← List.append_assoc]
      exact (List.perm_append_singleton _ _).trans
        (((List.perm_cons_erase waits).symm.append_right _).append_right _)
    refine ⟨moved.trans arranged.parties, ?_, ?_, ?_, arranged.holder, fun opened => ?_⟩
    · simpa [Move.handed] using arranged.granted_eq
    · simpa [Move.handed] using arranged.handed_eq
    · simpa [Move.handed] using arranged.turn
    · cases closed.symm.trans opened
  | @left event holds =>
    obtain ⟨turn, alone⟩ := arranged.eq_next holds
    have known := fits event (arranged.mem_events_of_granted (arranged.mem_granted_of_holds holds))
    rw [Gate.advance_of_lt known, alone, List.erase_cons_head]
    have number : event = first + handed.length := turn.trans arranged.turn
    refine ⟨arranged.parties, ?_, ?_, ?_, .inl rfl, arranged.patient⟩
    · simpa [Move.handed, alone] using arranged.granted_eq
    · rw [Move.handed, List.length_append, List.length_singleton, List.range'_concat,
        ← arranged.handed_eq, number, Nat.one_mul]
    · rw [Move.handed, List.length_append, List.length_singleton, Gate.handOn_next, number]
      exact Nat.add_assoc _ _ _
  | aborted =>
    refine ⟨arranged.parties, ?_, ?_, ?_, arranged.holder, nofun⟩
    · simpa [Move.handed] using arranged.granted_eq
    · simpa [Move.handed] using arranged.handed_eq
    · simpa [Move.handed] using arranged.turn

/-- The turns are granted from the first number on, in order and without a gap. -/
theorem granted_range' (arranged : Arranged first events handed state) :
    state.granted = List.range' first state.granted.length := by
  rw [arranged.granted_eq]
  rcases arranged.holder with nobody | alone
  · rw [nobody, List.append_nil]
    exact arranged.handed_eq
  · rw [alone, List.length_append, List.length_singleton, List.range'_concat,
      ← arranged.handed_eq, arranged.turn, Nat.one_mul]

theorem length_holding_le (arranged : Arranged first events handed state) :
    state.holding.length ≤ 1 := by
  rcases arranged.holder with nobody | alone
  · rw [nobody]
    exact Nat.zero_le 1
  · rw [alone]
    exact Nat.le_refl 1

/-- The numbers below that of the gate, from the first one on, have got through. -/
theorem mem_handed_iff (arranged : Arranged first events handed state) {number : Nat} :
    number ∈ handed ↔ first ≤ number ∧ number < state.gate.next := by
  rw [arranged.handed_eq, List.mem_range'_1, arranged.turn]

end Arranged

end Gathering

end DetectorSim
