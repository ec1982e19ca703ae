import DetectorSim.Outcome

/-!
# Turn gates

A gate lets events pass one at a time and in order.  It knows the number of the
event whose turn it is; a party with another event has to wait.  Whoever holds
the turn hands it on to the event after its own.  An aborted gate turns
everybody away.
-/

set_option autoImplicit false

namespace DetectorSim

/-- A gate: the event whose turn is next, and whether the gate is aborted. -/
structure Gate where
  next : Nat
  aborted : Bool
  deriving DecidableEq, Repr, Inhabited

namespace Gate

/-- A gate that waits for a first event. -/
def opening (first : Nat) : Gate :=
  ⟨first, false⟩

/-- What a party finds at the gate: nothing if it has to wait, else whether it
is let in. -/
def wait? (gate : Gate) (event : Nat) : Option (Except Error Unit) :=
  if gate.aborted then some (.error .aborted)
  else if gate.next = event then some (.ok ())
  else none

/-- Hand the turn to the event after `event`. -/
def handOn (gate : Gate) (event : Nat) : Gate :=
  { gate with next := event + 1 }

/-- Hand on the turn of an event with a number of 64 bits.  There is no event
after the last of these numbers. -/
def advance (event : Nat) : Proc Gate Unit := fun gate =>
  if event + 1 < 0x10000000000000000 then (.ok (), gate.handOn event)
  else (.panic overflowText, gate)

/-- Turn everybody away from now on. -/
def abort (gate : Gate) : Gate :=
  { gate with aborted := true }

@[simp] theorem handOn_next (gate : Gate) (event : Nat) :
    (gate.handOn event).next = event + 1 := rfl

@[simp] theorem handOn_aborted (gate : Gate) (event : Nat) :
    (gate.handOn event).aborted = gate.aborted := rfl

@[simp] theorem abort_next (gate : Gate) : gate.abort.next = gate.next := rfl

@[simp] theorem abort_aborted (gate : Gate) : gate.abort.aborted = true := rfl

end Gate

/-! ## Parties at a gate -/

/-- Parties at a gate.  Each has the number of an event. -/
structure Gathering where
  gate : Gate
  /-- The parties that have not got in yet. -/
  waiting : List Nat
  /-- The parties that hold a turn. -/
  holding : List Nat
  /-- The parties that were let in, in this order. -/
  granted : List Nat
  /-- The parties that were turned away. -/
  refused : List Nat
  deriving DecidableEq, Repr, Inhabited

namespace Gathering

/-- What can happen at a gate. -/
inductive Move where
  /-- A party enters. -/
  | enter (event : Nat)
  /-- A party that holds the turn hands it on. -/
  | leave (event : Nat)
  /-- The gate is aborted. -/
  | abort
  deriving DecidableEq, Repr, Inhabited

/-- Parties before a gate that waits for a first event. -/
def start (first : Nat) (events : List Nat) : Gathering :=
  ⟨.opening first, events, [], [], []⟩

/-- The gathering after a move, if the move is possible. -/
def step? (state : Gathering) : Move → Option Gathering
  | .enter event =>
      if event ∈ state.waiting then
        match state.gate.wait? event with
        | none => none
        | some (.ok ()) =>
            some { state with
              waiting := state.waiting.erase event
              holding := state.holding ++ [event]
              granted := state.granted ++ [event] }
        | some (.error _) =>
            some { state with
              waiting := state.waiting.erase event
              refused := state.refused ++ [event] }
      else none
  | .leave event =>
      if event ∈ state.holding then
        some { state with
          gate := (Gate.advance event state.gate).2
          holding := state.holding.erase event }
      else none
  | .abort => some { state with gate := state.gate.abort }

/-- Make the moves of a list that are possible. -/
def play (state : Gathering) (moves : List Move) : Gathering :=
  moves.foldl (fun state move => (state.step? move).getD state) state

/-- The moves of all parties, one after the other. -/
def passes (events : List Nat) : List Move :=
  events.flatMap fun event => [.enter event, .leave event]

/-- All parties that can pass do so, then the gate is aborted and the others
are turned away. -/
def settle (state : Gathering) : Gathering :=
  let sorted := state.waiting.mergeSort fun a b => a ≤ b
  let passed := state.play (passes sorted)
  passed.play (.abort :: sorted.map .enter)

end Gathering

/-! ## Parties that sleep while they wait -/

/-- Parties at a gate.  Who finds that it is not its turn sleeps until it is woken, and
then looks again. -/
structure Hall where
  gathering : Gathering
  /-- The waiting parties that sleep. -/
  asleep : List Nat
  deriving DecidableEq, Repr, Inhabited

namespace Hall

/-- What can happen in a hall. -/
inductive Move where
  /-- A waiting party that is awake looks whether it is let in; if it is not told, it falls
  asleep. -/
  | look (event : Nat)
  /-- A party wakes up though nobody has woken it. -/
  | stir (event : Nat)
  /-- A party hands on its turn, at the end of its work or while it unwinds, and wakes
  everybody. -/
  | leave (event : Nat)
  /-- The gate is aborted, and everybody is woken. -/
  | abort
  deriving DecidableEq, Repr, Inhabited

/-- Parties that have not looked at the gate yet. -/
def start (first : Nat) (events : List Nat) : Hall :=
  ⟨.start first events, []⟩

/-- The hall after a move, if the move is possible.  A party that panics while it hands on
its turn wakes nobody. -/
def step? (hall : Hall) : Move → Option Hall
  | .look event =>
      if event ∈ hall.gathering.waiting ∧ event ∉ hall.asleep then
        match hall.gathering.step? (.enter event) with
        | some gathering => some { hall with gathering }
        | none => some { hall with asleep := event :: hall.asleep }
      else none
  | .stir event =>
      if event ∈ hall.asleep then some { hall with asleep := hall.asleep.erase event }
      else none
  | .leave event =>
      (hall.gathering.step? (.leave event)).map fun gathering =>
        match Gate.advance event hall.gathering.gate with
        | (.ok (), _) => ⟨gathering, []⟩
        | _ => { hall with gathering }
  | .abort => (hall.gathering.step? .abort).map fun gathering => ⟨gathering, []⟩

end Hall

end DetectorSim
