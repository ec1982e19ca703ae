import DetectorSim.Error

/-!
# Outcomes and procedures

Code either ends with a value, ends with an error, or panics.  A procedure is
code that works on a state.  Whatever it has done to the state stays done,
also when it ends with an error or panics.
-/

set_option autoImplicit false

namespace DetectorSim

/-- The text of the panic of a sum that runs over. -/
def overflowText : String :=
  "attempt to add with overflow"

/-- How a piece of code ends. -/
inductive Outcome (α : Type) where
  | ok (value : α)
  | error (err : Error)
  | panic (text : String)
  deriving Inhabited, DecidableEq, Repr

namespace Outcome

variable {α β : Type}

/-- An outcome without panic. -/
def ofExcept : Except Error α → Outcome α
  | .ok value => .ok value
  | .error err => .error err

/-- Change the value of an outcome. -/
def map (f : α → β) : Outcome α → Outcome β
  | .ok value => .ok (f value)
  | .error err => .error err
  | .panic text => .panic text

theorem map_eq_ok_iff {f : α → β} {outcome : Outcome α} {value : β} :
    outcome.map f = .ok value ↔ ∃ a, outcome = .ok a ∧ f a = value := by
  cases outcome <;> simp [map]

@[simp] theorem map_eq_error_iff {f : α → β} {outcome : Outcome α} {err : Error} :
    outcome.map f = .error err ↔ outcome = .error err := by
  cases outcome <;> simp [map]

@[simp] theorem map_eq_panic_iff {f : α → β} {outcome : Outcome α} {text : String} :
    outcome.map f = .panic text ↔ outcome = .panic text := by
  cases outcome <;> simp [map]

/-- Change the error of an outcome. -/
def mapError (f : Error → Error) : Outcome α → Outcome α
  | .ok value => .ok value
  | .error err => .error (f err)
  | .panic text => .panic text

end Outcome

/-- Code that works on a state. -/
def Proc (σ α : Type) : Type :=
  σ → Outcome α × σ

namespace Proc

variable {σ τ α β : Type}

/-- End with a value. -/
def done (value : α) : Proc σ α :=
  fun state => (.ok value, state)

/-- End with an error. -/
def fail (err : Error) : Proc σ α :=
  fun state => (.error err, state)

/-- Go on with the value of a procedure. -/
def andThen (first : Proc σ α) (next : α → Proc σ β) : Proc σ β := fun state =>
  match first state with
  | (.ok value, state) => next value state
  | (.error err, state) => (.error err, state)
  | (.panic text, state) => (.panic text, state)

instance : Monad (Proc σ) where
  pure := done
  bind := andThen

/-- The state. -/
def get : Proc σ σ :=
  fun state => (.ok state, state)

/-- Change the state. -/
def modify (f : σ → σ) : Proc σ Unit :=
  fun state => (.ok (), f state)

/-- End as an outcome says. -/
def ofOutcome (outcome : Outcome α) : Proc σ α :=
  fun state => (outcome, state)

/-- End as a result says. -/
def ofExcept (result : Except Error α) : Proc σ α :=
  ofOutcome (.ofExcept result)

/-- Change the error that a procedure ends with. -/
def mapError (f : Error → Error) (proc : Proc σ α) : Proc σ α := fun state =>
  match proc state with
  | (outcome, state) => (outcome.mapError f, state)

/-- How a procedure ends, as a value. -/
def attempt (proc : Proc σ α) : Proc σ (Outcome α) := fun state =>
  match proc state with
  | (outcome, state) => (.ok outcome, state)

/-- Run a procedure on a part of the state. -/
def zoom (view : σ → τ) (update : τ → σ → σ) (proc : Proc τ α) : Proc σ α := fun state =>
  match proc (view state) with
  | (outcome, part) => (outcome, update part state)

/-- Run a procedure on the first part of a pair. -/
def onFst (proc : Proc σ α) : Proc (σ × τ) α :=
  zoom Prod.fst (fun part state => (part, state.2)) proc

/-- Run a procedure on the second part of a pair. -/
def onSnd (proc : Proc τ α) : Proc (σ × τ) α :=
  zoom Prod.snd (fun part state => (state.1, part)) proc

/-- Run a procedure with a further state of its own, which is given up in the
end. -/
def withLocal (initial : σ) (proc : Proc (σ × τ) α) : Proc τ α := fun state =>
  match proc (initial, state) with
  | (outcome, (_, state)) => (outcome, state)

/-- Run a procedure for every element of a list, in order. -/
def each (f : α → Proc σ Unit) : List α → Proc σ Unit
  | [] => done ()
  | a :: rest => andThen (f a) fun _ => each f rest

@[simp] theorem pure_apply (value : α) (state : σ) :
    (pure value : Proc σ α) state = (.ok value, state) := rfl

@[simp] theorem bind_apply (first : Proc σ α) (next : α → Proc σ β) (state : σ) :
    (first >>= next) state = andThen first next state := rfl

end Proc

end DetectorSim
