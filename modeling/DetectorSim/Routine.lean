import DetectorSim.Outcome

/-!
# Routines

A routine is the code of a module seen from outside: a finite tree of questions
to its surroundings.  It ends with a value, an error or a panic, or asks for an
operation and goes on with the reply.  What the operations do is decided by
whoever runs the routine, so a routine can do nothing that its surroundings do
not offer.
-/

set_option autoImplicit false

namespace DetectorSim

/-- Code that asks for operations. -/
inductive Routine (Op : Type) (Reply : Op → Type) (α : Type) where
  | done (value : α)
  | fail (err : Error)
  | panic (text : String)
  | ask (op : Op) (next : Reply op → Routine Op Reply α)

namespace Routine

variable {Op : Type} {Reply : Op → Type} {α β σ : Type}

/-- Go on with the value of a routine. -/
def andThen : Routine Op Reply α → (α → Routine Op Reply β) → Routine Op Reply β
  | .done value, next => next value
  | .fail err, _ => .fail err
  | .panic text, _ => .panic text
  | .ask op rest, next => .ask op fun reply => andThen (rest reply) next

instance : Monad (Routine Op Reply) where
  pure := .done
  bind := andThen

/-- Ask for an operation and end with the reply. -/
def call (op : Op) : Routine Op Reply (Reply op) :=
  .ask op .done

/-- End as a result says. -/
def ofExcept : Except Error α → Routine Op Reply α
  | .ok value => .done value
  | .error err => .fail err

/-- Run a routine for every element of a list, in order. -/
def each (f : α → Routine Op Reply Unit) : List α → Routine Op Reply Unit
  | [] => .done ()
  | a :: rest => andThen (f a) fun _ => each f rest

/-- Run a routine for every element of a list and put the values behind those
in `found`, which is given last value first. -/
def collectOnto (f : α → Routine Op Reply β) (found : List β) :
    List α → Routine Op Reply (List β)
  | [] => .done found.reverse
  | a :: rest => andThen (f a) fun b => collectOnto f (b :: found) rest

/-- Run a routine for every element of a list and collect the values. -/
def collect (f : α → Routine Op Reply β) (items : List α) : Routine Op Reply (List β) :=
  collectOnto f [] items

/-- Run a routine a number of times and put the values behind those in `found`,
which is given last value first. -/
def timesOnto (routine : Routine Op Reply α) (found : List α) :
    Nat → Routine Op Reply (List α)
  | 0 => .done found.reverse
  | count + 1 => andThen routine fun a => timesOnto routine (a :: found) count

/-- Run a routine a number of times and collect the values. -/
def times (routine : Routine Op Reply α) (count : Nat) : Routine Op Reply (List α) :=
  timesOnto routine [] count

/-- Run a routine, with a procedure for each operation. -/
def run (perform : (op : Op) → Proc σ (Reply op)) : Routine Op Reply α → Proc σ α
  | .done value, state => (.ok value, state)
  | .fail err, state => (.error err, state)
  | .panic text, state => (.panic text, state)
  | .ask op next, state =>
      match perform op state with
      | (.ok reply, state) => run perform (next reply) state
      | (.error err, state) => (.error err, state)
      | (.panic text, state) => (.panic text, state)

/-- Running one routine after another is running their sequence. -/
theorem run_andThen (perform : (op : Op) → Proc σ (Reply op)) (first : Routine Op Reply α)
    (next : α → Routine Op Reply β) (state : σ) :
    run perform (andThen first next) state
      = Proc.andThen (run perform first) (fun value => run perform (next value)) state := by
  induction first generalizing state with
  | done value => rfl
  | fail err => rfl
  | panic text => rfl
  | ask op rest ih =>
      simp only [andThen, run, Proc.andThen]
      cases hop : perform op state with
      | mk outcome after =>
        cases outcome with
        | ok reply => simpa [Proc.andThen] using ih reply after
        | error err => rfl
        | panic text => rfl

end Routine

end DetectorSim
