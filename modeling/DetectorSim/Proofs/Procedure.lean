import Mathlib.Data.List.Induction
import DetectorSim.Log

/-!
# Procedures that end well, and what they leave alone

A sequence of procedures ends well if each of them does, every one from the
state that the one before has left.  What each of them leaves alone, however it
ends, the whole sequence leaves alone.
-/

set_option autoImplicit false

namespace DetectorSim

theorem Except.bind_eq_ok_iff {ε α β : Type} {first : Except ε α} {next : α → Except ε β}
    {value : β} : (first >>= next) = .ok value ↔ ∃ a, first = .ok a ∧ next a = .ok value := by
  cases first with
  | error err => exact ⟨nofun, fun ⟨_, failed, _⟩ => nomatch failed⟩
  | ok a => exact ⟨fun rest => ⟨a, rfl, rest⟩, fun ⟨_, same, rest⟩ => Except.ok.inj same ▸ rest⟩

/-- What is accepted or refused for reasons that leave nothing open ends well exactly if it is
accepted, and with exactly the errors that it is refused with. -/
theorem Outcome.decided {α : Type} {outcome : Outcome α} {accepts : Prop} {faults : Error → Prop}
    (decides : accepts ∨ ∃ err, faults err) (accepted : accepts → ∃ value, outcome = .ok value)
    (refused : ∀ err, faults err → outcome = .error err) :
    ((∃ value, outcome = .ok value) ↔ accepts) ∧
      (∀ err, outcome = .error err ↔ faults err) ∧ ∀ text, outcome ≠ .panic text := by
  rcases decides with accepts | ⟨err, fault⟩
  · obtain ⟨value, rfl⟩ := accepted accepts
    exact ⟨iff_of_true ⟨value, rfl⟩ accepts, fun err => ⟨nofun, refused err⟩, nofun⟩
  · obtain rfl := refused err fault
    refine ⟨⟨nofun, accepted⟩, fun other => ⟨fun ended => ?_, refused other⟩, nofun⟩
    obtain rfl := Outcome.error.inj ended
    exact fault

namespace Proc

variable {σ τ α β : Type}

theorem andThen_done (proc : Proc σ α) : andThen proc done = proc := by
  funext state
  unfold andThen
  generalize proc state = result
  obtain ⟨outcome, after⟩ := result
  cases outcome <;> rfl

theorem andThen_assoc {γ : Type} (first : Proc σ α) (next : α → Proc σ β)
    (last : β → Proc σ γ) :
    andThen (andThen first next) last = andThen first fun value => andThen (next value) last := by
  funext state
  unfold andThen
  generalize first state = result
  obtain ⟨outcome, after⟩ := result
  cases outcome <;> rfl

instance : LawfulMonad (Proc σ) :=
  LawfulMonad.mk' (Proc σ) andThen_done (fun _ _ => rfl) andThen_assoc

theorem andThen_eq_ok {first : Proc σ α} {next : α → Proc σ β} {state after : σ} {value : β} :
    andThen first next state = (.ok value, after) ↔
      ∃ a mid, first state = (.ok a, mid) ∧ next a mid = (.ok value, after) := by
  unfold andThen
  constructor
  · intro ran
    split at ran
    · next a mid start => exact ⟨a, mid, start, ran⟩
    · cases ran
    · cases ran
  · rintro ⟨a, mid, start, rest⟩
    rw [start]
    exact rest

/-- What comes after an error is not reached. -/
theorem fst_andThen_of_error {first : Proc σ α} {next : α → Proc σ β} {state : σ} {err : Error}
    (failed : (first state).1 = .error err) : (andThen first next state).1 = .error err := by
  rw [andThen, ← Prod.eta (first state), failed]

theorem eq_of_fst_eq {outcome : Outcome α} {ended : Outcome α × (σ × τ)}
    (same : ended.1 = outcome) : ended = (outcome, (ended.2.1, ended.2.2)) :=
  Prod.ext same rfl

theorem eq_ok_of_ofExcept {result : Except Error α} {state mid : σ} {a : α}
    (ran : ofExcept result state = (.ok a, mid)) : result = .ok a := by
  cases result with
  | error err => cases ran
  | ok value => cases ran; rfl

variable {f : α → Proc σ Unit}

theorem each_cons_eq_ok {a : α} {rest : List α} {state after : σ} :
    each f (a :: rest) state = (.ok (), after) ↔
      ∃ mid, f a state = (.ok (), mid) ∧ each f rest mid = (.ok (), after) := by
  simp only [each, andThen_eq_ok]
  constructor
  · rintro ⟨⟨⟩, mid, first, later⟩
    exact ⟨mid, first, later⟩
  · rintro ⟨mid, first, later⟩
    exact ⟨(), mid, first, later⟩

/-- What every element keeps that ends well, the sequence keeps if it ends well. -/
theorem holds_of_each {P : σ → Prop} {items : List α} {state after : σ}
    (keeps : ∀ a ∈ items, ∀ {before mid}, f a before = (.ok (), mid) → P before → P mid)
    (ran : each f items state = (.ok (), after)) (holds : P state) : P after := by
  induction items generalizing state with
  | nil =>
    cases ran
    exact holds
  | cons a rest ih =>
    obtain ⟨mid, first, later⟩ := each_cons_eq_ok.mp ran
    obtain ⟨here, others⟩ := List.forall_mem_cons.mp keeps
    exact ih others later (here first holds)

/-- One element brings about what the later ones keep, if the earlier ones keep what it
needs. -/
theorem holds_of_each_at {P Q : σ → Prop} {items : List α} {i : Nat} {a : α} {state after : σ}
    (found : items[i]? = some a)
    (earlier : ∀ j b, items[j]? = some b → j < i →
      ∀ {before mid}, f b before = (.ok (), mid) → P before → P mid)
    (brings : ∀ {before mid}, f a before = (.ok (), mid) → P before → Q mid)
    (later : ∀ j b, items[j]? = some b → i < j →
      ∀ {before mid}, f b before = (.ok (), mid) → Q before → Q mid)
    (ran : each f items state = (.ok (), after)) (holds : P state) : Q after := by
  induction items generalizing i state with
  | nil => cases found
  | cons b rest ih =>
    obtain ⟨mid, first, others⟩ := each_cons_eq_ok.mp ran
    cases i with
    | zero =>
      obtain rfl := Option.some.inj found
      refine holds_of_each (fun c among => ?_) others (brings first holds)
      obtain ⟨j, there⟩ := List.mem_iff_getElem?.mp among
      exact later (j + 1) c there (Nat.succ_pos j)
    | succ i =>
      refine ih found (fun j c there lt => ?_) (fun j c there lt => ?_) others
        (earlier 0 b rfl (Nat.succ_pos i) first holds)
      · exact earlier (j + 1) c there (Nat.succ_lt_succ lt)
      · exact later (j + 1) c there (Nat.succ_lt_succ lt)

/-- The elements that `each` comes to, each with the state that it finds. -/
def turns (f : α → Proc σ Unit) : List α → σ → List (α × σ)
  | [], _ => []
  | a :: rest, state =>
      (a, state) ::
        match f a state with
        | (.ok (), after) => turns f rest after
        | _ => []

theorem turns_cons_of_ok {a : α} {rest : List α} {state after : σ}
    (first : f a state = (.ok (), after)) :
    turns f (a :: rest) state = (a, state) :: turns f rest after := by
  rw [turns, first]

/-- Nobody has a turn after an element that fails. -/
theorem turns_cons_of_ne {a : α} {rest : List α} {state after : σ} {outcome : Outcome Unit}
    (first : f a state = (outcome, after)) (failed : outcome ≠ .ok ()) :
    turns f (a :: rest) state = [(a, state)] := by
  rw [turns, first]
  cases outcome with
  | ok => exact absurd rfl failed
  | error err => rfl
  | panic text => rfl

theorem each_cons_of_ok {a : α} {rest : List α} {state after : σ}
    (first : f a state = (.ok (), after)) : each f (a :: rest) state = each f rest after := by
  rw [each, andThen, first]

theorem each_cons_of_ne {a : α} {rest : List α} {state after : σ} {outcome : Outcome Unit}
    (first : f a state = (outcome, after)) (failed : outcome ≠ .ok ()) :
    each f (a :: rest) state = (outcome, after) := by
  rw [each, andThen, first]
  cases outcome with
  | ok => exact absurd rfl failed
  | error err => rfl
  | panic text => rfl

theorem each_singleton (a : α) : each f [a] = f a :=
  andThen_done (f a)

/-- The elements of a first list come before those of a second one. -/
theorem each_append (items more : List α) (state : σ) :
    each f (items ++ more) state = andThen (each f items) (fun _ => each f more) state := by
  induction items generalizing state with
  | nil => rfl
  | cons a rest ih =>
    rw [List.cons_append, each, each, andThen_assoc]
    unfold andThen
    generalize f a state = result
    obtain ⟨outcome, mid⟩ := result
    cases outcome with
    | ok value => exact ih mid
    | error err => rfl
    | panic text => rfl

/-- A sequence keeps what each element keeps, given those before it, or else it ends with the
error of one that does not. -/
theorem each_ok_or_error {P : List α → σ → Prop} {Q : List α → Error → Prop}
    (step : ∀ earlier a {state}, P earlier state →
      (∃ after, f a state = (.ok (), after) ∧ P (earlier ++ [a]) after) ∨
        ∃ err, (f a state).1 = .error err ∧ Q (earlier ++ [a]) err)
    (lasts : ∀ earlier a err, Q earlier err → Q (earlier ++ [a]) err)
    (state : σ) (holds : P [] state) (items : List α) :
    (∃ after, each f items state = (.ok (), after) ∧ P items after) ∨
      ∃ err, (each f items state).1 = .error err ∧ Q items err := by
  induction items using List.reverseRecOn with
  | nil => exact .inl ⟨state, rfl, holds⟩
  | append_singleton items a ih =>
    rw [each_append]
    rcases ih with ⟨mid, ran, kept⟩ | ⟨err, failed, left⟩
    · rw [andThen, ran]
      rw [each_singleton]
      exact step items a kept
    · exact .inr ⟨err, fst_andThen_of_error failed, lasts items a err left⟩

/-- If all goes well, every element has its turn. -/
theorem turns_of_ok {items : List α} {state after : σ}
    (ran : each f items state = (.ok (), after)) :
    (turns f items state).map Prod.fst = items := by
  induction items generalizing state with
  | nil => rfl
  | cons a rest ih =>
    obtain ⟨mid, first, later⟩ := each_cons_eq_ok.mp ran
    simp only [turns, first, List.map_cons, ih later]

/-- How the elements end that `each` comes to. -/
def outcomes (f : α → Proc σ Unit) (items : List α) (state : σ) : List (Outcome Unit) :=
  (turns f items state).map fun turn => (f turn.1 turn.2).1

/-- All elements end well, or all before the one that the sequence ends with. -/
theorem outcomes_cases (f : α → Proc σ Unit) (items : List α) (state : σ) :
    ((each f items state).1 = .ok () ∧
        outcomes f items state = List.replicate items.length (.ok ())) ∨
      ∃ before, before < items.length ∧ (each f items state).1 ≠ .ok () ∧
        outcomes f items state = List.replicate before (.ok ()) ++ [(each f items state).1] := by
  induction items generalizing state with
  | nil => exact .inl ⟨rfl, rfl⟩
  | cons a rest ih =>
    simp only [outcomes, each, andThen, turns, List.map_cons, List.length_cons]
    cases first : f a state with
    | mk outcome after =>
      cases outcome with
      | ok value =>
        rcases ih after with ⟨fine, all⟩ | ⟨before, inside, failed, all⟩
        · exact .inl ⟨fine, congrArg _ all⟩
        · exact .inr ⟨before + 1, Nat.succ_lt_succ inside, failed, congrArg _ all⟩
      | error err => exact .inr ⟨0, Nat.succ_pos _, nofun, rfl⟩
      | panic text => exact .inr ⟨0, Nat.succ_pos _, nofun, rfl⟩

/-- The turns are those of the first elements. -/
theorem getElem?_of_turns {items : List α} {state : σ} {index : Nat} {turn : α × σ}
    (found : (turns f items state)[index]? = some turn) : items[index]? = some turn.1 := by
  induction items generalizing state index with
  | nil => cases found
  | cons a rest ih =>
    rw [turns] at found
    cases index with
    | zero => exact congrArg (Option.map Prod.fst) found
    | succ index =>
      rw [List.getElem?_cons_succ] at found ⊢
      split at found
      · exact ih found
      · cases found

theorem mem_of_mem_turns {items : List α} {state : σ} {turn : α × σ}
    (among : turn ∈ turns f items state) : turn.1 ∈ items := by
  obtain ⟨index, placed⟩ := List.mem_iff_getElem?.mp among
  exact List.mem_of_getElem? (getElem?_of_turns placed)

theorem exists_of_getElem?_outcomes {items : List α} {state : σ} {index : Nat}
    {outcome : Outcome Unit} (found : (outcomes f items state)[index]? = some outcome) :
    ∃ a mid, items[index]? = some a ∧ (f a mid).1 = outcome := by
  rw [outcomes, List.getElem?_map] at found
  obtain ⟨turn, placed, ended⟩ := Option.map_eq_some_iff.mp found
  exact ⟨turn.1, turn.2, getElem?_of_turns placed, ended⟩

/-- The error of a sequence is that of one of its elements. -/
theorem exists_of_each_error {items : List α} {state : σ} {err : Error}
    (failed : (each f items state).1 = .error err) :
    ∃ a ∈ items, ∃ mid, (f a mid).1 = .error err := by
  rcases outcomes_cases f items state with ⟨fine, -⟩ | ⟨before, -, -, all⟩
  · cases fine.symm.trans failed
  · have last : .error err ∈ outcomes f items state := by
      rw [all, failed]
      exact List.mem_append_right _ (List.mem_singleton_self _)
    obtain ⟨index, placed⟩ := List.mem_iff_getElem?.mp last
    obtain ⟨a, mid, found, ended⟩ := exists_of_getElem?_outcomes placed
    exact ⟨a, List.mem_of_getElem? found, mid, ended⟩

/-! ## What is left alone -/

/-- A procedure leaves alone what a view shows of the state, however it ends. -/
def Keeps {β : Type} (view : σ → τ) (proc : Proc σ β) : Prop :=
  ∀ state, view (proc state).2 = view state

namespace Keeps

variable {γ : Type} {view : σ → τ}

/-- What follows matters only where it is reached. -/
theorem andThen_of_ok {first : Proc σ α} {next : α → Proc σ β} (kept : Keeps view first)
    (later : ∀ {state a after}, first state = (.ok a, after) →
      view (next a after).2 = view after) : Keeps view (andThen first next) := by
  intro state
  have same := kept state
  unfold Proc.andThen
  generalize reached : first state = result at same ⊢
  obtain ⟨outcome, after⟩ := result
  cases outcome with
  | ok a => exact (later reached).trans same
  | error err => exact same
  | panic text => exact same

theorem andThen {first : Proc σ α} {next : α → Proc σ β} (kept : Keeps view first)
    (later : ∀ a, Keeps view (next a)) : Keeps view (andThen first next) :=
  kept.andThen_of_ok fun {_ a after} _ => later a after

theorem done (a : α) : Keeps view (done a) :=
  fun _ => rfl

theorem ofOutcome (outcome : Outcome α) : Keeps view (ofOutcome outcome) :=
  fun _ => rfl

theorem get : Keeps view get :=
  fun _ => rfl

theorem attempt {proc : Proc σ α} (kept : Keeps view proc) : Keeps view (attempt proc) :=
  kept

theorem each_of_mem {items : List α} (kept : ∀ a ∈ items, Keeps view (f a)) :
    Keeps view (each f items) := by
  induction items with
  | nil => exact done ()
  | cons a rest ih =>
    obtain ⟨first, others⟩ := List.forall_mem_cons.mp kept
    exact first.andThen fun _ => ih others

theorem each (kept : ∀ a, Keeps view (f a)) (items : List α) : Keeps view (each f items) :=
  each_of_mem fun a _ => kept a

section Journals

variable [HasJournal σ]
  (apart : ∀ journal state, view (HasJournal.withJournal journal state) = view state)

include apart

theorem log (level : Level) (text : String) : Keeps view (log level text) :=
  fun state => apart _ state

theorem within {proc : Proc σ α} (kept : Keeps view proc) (name : String) :
    Keeps view (within name proc) := fun state =>
  (apart _ _).trans ((kept _).trans (apart _ state))

end Journals

end Keeps

/-! ## What goes on to hold -/

/-- What holds of the state before a procedure holds of the state after it, however it ends. -/
def Preserves (P : σ → Prop) (proc : Proc σ α) : Prop :=
  ∀ state, P state → P (proc state).2

namespace Preserves

variable {P : σ → Prop}

/-- What comes next only has to deal with the values that the first procedure can return. -/
theorem andThen {first : Proc σ α} {next : α → Proc σ β} (kept : Preserves P first)
    (later : ∀ a state mid, first state = (.ok a, mid) → Preserves P (next a)) :
    Preserves P (Proc.andThen first next) := by
  intro state holds
  have held := kept state holds
  unfold Proc.andThen
  rcases ran : first state with ⟨a | err | text, mid⟩ <;> rw [ran] at held
  · exact later a state mid ran mid held
  · exact held
  · exact held

theorem each {items : List α} (kept : ∀ a ∈ items, Preserves P (f a)) :
    Preserves P (Proc.each f items) := by
  induction items with
  | nil => exact fun _ holds => holds
  | cons a rest ih =>
    obtain ⟨first, others⟩ := List.forall_mem_cons.mp kept
    exact first.andThen fun _ _ _ _ => ih others

end Preserves

end Proc

end DetectorSim
