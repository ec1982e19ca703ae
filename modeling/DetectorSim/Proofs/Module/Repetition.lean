import Mathlib.Data.List.Nodup
import DetectorSim.Proofs.Module.Lifecycle

/-!
# Rounds that are made again

A round that has failed leaves the manager in the state that the round needs.  So the
call may be made again, and then the round starts over with the first instance: hooks
that were called before are called once more, those that have ended well among them.

This is the only way in which a hook of a round is called more than once.  Each attempt
calls it at most once, and all attempts but the last one have failed.
-/

set_option autoImplicit false

namespace DetectorSim

variable {κ ω : Type} [Payload κ]

/-- Whether the hook of a phase was called of the instance with an index. -/
def Mark.isCallOf (phase : Phase) (index : Nat) : Mark κ → Bool
  | .called other place _ => other = phase && place = index
  | _ => false

/-- How often the hook of a phase was called of the instance with an index. -/
def callsOf (phase : Phase) (index : Nat) (marks : List (Mark κ)) : Nat :=
  marks.countP (Mark.isCallOf phase index)

theorem callsOf_append (phase : Phase) (index : Nat) (first second : List (Mark κ)) :
    callsOf phase index (first ++ second)
      = callsOf phase index first + callsOf phase index second :=
  List.countP_append

/-- In a round the hook of every instance that it comes to is called once. -/
theorem Round.callsOf_marksOf (round : Round κ ω) (phase : Phase) (index : Nat)
    (outcomes : List (Outcome Unit)) :
    callsOf phase index (round.marksOf outcomes : List (Mark κ))
      = if round.phase = phase ∧ index < outcomes.length then 1 else 0 := by
  rw [callsOf, marksOf, List.countP_map]
  by_cases same : round.phase = phase
  · have places : (Mark.isCallOf phase index : Mark κ → Bool) ∘
        (fun turn : Outcome Unit × Nat => .called round.phase turn.2 turn.1)
        = (fun place => place == index) ∘ Prod.snd := by
      funext turn
      simp [Mark.isCallOf, same, beq_eq_decide]
    rw [places, ← List.countP_map, List.zipIdx_map_snd, ← List.count,
      List.Nodup.count List.nodup_range']
    simp [List.mem_range'_1, same]
  · rw [if_neg fun both => same both.1, List.countP_eq_zero]
    intro turn _
    simp [Mark.isCallOf, same]

namespace Manager

/-! ## Attempts -/

namespace Episode

/-- Whether a call makes the round of a phase, and is due. -/
def attempts (phase : Phase) (episode : Episode κ ω) : Bool :=
  episode.command.round?.any (fun round => round.phase = phase) &&
    episode.before.1.state = episode.command.needs

/-- Whether a call makes the round of a phase, is due, and fails. -/
def fails (phase : Phase) (episode : Episode κ ω) : Bool :=
  episode.attempts phase && episode.outcome ≠ .ok ()

theorem attempts_iff {phase : Phase} {episode : Episode κ ω} :
    episode.attempts phase = true ↔ ∃ round, episode.command.round? = some round ∧
      round.phase = phase ∧ episode.before.1.state = round.needs := by
  rw [attempts, Bool.and_eq_true]
  constructor
  · rintro ⟨makes, due⟩
    obtain ⟨round, made, same⟩ := (Option.any_eq_true _ _).mp makes
    refine ⟨round, made, of_decide_eq_true same, ?_⟩
    rw [← needs_of_round made]
    exact of_decide_eq_true due
  · rintro ⟨round, made, same, due⟩
    rw [made, needs_of_round made]
    exact ⟨decide_eq_true same, decide_eq_true due⟩

theorem attempts_of_round {phase : Phase} {episode : Episode κ ω} {round : Round κ ω}
    (makes : episode.command.round? = some round) (due : episode.before.1.state = round.needs) :
    episode.attempts phase = true ↔ round.phase = phase := by
  rw [attempts_iff]
  constructor
  · rintro ⟨other, made, same, -⟩
    obtain rfl := Option.some.inj (makes.symm.trans made)
    exact same
  · exact fun same => ⟨round, makes, same, due⟩

end Episode

section Attempts

variable [DecidableEq κ] {episodes : List (Episode κ ω)} {manager : Manager κ ω}
  {episode : Episode κ ω} {phase : Phase}

/-- The hook of an instance is called once in every attempt that comes to it, and at no
other time. -/
theorem Effect.callsOf_eq (effect : Effect episode.before episode.command episode.marks
      episode.outcome episode.after) (index : Nat) :
    callsOf phase index episode.marks
      = if episode.attempts phase = true ∧ index < episode.marks.length then 1 else 0 := by
  have round_case {round : Round κ ω} {outcomes : List (Outcome Unit)}
      (makes : episode.command.round? = some round)
      (due : episode.before.1.state = round.needs) :
      callsOf phase index (round.marksOf outcomes : List (Mark κ))
        = if episode.attempts phase = true ∧
              index < (round.marksOf outcomes : List (Mark κ)).length then 1 else 0 := by
    rw [Round.callsOf_marksOf]
    simp only [Episode.attempts_of_round makes due, Round.marksOf, List.length_map,
      List.length_zipIdx]
  obtain ⟨command, before, marks, outcome, after⟩ := episode
  dsimp only at effect round_case ⊢
  cases effect with
  | broken makes due => exact round_case makes due
  | completed makes due => exact round_case makes due
  | ran due =>
    rw [if_neg fun both => Bool.false_ne_true both.1]
    refine List.countP_eq_zero.mpr fun mark among => ?_
    cases mark with
    | called => simp [List.mem_cons] at among
    | _ => exact Bool.false_ne_true
  | _ => simp [callsOf]

omit [DecidableEq κ] in
/-- A round is known by its phase. -/
theorem round_eq_of_phase {command other : Command κ ω} {round round' : Round κ ω}
    (makes : command.round? = some round) (makes' : other.round? = some round')
    (same : round'.phase = round.phase) : round' = round := by
  cases command with
  | load => cases makes
  | run => cases makes
  | init =>
    obtain rfl := Option.some.inj makes
    cases other with
    | init => exact (Option.some.inj makes').symm
    | finalize => obtain rfl := Option.some.inj makes'; cases same
    | _ => cases makes'
  | finalize =>
    obtain rfl := Option.some.inj makes
    cases other with
    | init => obtain rfl := Option.some.inj makes'; cases same
    | finalize => exact (Option.some.inj makes').symm
    | _ => cases makes'

/-- An attempt fails, or it leads the manager on and the round is over. -/
theorem Effect.attempts_cases {command : Command κ ω} {round : Round κ ω}
    (makes : command.round? = some round) (effect : Effect episode.before episode.command
      episode.marks episode.outcome episode.after) :
    episode.attempts round.phase = false ∨
      episode.fails round.phase = true ∨
      episode.before.1.state = round.needs ∧ episode.after.1.state = round.leadsTo := by
  cases tried : episode.attempts round.phase with
  | false => exact .inl rfl
  | true =>
    refine .inr ?_
    obtain ⟨other, makes', same, due⟩ := Episode.attempts_iff.mp tried
    obtain rfl := round_eq_of_phase makes makes' same
    by_cases fine : episode.outcome = .ok ()
    · refine .inr ⟨due, ?_⟩
      rw [fine] at effect
      generalize episode.command = called, episode.marks = marks, episode.after = after
        at effect makes'
      cases effect with
      | loaded => cases makes'
      | broken _ _ _ failed => exact absurd rfl failed
      | completed makes'' =>
        obtain rfl := Option.some.inj (makes'.symm.trans makes'')
        rfl
      | ran => cases makes'
      | unloaded => cases makes'
    · exact .inl (by simp [Episode.fails, tried, fine])

omit [DecidableEq κ] in
theorem rank_lt_of_round {command : Command κ ω} {round : Round κ ω}
    (makes : command.round? = some round) : round.needs.rank < round.leadsTo.rank := by
  cases command with
  | load => cases makes
  | run => cases makes
  | init => obtain rfl := Option.some.inj makes; exact Nat.lt_succ_self 1
  | finalize => obtain rfl := Option.some.inj makes; exact Nat.lt_succ_self 3

/-- What a call adds to the attempts, it adds to the failures or to the way that the
manager has come. -/
theorem Effect.attempts_le {command : Command κ ω} {round : Round κ ω}
    (makes : command.round? = some round) (effect : Effect episode.before episode.command
      episode.marks episode.outcome episode.after) :
    (if episode.attempts round.phase then 1 else 0)
        + (if round.leadsTo.rank ≤ episode.before.1.state.rank then 1 else 0)
      ≤ (if episode.fails round.phase then 1 else 0)
        + if round.leadsTo.rank ≤ episode.after.1.state.rank then 1 else 0 := by
  have climbs := effect.climbs
  rcases effect.attempts_cases makes with untried | failed | ⟨due, now⟩
  · rw [untried, if_neg Bool.false_ne_true]
    split <;> split <;> split <;> omega
  · rw [failed, if_pos rfl]
    split <;> split <;> split <;> omega
  · have below := rank_lt_of_round makes
    rw [due, now, if_pos (Nat.le_refl _), if_neg (Nat.not_le_of_lt below)]
    split <;> split <;> omega

end Attempts

/-! ## All attempts of a life -/

section Lives

variable [DecidableEq κ] {episodes : List (Episode κ ω)} {manager : Manager κ ω}

/-- Over a whole life the hook of an instance is called once in every attempt that comes
to it. -/
theorem Life.callsOf_eq (life : Life episodes manager) (phase : Phase) (index : Nat) :
    callsOf phase index (lifeMarks episodes)
      = episodes.countP fun episode =>
          episode.attempts phase && index < episode.marks.length := by
  have effects := life.effect
  clear life
  induction episodes with
  | nil => rfl
  | cons episode rest ih =>
    obtain ⟨effect, others⟩ := List.forall_mem_cons.mp effects
    rw [lifeMarks, List.flatMap_cons, callsOf_append, ← lifeMarks, ih others,
      effect.callsOf_eq, List.countP_cons, Nat.add_comm]
    simp

/-- All attempts but the one that leads the manager on have failed. -/
theorem Life.attempts_le {command : Command κ ω} {round : Round κ ω}
    (makes : command.round? = some round) (life : Life episodes manager) :
    episodes.countP (Episode.attempts round.phase)
      ≤ episodes.countP (Episode.fails round.phase)
        + if round.leadsTo.rank ≤ manager.state.rank then 1 else 0 := by
  induction life with
  | born => exact Nat.zero_le _
  | @call episodes manager called marks earlier env shows ih =>
    have effect := (earlier.call env shows).effect _ (List.mem_append_right _ List.mem_cons_self)
    have added := effect.attempts_le makes
    rw [List.countP_append, List.countP_append, List.countP_singleton, List.countP_singleton]
    change _ + (if round.leadsTo.rank ≤ manager.state.rank then 1 else 0) ≤ _ at added
    have same : (called.episode (manager, env) marks).after.1
      = (called.perform (manager, env)).2.1 := rfl
    rw [same] at added
    omega

theorem Life.callsOf_le {command : Command κ ω} {round : Round κ ω}
    (makes : command.round? = some round) (life : Life episodes manager) (index : Nat) :
    callsOf round.phase index (lifeMarks episodes)
      ≤ episodes.countP (Episode.fails round.phase) + 1 := by
  have once : (if round.leadsTo.rank ≤ manager.state.rank then 1 else 0) ≤ 1 := by
    split <;> omega
  calc callsOf round.phase index (lifeMarks episodes)
      ≤ episodes.countP (Episode.attempts round.phase) := by
        rw [life.callsOf_eq]
        refine List.countP_mono_left fun episode _ called => ?_
        exact (Bool.and_eq_true_iff.mp called).1
    _ ≤ episodes.countP (Episode.fails round.phase) + 1 :=
        Nat.le_trans (life.attempts_le makes) (Nat.add_le_add_left once _)

/-- **Only what has failed is repeated.**  Over the whole life of a manager the
initializing and the finalizing hook of an instance are called at most once more often
than their round has failed. -/
theorem Life.calls_le_failures (life : Life episodes manager) (index : Nat) :
    callsOf .init index (lifeMarks episodes) ≤ episodes.countP (Episode.fails .init) + 1 ∧
      callsOf .finalize index (lifeMarks episodes)
        ≤ episodes.countP (Episode.fails .finalize) + 1 :=
  ⟨Life.callsOf_le (show Command.init.round? = some Round.init from rfl) life index,
    Life.callsOf_le (show Command.finalize.round? = some Round.finalize from rfl) life index⟩

end Lives

end Manager

/-! ## A life to try things on -/

open Builtin

/-- A module type that wants to be asked twice before it can be initialized. -/
def Descriptor.coy : Descriptor PayloadKind Bool :=
  ⟨"Coy", .unique fun _ _ _ => .done
    { Module.idle with
      init := .ask (.update fun _ => true) fun (asked : Bool) =>
        if asked then .done () else .fail (.runtime "not yet") }⟩

/-- A module type that does nothing. -/
def Descriptor.willing : Descriptor PayloadKind Bool :=
  ⟨"Willing", .unique fun _ _ _ => .done Module.idle⟩

/-- The registry that has these types. -/
def Registry.willingAndCoy : Registry PayloadKind Bool :=
  ⟨⟨[("Willing", .willing), ("Coy", .coy)]⟩, .empty⟩

namespace Manager

/-- Load a willing instance and a coy one. -/
def courting : Command PayloadKind Bool :=
  .load ⟨[⟨"Willing", none, []⟩, ⟨"Coy", none, []⟩]⟩ .willingAndCoy .empty

/-- The manager after some calls of a new one. -/
def courted (commands : List (Command PayloadKind Bool)) :
    Manager PayloadKind Bool × Env Bool :=
  lead commands (.empty, ⟨false, .empty⟩)

/-- The life of a manager that is initialized twice, since the first time has failed. -/
def courtship : List (Episode PayloadKind Bool) :=
  [courting.episode (courted []) [],
    Command.init.episode (courted [courting]) (Round.init.marks (courted [courting])),
    Command.init.episode (courted [courting, .init])
      (Round.init.marks (courted [courting, .init]))]

theorem life_courtship : Life courtship (courted [courting, .init, .init]).1 := by
  have start : Life [] (courted []).1 := .born
  have loaded : Life _ (courted [courting]).1 := start.call_lead .load
  have failed : Life _ (courted [courting, .init]).1 := loaded.call_lead .init
  exact failed.call_lead .init

/-- The willing instance is initialized twice, once more than the round has failed. -/
theorem calls_le_failures_courtship :
    callsOf .init 0 (lifeMarks courtship) = 2 ∧
      callsOf .init 0 (lifeMarks courtship)
        ≤ courtship.countP (Episode.fails .init) + 1 := by
  exact ⟨by decide +kernel, (life_courtship.calls_le_failures 0).1⟩

/-- An initializing hook may be called more than once. -/
theorem not_called_at_most_once :
    ¬ ∀ (episodes : List (Episode PayloadKind Bool)) (manager : Manager PayloadKind Bool),
        Life episodes manager → ∀ index, callsOf .init index (lifeMarks episodes) ≤ 1 := by
  intro at_most_once
  have twice : callsOf .init 0 (lifeMarks courtship) = 2 := by decide +kernel
  have once := at_most_once _ _ life_courtship 0
  omega

end Manager

end DetectorSim
