import DetectorSim.Proofs.Module.Lifecycle
import DetectorSim.Proofs.Module.Precedence
import DetectorSim.Proofs.Module.Tidiness

/-!
# What a load that fails leaves

Loading ends at the first request that fails, and takes nothing back: the instances that
were made before stay in the list, with their delegates.  The manager still counts as
empty, so another configuration may be loaded into it.  That load does not start over; it
goes on from the instances that are there, as if their requests came before its own.
-/

set_option autoImplicit false

namespace DetectorSim

open Config

/-! ## Requests for different places -/

namespace Request

variable {κ ω : Type} [Payload κ] {earlier requests : List (Request κ ω)}

theorem outranks_of_ne {a b : Request κ ω} (apart : a.key ≠ b.key) : a.Outranks b :=
  fun same => absurd same apart

/-- Where no two requests are for one place, all lead. -/
theorem leading_of_nodup (apart : ((earlier ++ requests).map key).Nodup) :
    leading earlier requests = requests := by
  induction requests generalizing earlier with
  | nil => rfl
  | cons first rest ih =>
    have outranks : ∀ other ∈ earlier, first.Outranks other := by
      rw [List.map_append] at apart
      intro other among
      exact outranks_of_ne ((List.nodup_append.mp apart).2.2 _ (List.mem_map_of_mem among) _
        (List.mem_map_of_mem List.mem_cons_self)).symm
    rw [leading, if_pos outranks, ih]
    rwa [List.append_assoc]

/-- Where no two requests are for one place, all prevail. -/
theorem prevailing_of_nodup (apart : ((earlier ++ requests).map key).Nodup) :
    prevailing earlier requests = requests := by
  induction requests generalizing earlier with
  | nil => rfl
  | cons first rest ih =>
    have others : ((first :: (earlier ++ rest)).map key).Nodup :=
      ((List.perm_middle.map key).nodup_iff).mp apart
    have outranks : ∀ other ∈ earlier ++ rest, first.Outranks other := by
      intro other among
      refine outranks_of_ne fun same => (List.nodup_cons.mp others).1 ?_
      exact List.mem_map.mpr ⟨other, among, same.symm⟩
    rw [prevailing, if_pos outranks, ih]
    rwa [List.append_assoc]

end Request

namespace Manager

variable {κ ω : Type} [Payload κ] [DecidableEq κ] {made crew : List (Commission κ ω)}
  {manager after : Manager κ ω} {episodes : List (Episode κ ω)} {env left : Env ω}
  {reader : Reader} {registry : Registry κ ω} {geometry : Geometry}

/-! ## Going on from instances that are there -/

/-- Instances that are there are what the requests of their factory calls, and no others,
would have led to. -/
theorem Tidy.settled (tidy : Tidy made crew manager) (distinct : manager.Distinct) :
    Settled (crew.map Commission.request) crew crew manager := by
  have keys : ((crew.map Commission.request).map Request.key).Nodup := by
    have apart : (manager.instances.map fun inst => inst.identifier.key).Nodup := distinct
    rwa [Commission.map_eq_of_yields Commission.Yields.key tidy.built, ← Function.comp_def,
      ← List.map_map] at apart
  have prevails : Request.prevailing [] (crew.map Commission.request)
      = crew.map Commission.request := Request.prevailing_of_nodup keys
  refine ⟨(Request.leading_of_nodup keys).symm, prevails.symm, .refl _, tidy.built,
    fun request among => ?_⟩
  rw [prevails]
  exact ⟨request, among, rfl⟩

/-- A load that succeeds gives the instances of the requests that prevail, where those of
the instances that were there come first. -/
theorem Tidy.identifiers_of_load (tidy : Tidy made crew manager) (distinct : manager.Distinct)
    (loaded : load reader registry geometry (manager, env) = (.ok (), (after, left))) :
    ∃ requests, Request.ofSections registry geometry reader.moduleSections = .ok requests ∧
      after.instances.map Instance.identifier
        = (Request.prevailing [] (crew.map Commission.request ++ requests)).map fun request =>
            request.target.identifier := by
  obtain ⟨requests, mid, turns, same, listed⟩ := turns_of_load loaded
  obtain ⟨crew', settled⟩ := (tidy.settled distinct).turns turns
  refine ⟨requests, listed rfl, ?_⟩
  have instances : after.instances = mid.instances := by rw [same]
  rw [instances, ← settled.prevails, List.map_map]
  exact Commission.map_eq_of_yields Commission.Yields.identifier settled.built

theorem Loaded.distinct (loaded : Loaded made manager) : manager.Distinct := by
  obtain ⟨crew, staffed⟩ := loaded.exists_staffed
  exact staffed.distinct

/-! ## Lives of managers that count as empty -/

/-- The factory calls of a call of the manager. -/
def Episode.commissions (episode : Episode κ ω) : List (Commission κ ω) :=
  match episode.command with
  | .load reader registry geometry => loadCommissions reader registry geometry episode.before
  | _ => []

/-- What is there while a manager counts as empty: which calls were made, and which of
their factory calls, the crew, have left instances. -/
structure Remnant (episodes : List (Episode κ ω)) (crew : List (Commission κ ω))
    (manager : Manager κ ω) : Prop where
  /-- Nothing was seen of any call; each was refused or was a load that failed. -/
  calls : ∀ episode ∈ episodes, episode.marks = [] ∧
    ((∃ text, episode.outcome = .error (.logic text)) ∧ episode.after = episode.before ∨
      ∃ reader registry geometry err, episode.command = .load reader registry geometry ∧
        episode.outcome = .error err)
  /-- The instances are those of the crew, and there are no delegates but theirs. -/
  tidy : Tidy (episodes.flatMap Episode.commissions) crew manager
  /-- A load that succeeds goes on from there. -/
  next : ∀ {reader : Reader} {registry : Registry κ ω} {geometry : Geometry} {env left : Env ω}
      {after : Manager κ ω},
    load reader registry geometry (manager, env) = (.ok (), (after, left)) →
    ∃ requests, Request.ofSections registry geometry reader.moduleSections = .ok requests ∧
      after.instances.map Instance.identifier
        = (Request.prevailing [] (crew.map Commission.request ++ requests)).map fun request =>
            request.target.identifier
  /-- Where no instance was left, no delegate was, and a load that succeeds gives the same
  instances as one into a new manager. -/
  clean : manager.instances = [] → manager.messenger.delegateCount = 0 ∧
    ∀ {reader : Reader} {registry : Registry κ ω} {geometry : Geometry}
      {env left env' left' : Env ω} {after after' : Manager κ ω},
    load reader registry geometry (manager, env) = (.ok (), (after, left)) →
    load reader registry geometry (empty, env') = (.ok (), (after', left')) →
    after.instances.map Instance.identifier = after'.instances.map Instance.identifier

/-- A manager that counts as empty has done so all along. -/
theorem Life.state_before (life : Life episodes manager) (fresh : manager.state = .empty) :
    ∀ episode ∈ episodes,
      episode.before.1.state = .empty ∧ episode.after.1.state = .empty := by
  intro episode among
  have below := (life.reached episode among).1
  have climbs := (life.effect episode among).climbs
  rw [fresh] at below
  -- Ranks never fall, so none was above zero before.
  rw [← ManagerState.rank_eq_zero_iff, ← ManagerState.rank_eq_zero_iff]
  have zero : ManagerState.empty.rank = 0 := rfl
  omega

/-- Such a manager was only loaded, each time without success. -/
theorem Life.loaded (life : Life episodes manager) (fresh : manager.state = .empty)
    (calm : ∀ episode ∈ episodes, ∀ text, episode.outcome ≠ .panic text) :
    Loaded (episodes.flatMap Episode.commissions) manager := by
  have all := life
  induction life with
  | born => exact .empty
  | @call episodes manager command marks earlier env shows ih =>
    have last := List.mem_append_right episodes
      (List.mem_singleton_self (command.episode (manager, env) marks))
    have before : manager.state = .empty := (all.state_before fresh _ last).1
    have loaded := ih before (fun episode among => calm episode (List.mem_append_left _ among))
      earlier
    rw [List.flatMap_append, List.flatMap_singleton]
    have refused (wrong : manager.state ≠ command.needs) :
        command.perform (manager, env) = (_, (manager, env)) :=
      Prod.ext rfl (shows.effect.of_wrong wrong).2.2
    cases command with
    | load reader registry geometry => exact loaded.load rfl (calm _ last)
    | _ =>
      rw [refused (by rw [before]; nofun)]
      rwa [show Episode.commissions _ = [] from rfl, List.append_nil]

theorem Life.calls_of_empty (life : Life episodes manager) (fresh : manager.state = .empty)
    (calm : ∀ episode ∈ episodes, ∀ text, episode.outcome ≠ .panic text)
    {episode : Episode κ ω} (among : episode ∈ episodes) : episode.marks = [] ∧
      ((∃ text, episode.outcome = .error (.logic text)) ∧ episode.after = episode.before ∨
        ∃ reader registry geometry err, episode.command = .load reader registry geometry ∧
          episode.outcome = .error err) := by
  obtain ⟨command, start, marks, outcome, ended⟩ := episode
  obtain ⟨before, after⟩ : start.1.state = .empty ∧ ended.1.state = .empty :=
    life.state_before fresh _ among
  have effect : Effect start command marks outcome ended := life.effect _ among
  have quiet : ∀ text, outcome ≠ .panic text := calm _ among
  have silent : marks = [] := by
    by_contra seen
    exact effect.filled seen before
  refine ⟨silent, ?_⟩
  by_cases due : start.1.state = command.needs
  · cases command with
    | load reader registry geometry =>
      cases effect with
      | refused wrong => exact absurd due wrong
      | loaded _ now => cases now.symm.trans after
      | unloaded _ failed =>
        cases outcome with
        | ok => exact absurd rfl failed
        | error err => exact .inr ⟨reader, registry, geometry, err, rfl, rfl⟩
        | panic text => exact absurd rfl (quiet text)
      | broken makes => cases makes
      | completed makes => cases makes
    | _ => cases before.symm.trans due
  · exact .inl ((effect.of_wrong due).imp id And.right)

/-- **An empty manager need not be without instances.**  As long as a manager counts as
empty, only loads that failed and calls that were refused were made of it.  What those
loads have built is still there, with its delegates and nothing else, and a load that
succeeds goes on from it. -/
theorem Life.remnant (life : Life episodes manager) (fresh : manager.state = .empty)
    (calm : ∀ episode ∈ episodes, ∀ text, episode.outcome ≠ .panic text) :
    ∃ crew, Remnant episodes crew manager := by
  have loaded := life.loaded fresh calm
  have distinct := loaded.distinct
  obtain ⟨crew, tidy⟩ := loaded.tidy
  refine ⟨crew, fun episode among => life.calls_of_empty fresh calm among, tidy,
    fun loads => tidy.identifiers_of_load distinct loads, fun hollow => ?_⟩
  have nobody : crew = [] := by
    have built := tidy.built
    rw [hollow] at built
    exact List.forall₂_nil_right_iff.mp built
  subst nobody
  refine ⟨tidy.counted, fun loads other => ?_⟩
  obtain ⟨requests, listed, same⟩ := tidy.identifiers_of_load distinct loads
  obtain ⟨requests', crew', resolved, -⟩ := resolved_of_load other
  obtain rfl := Except.ok.inj (listed.symm.trans resolved.listed)
  rw [same, Commission.map_eq_of_yields Commission.Yields.identifier resolved.built,
    List.map_nil, List.nil_append, ← resolved.prevails, List.map_map]
  rfl

end Manager

/-! ## A load that fails, and another one -/

open Builtin

/-- A section for all detectors that does not fail. -/
def watchEverywhere : Reader :=
  ⟨[⟨"Watch", none, []⟩]⟩

namespace Manager

/-- The load that leaves the instance on the right. -/
def failingLoad : Episode PayloadKind Unit :=
  Command.episode (.load watchAndFail .watch .pair) (empty, ⟨(), .empty⟩) []

theorem life_watching : Life [failingLoad] watching := by
  have shows : (Command.load watchAndFail .watch .pair).Shows (empty, ⟨(), .empty⟩) [] := .load
  have leaves : ((Command.load watchAndFail .watch .pair).perform (empty, ⟨(), .empty⟩)).2.1
      = watching := by
    rw [watching, Command.perform]
  rw [← leaves]
  exact Life.born.call ⟨(), .empty⟩ shows

theorem outcome_failingLoad : failingLoad.outcome
    = .error (.inModule "Watch:left" .construction (.runtime "told to")) := by
  decide +kernel

/-- What the load has left makes the next one fail, which a new manager would take. -/
theorem remnant_watching :
    ∃ crew, Remnant [failingLoad] crew watching ∧ watching.state = .empty ∧
      watching.instances.map Instance.name = ["Watch:right"] ∧
      (load watchEverywhere .watch .pair (watching, ⟨(), .empty⟩)).1
        = .error (.ambiguousInstance "Watch" "right") ∧
      (load watchEverywhere .watch .pair (empty, ⟨(), .empty⟩)).1 = .ok () := by
  have fresh : watching.state = .empty := by decide +kernel
  have calm : ∀ episode ∈ [failingLoad], ∀ text, episode.outcome ≠ .panic text := by
    intro episode among text
    rw [List.mem_singleton.mp among, outcome_failingLoad]
    nofun
  obtain ⟨crew, remnant⟩ := life_watching.remnant fresh calm
  exact ⟨crew, remnant, fresh, by decide +kernel, by decide +kernel, by decide +kernel⟩

/-- A manager that counts as empty may have instances and delegates. -/
theorem not_hollow_while_empty :
    ¬ ∀ (episodes : List (Episode PayloadKind Unit)) (manager : Manager PayloadKind Unit),
      Life episodes manager → manager.state = .empty →
        manager.instances = [] ∧ manager.messenger.delegateCount = 0 := by
  intro always
  have fresh : watching.state = .empty := by decide +kernel
  have some_left : watching.messenger.delegateCount = 2 := by decide +kernel
  rw [(always _ _ life_watching fresh).2] at some_left
  cases some_left

end Manager
end DetectorSim
