import DetectorSim.Builtin.Payload
import DetectorSim.Proofs.Module.Loading

/-!
# Which requests prevail

Requests for one place are told apart by how specific they are.  Loading decides
them one after the other, by replacing, dropping and refusing; here it is shown
that this comes to what can be said without any order: the request that outranks
all others for its place prevails.
-/

set_option autoImplicit false

namespace DetectorSim

open Config

namespace Priority

theorem overrides_iff {a b : Priority} : a.overrides b ↔ b.precedence < a.precedence :=
  decide_eq_true_iff

theorem overrides_trans {a b c : Priority} (first : a.overrides b) (second : b.overrides c) :
    a.overrides c := by
  rw [overrides_iff] at *
  omega

theorem overrides_asymm {a b : Priority} (more : a.overrides b) : ¬ b.overrides a := by
  rw [overrides_iff] at *
  omega

end Priority

namespace Request

variable {κ ω : Type} [Payload κ]

/-- A request outranks another one if they are for different places or it is more
specific. -/
def Outranks (a b : Request κ ω) : Prop :=
  a.key = b.key → a.priority.overrides b.priority

instance (a b : Request κ ω) : Decidable (a.Outranks b) :=
  inferInstanceAs (Decidable (_ → _))

theorem not_outranks {a b : Request κ ω} (same : a.key = b.key)
    (more : b.priority.overrides a.priority) : ¬ a.Outranks b :=
  fun outranks => Priority.overrides_asymm more (outranks same)

/-- The requests that outrank all before them, where some went before the list. -/
def leading (earlier : List (Request κ ω)) : List (Request κ ω) → List (Request κ ω)
  | [] => []
  | request :: later =>
      if ∀ other ∈ earlier, request.Outranks other then
        request :: leading (earlier ++ [request]) later
      else leading (earlier ++ [request]) later

/-- The requests that outrank all others, where some went before the list. -/
def prevailing (earlier : List (Request κ ω)) : List (Request κ ω) → List (Request κ ω)
  | [] => []
  | request :: later =>
      if ∀ other ∈ earlier ++ later, request.Outranks other then
        request :: prevailing (earlier ++ [request]) later
      else prevailing (earlier ++ [request]) later

variable {earlier requests : List (Request κ ω)} {request other : Request κ ω}

theorem leading_concat (earlier requests : List (Request κ ω)) (request : Request κ ω) :
    leading earlier (requests ++ [request])
      = leading earlier requests
        ++ if ∀ other ∈ earlier ++ requests, request.Outranks other then [request] else [] := by
  induction requests generalizing earlier with
  | nil => simp [leading]
  | cons first rest ih =>
    have step := ih (earlier ++ [first])
    simp only [List.append_assoc, List.singleton_append] at step
    simp only [List.cons_append, leading, step]
    split <;> rfl

theorem prevailing_concat (earlier requests : List (Request κ ω)) (request : Request κ ω) :
    prevailing earlier (requests ++ [request])
      = (prevailing earlier requests).filter (fun other => other.Outranks request)
        ++ if ∀ other ∈ earlier ++ requests, request.Outranks other then [request] else [] := by
  induction requests generalizing earlier with
  | nil => simp [prevailing]
  | cons first rest ih =>
    have step := ih (earlier ++ [first])
    simp only [List.append_assoc, List.singleton_append] at step
    simp only [List.cons_append, prevailing, step]
    by_cases so : ∀ other ∈ earlier ++ rest, first.Outranks other
    · rw [if_pos so]
      by_cases still : first.Outranks request
      · rw [if_pos, List.filter_cons_of_pos (by simpa using still), List.cons_append]
        intro other among
        rw [← List.append_assoc, List.mem_append, List.mem_singleton] at among
        rcases among with among | rfl
        · exact so other among
        · exact still
      · rw [if_neg, List.filter_cons_of_neg (by simpa using still)]
        exact fun all => still (all request (by simp))
    · rw [if_neg so, if_neg]
      exact fun all => so fun other among => all other (by
        rw [← List.append_assoc]
        exact List.mem_append_left _ among)

/-- A request prevails if it outranks all that is left without it. -/
theorem mem_prevailing_iff :
    request ∈ prevailing earlier requests ↔
      ∃ others, requests.Perm (request :: others) ∧
        ∀ other ∈ earlier ++ others, request.Outranks other := by
  induction requests generalizing earlier with
  | nil =>
    refine ⟨nofun, fun ⟨others, perm, _⟩ => ?_⟩
    exact absurd perm.length_eq (by simp)
  | cons first rest ih =>
    have later : request ∈ prevailing (earlier ++ [first]) rest ↔
        ∃ others, rest.Perm (request :: others) ∧
          ∀ other ∈ earlier ++ first :: others, request.Outranks other := by
      simpa using @ih (earlier ++ [first])
    have turn : request ∈ prevailing earlier (first :: rest) ↔
        (request = first ∧ ∀ other ∈ earlier ++ rest, first.Outranks other) ∨
          request ∈ prevailing (earlier ++ [first]) rest := by
      simp only [prevailing]
      by_cases so : ∀ other ∈ earlier ++ rest, first.Outranks other
      · rw [if_pos so, List.mem_cons, and_iff_left so]
      · rw [if_neg so, or_iff_right fun both => so both.2]
    rw [turn, later]
    constructor
    · rintro (⟨rfl, all⟩ | ⟨others, perm, all⟩)
      · exact ⟨rest, .refl _, all⟩
      · exact ⟨first :: others, (perm.cons first).trans (.swap request first others), all⟩
    · rintro ⟨others, perm, all⟩
      have all_of {left : List (Request κ ω)} (same : left.Perm others) :
          ∀ other ∈ earlier ++ left, request.Outranks other := fun other among =>
        all other ((same.append_left earlier).mem_iff.mp among)
      rcases List.mem_cons.mp (perm.mem_iff.mpr List.mem_cons_self) with rfl | among
      · exact .inl ⟨rfl, all_of perm.cons_inv⟩
      · obtain ⟨front, back, rfl⟩ := List.append_of_mem among
        have apart : (front ++ request :: back).Perm (request :: (front ++ back)) :=
          List.perm_middle
        have same := ((apart.cons first).trans (.swap request first _)).symm.trans perm
        exact .inr ⟨front ++ back, apart, all_of same.cons_inv⟩

theorem mem_of_mem_prevailing (prevails : request ∈ prevailing [] requests) :
    request ∈ requests := by
  obtain ⟨others, perm, _⟩ := mem_prevailing_iff.mp prevails
  exact perm.mem_iff.mpr List.mem_cons_self

/-- A request that prevails outranks every other one. -/
theorem outranks_of_mem_prevailing (prevails : request ∈ prevailing [] requests)
    (among : other ∈ requests) : other = request ∨ request.Outranks other := by
  obtain ⟨others, perm, all⟩ := mem_prevailing_iff.mp prevails
  exact (List.mem_cons.mp (perm.mem_iff.mp among)).imp_right fun left => all other left

/-- Only one request prevails for each place. -/
theorem nodup_key_prevailing (earlier requests : List (Request κ ω)) :
    ((prevailing earlier requests).map key).Nodup := by
  induction requests generalizing earlier with
  | nil => exact .nil
  | cons first rest ih =>
    unfold prevailing
    split
    · next all =>
      refine List.nodup_cons.mpr ⟨fun used => ?_, ih _⟩
      obtain ⟨rival, prevails, same⟩ := List.mem_map.mp used
      obtain ⟨others, perm, outranks⟩ := mem_prevailing_iff.mp prevails
      have more := outranks first (by simp) same
      have less := all rival (by simp [perm.mem_iff]) same.symm
      exact Priority.overrides_asymm more less
    · exact ih _

/-- Which requests prevail does not depend on their order. -/
theorem prevailing_perm {others : List (Request κ ω)} (perm : requests.Perm others) :
    (prevailing [] requests).Perm (prevailing [] others) := by
  refine (List.perm_ext_iff_of_nodup (nodup_key_prevailing [] requests).of_map
    (nodup_key_prevailing [] others).of_map).mpr fun request => ?_
  rw [mem_prevailing_iff, mem_prevailing_iff]
  exact exists_congr fun left => and_congr (perm.congr_left _) Iff.rfl

end Request

namespace Manager

variable {κ ω : Type} [Payload κ] [DecidableEq κ]

/-- The requests of `done` are decided: factories were called for those that
outranked all before them, and the instances come from the calls for those that
prevail, in order. -/
structure Settled (done : List (Request κ ω))
    (made crew : List (Commission κ ω)) (manager : Manager κ ω) : Prop where
  called : made.map Commission.request = Request.leading [] done
  prevails : crew.map Commission.request = Request.prevailing [] done
  among : crew.Sublist made
  built : List.Forall₂ (Commission.Yields) crew manager.instances
  /-- Every place that is asked for is held. -/
  held : ∀ request ∈ done, ∃ rival ∈ Request.prevailing [] done, rival.key = request.key

variable {geometry : Geometry} {done : List (Request κ ω)} {made crew : List (Commission κ ω)}
  {manager after : Manager κ ω} {request rival : Request κ ω}

theorem Settled.empty : Settled [] [] [] (Manager.empty : Manager κ ω) where
  called := rfl
  prevails := rfl
  among := .slnil
  built := .nil
  held _ among := nomatch among

theorem Settled.map_key_instances (settled : Settled done made crew manager) :
    manager.instances.map (fun inst => inst.identifier.key)
      = (Request.prevailing [] done).map Request.key := by
  rw [Commission.map_eq_of_yields Commission.Yields.key settled.built, ← settled.prevails,
    List.map_map]
  rfl

theorem Settled.distinct (settled : Settled done made crew manager) :
    manager.Distinct := by
  unfold Distinct
  rw [settled.map_key_instances]
  exact Request.nodup_key_prevailing [] done

theorem Settled.mem_prevailing (settled : Settled done made crew manager)
    {commission : Commission κ ω} (hired : commission ∈ crew) :
    commission.request ∈ Request.prevailing [] done :=
  settled.prevails ▸ List.mem_map_of_mem hired

/-- Who holds a place comes from a request that prevails there. -/
theorem Settled.exists_rival (settled : Settled done made crew manager)
    {inst : Instance κ ω} (holds : manager.holder? request.key = some inst) :
    ∃ rival ∈ Request.prevailing [] done, rival.key = request.key ∧
      inst.identifier.priority = rival.priority := by
  obtain ⟨there, kept⟩ := mem_of_holder? holds
  obtain ⟨commission, hired, yields⟩ := Commission.exists_yields settled.built there
  exact ⟨commission.request, settled.mem_prevailing hired, yields.key.symm.trans kept,
    yields.priority⟩

/-- Who holds a place is as specific as the request that prevails there. -/
theorem Settled.priority_eq (settled : Settled done made crew manager)
    {inst : Instance κ ω} (holds : manager.holder? request.key = some inst)
    (prevails : rival ∈ Request.prevailing [] done) (same : rival.key = request.key) :
    inst.identifier.priority = rival.priority := by
  obtain ⟨winner, wins, key, priority⟩ := settled.exists_rival holds
  rw [priority, List.inj_on_of_nodup_map (Request.nodup_key_prevailing [] done) wins prevails
    (key.trans same.symm)]

/-- A place that is asked for has a holder. -/
theorem Settled.exists_holder? (settled : Settled done made crew manager)
    (prevails : rival ∈ Request.prevailing [] done) (same : rival.key = request.key) :
    ∃ inst, manager.holder? request.key = some inst := by
  have used := List.mem_map_of_mem (f := Request.key) prevails
  rw [← settled.map_key_instances] at used
  obtain ⟨inst, there, key⟩ := List.mem_map.mp used
  rw [← same, ← key]
  exact ⟨inst, settled.distinct.holder?_eq there⟩

/-- A request that is let through outranks all before it. -/
theorem Settled.outranks_of_admits (settled : Settled done made crew manager)
    (admitted : manager.Admits request) {other : Request κ ω} (among : other ∈ done) :
    request.Outranks other := by
  intro same
  obtain ⟨rival, prevails, key⟩ := settled.held other among
  obtain ⟨inst, holds⟩ := settled.exists_holder? prevails (key.trans same.symm)
  have more := admitted inst holds
  rw [settled.priority_eq holds prevails (key.trans same.symm)] at more
  rcases Request.outranks_of_mem_prevailing prevails among with rfl | outranks
  · exact more
  · exact Priority.overrides_trans more (outranks key)

/-- A request that is let through is the only one for its place to prevail. -/
theorem Settled.outranks_iff_of_admits (settled : Settled done made crew manager)
    (admitted : manager.Admits request) (prevails : rival ∈ Request.prevailing [] done) :
    rival.Outranks request ↔ rival.key ≠ request.key := by
  refine ⟨fun outranks same => ?_, fun apart same => absurd same apart⟩
  have more := settled.outranks_of_admits admitted (Request.mem_of_mem_prevailing prevails)
  exact Priority.overrides_asymm (outranks same) (more same.symm)

theorem Settled.built_turn (settled : Settled done made crew manager)
    (admitted : manager.Admits request) {env left : Env ω} {messenger : Messenger κ ω}
    {module : Module κ ω}
    (worked : ((manager.cleared request.key).commission geometry request env).result
      = (.ok module, (messenger, left))) :
    Settled (done ++ [request])
      (made ++ [(manager.cleared request.key).commission geometry request env])
      ((crew.filter fun commission => commission.request.key ≠ request.key)
        ++ [(manager.cleared request.key).commission geometry request env])
      ((manager.cleared request.key).employ
        ((manager.cleared request.key).commission geometry request env) messenger module) where
  called := by
    rw [List.map_append, settled.called, Request.leading_concat, if_pos]
    · rfl
    · exact fun other among => settled.outranks_of_admits admitted among
  prevails := by
    rw [List.map_append, Request.prevailing_concat, if_pos]
    · rw [← settled.prevails, List.filter_map]
      refine congrArg (· ++ _) (congrArg _ (List.filter_congr fun commission hired => ?_))
      have prevails := settled.mem_prevailing hired
      exact decide_eq_decide.mpr (settled.outranks_iff_of_admits admitted prevails).symm
    · exact fun other among => settled.outranks_of_admits admitted among
  among := (List.filter_sublist.trans settled.among).append_right _
  built := by
    unfold employ
    rw [settled.distinct.instances_cleared]
    refine List.rel_append (List.rel_filter ?_ settled.built) (.cons ⟨rfl, rfl, ?_⟩ .nil)
    · intro commission inst yields
      simp only [yields.key]
    · exact congrArg Prod.fst worked
  held other among := by
    have all : ∀ other ∈ [] ++ done, request.Outranks other := fun other among =>
      settled.outranks_of_admits admitted among
    rw [Request.prevailing_concat, if_pos all]
    by_cases same : other.key = request.key
    · exact ⟨request, List.mem_append_right _ List.mem_cons_self, same.symm⟩
    · rcases List.mem_append.mp among with old | new
      · obtain ⟨rival, prevails, key⟩ := settled.held other old
        refine ⟨rival, List.mem_append_left _ (List.mem_filter.mpr ⟨prevails, ?_⟩), key⟩
        exact decide_eq_true fun clash => absurd (key.symm.trans clash) same
      · exact absurd (congrArg Request.key (List.mem_singleton.mp new)) same

theorem Settled.dropped_turn (settled : Settled done made crew manager)
    {inst : Instance κ ω} (holds : manager.holder? request.key = some inst)
    (less : inst.identifier.priority.overrides request.priority) :
    Settled (done ++ [request]) made crew manager := by
  obtain ⟨winner, wins, same, priority⟩ := settled.exists_rival holds
  have beaten : ¬ ∀ other ∈ [] ++ done, request.Outranks other := fun all =>
    Request.not_outranks same.symm (priority ▸ less)
      (all _ (Request.mem_of_mem_prevailing wins))
  have stays : (Request.prevailing [] done).filter (fun rival => rival.Outranks request)
      = Request.prevailing [] done := by
    refine List.filter_eq_self.mpr fun rival among => decide_eq_true fun key => ?_
    rw [← settled.priority_eq holds among key]
    exact less
  have winners : Request.prevailing [] (done ++ [request]) = Request.prevailing [] done := by
    rw [Request.prevailing_concat, stays, if_neg beaten, List.append_nil]
  refine ⟨?_, winners ▸ settled.prevails, settled.among, settled.built, ?_⟩
  · rw [Request.leading_concat, if_neg beaten, List.append_nil]
    exact settled.called
  · intro other among
    rw [winners]
    rcases List.mem_append.mp among with old | new
    · exact settled.held other old
    · rw [List.mem_singleton.mp new]
      exact ⟨winner, wins, same⟩

theorem Settled.turn {later : List (Commission κ ω)}
    (settled : Settled done made crew manager)
    (turn : Turn geometry request manager later (.ok ()) after) :
    ∃ crew', Settled (done ++ [request]) (made ++ later) crew' after := by
  cases turn with
  | dropped holds less =>
    rw [List.append_nil]
    exact ⟨crew, settled.dropped_turn holds less⟩
  | built admitted worked => exact ⟨_, settled.built_turn admitted worked⟩

theorem Settled.turns {requests : List (Request κ ω)} {later : List (Commission κ ω)}
    (settled : Settled done made crew manager)
    (turns : Turns geometry manager requests later (.ok ()) after) :
    ∃ crew', Settled (done ++ requests) (made ++ later) crew' after := by
  generalize fine : Outcome.ok () = ended at turns
  induction turns generalizing done made crew with
  | done manager =>
    rw [List.append_nil, List.append_nil]
    exact ⟨crew, settled⟩
  | refused => cases fine
  | next turn _ ih =>
    obtain ⟨crew', next⟩ := settled.turn turn
    rw [← List.append_assoc, List.append_cons]
    exact ih next fine
  | last _ ended => exact absurd fine.symm ended

/-! ## Configurations -/

end Manager

namespace Request

variable {κ ω : Type} [Payload κ]

/-- The requests of a section, if it is accepted. -/
def asked (registry : Registry κ ω) (geometry : Geometry) (s : Section) : List (Request κ ω) :=
  match ofSection registry geometry s with
  | .ok requests => requests
  | .error _ => []

theorem ofSections_eq_ok {registry : Registry κ ω} {geometry : Geometry}
    {sections : List Section} {requests : List (Request κ ω)}
    (listed : ofSections registry geometry sections = .ok requests) :
    requests = sections.flatMap (asked registry geometry) := by
  induction sections generalizing requests with
  | nil => exact (Except.ok.inj listed).symm
  | cons s rest ih =>
    unfold ofSections at listed
    cases first : ofSection registry geometry s with
    | error err => rw [first] at listed; cases listed
    | ok found =>
      cases later : ofSections registry geometry rest with
      | error err => rw [first, later] at listed; cases listed
      | ok others =>
        rw [first, later] at listed
        rw [List.flatMap_cons, ← ih later, asked, first]
        exact (Except.ok.inj listed).symm

end Request

namespace Commission

variable {κ ω : Type} [Payload κ]

/-- What an instance was made for, how specifically, and from which section. -/
def origin (commission : Commission κ ω) : (String × String) × Priority × Section :=
  (commission.request.key, commission.request.priority, commission.request.config)

end Commission

namespace Manager

variable {κ ω : Type} [Payload κ] [DecidableEq κ]

/-- How a configuration was resolved: which requests its sections make, and from
which factory calls, the crew, the instances come. -/
structure Resolved (reader : Reader) (registry : Registry κ ω) (geometry : Geometry)
    (env : Env ω) (requests : List (Request κ ω)) (crew : List (Commission κ ω))
    (manager : Manager κ ω) : Prop where
  listed : Request.ofSections registry geometry reader.moduleSections = .ok requests
  /-- A factory was called exactly for the requests that outranked all before. -/
  called : (loadCommissions reader registry geometry (empty, env)).map Commission.request
    = Request.leading [] requests
  among : crew.Sublist (loadCommissions reader registry geometry (empty, env))
  /-- The instances are those of the requests that outrank all others, in order. -/
  prevails : crew.map Commission.request = Request.prevailing [] requests
  built : List.Forall₂ (Commission.Yields) crew manager.instances
  distinct : (manager.instances.map fun inst => inst.identifier.key).Nodup
  complete : ∀ request ∈ requests,
    request.key ∈ manager.instances.map fun inst => inst.identifier.key

theorem exists_resolved {reader : Reader} {registry : Registry κ ω} {geometry : Geometry}
    {env left : Env ω} {manager : Manager κ ω}
    (loaded : load reader registry geometry (empty, env) = (.ok (), (manager, left))) :
    ∃ requests crew, Resolved reader registry geometry env requests crew manager := by
  obtain ⟨requests, mid, turns, same, listed⟩ := turns_of_load loaded
  obtain ⟨crew, settled⟩ := Settled.empty.turns turns
  have instances : manager.instances = mid.instances := by rw [same]
  refine ⟨requests, crew, listed rfl, settled.called, settled.among, settled.prevails,
    instances ▸ settled.built, instances ▸ settled.distinct, fun request among => ?_⟩
  obtain ⟨rival, prevails, key⟩ := settled.held request among
  rw [instances, settled.map_key_instances, ← key]
  exact List.mem_map_of_mem prevails

theorem Resolved.origin_perm {reader other : Reader} {registry : Registry κ ω}
    {geometry : Geometry} {env env' : Env ω} {requests requests' : List (Request κ ω)}
    {crew crew' : List (Commission κ ω)} {manager manager' : Manager κ ω}
    (resolved : Resolved reader registry geometry env requests crew manager)
    (resolved' : Resolved other registry geometry env' requests' crew' manager')
    (shuffled : reader.moduleSections.Perm other.moduleSections) :
    (crew.map Commission.origin).Perm (crew'.map Commission.origin) := by
  have asked : requests.Perm requests' := by
    rw [Request.ofSections_eq_ok resolved.listed, Request.ofSections_eq_ok resolved'.listed]
    exact shuffled.flatMap_right _
  have winners := Request.prevailing_perm asked
  rw [← resolved.prevails, ← resolved'.prevails] at winners
  have origins := winners.map fun request => (request.key, request.priority, request.config)
  rwa [List.map_map, List.map_map] at origins

/-- **Priority resolution.**  If a configuration is loaded, its instances are those
of the requests that outrank all others for their place, whatever was replaced and
dropped on the way; any other order of the same sections that can be loaded gives
instances of the same origins. -/
theorem resolved_of_load {reader : Reader} {registry : Registry κ ω} {geometry : Geometry}
    {env left : Env ω} {manager : Manager κ ω}
    (loaded : load reader registry geometry (empty, env) = (.ok (), (manager, left))) :
    ∃ requests crew, Resolved reader registry geometry env requests crew manager ∧
      ∀ {other : Reader} {env' left' : Env ω} {manager' : Manager κ ω},
        reader.moduleSections.Perm other.moduleSections →
        load other registry geometry (empty, env') = (.ok (), (manager', left')) →
        ∃ requests' crew', Resolved other registry geometry env' requests' crew' manager' ∧
          (crew.map Commission.origin).Perm (crew'.map Commission.origin) := by
  obtain ⟨requests, crew, resolved⟩ := exists_resolved loaded
  refine ⟨requests, crew, resolved, fun shuffled loaded' => ?_⟩
  obtain ⟨requests', crew', resolved'⟩ := exists_resolved loaded'
  exact ⟨requests', crew', resolved', resolved.origin_perm resolved' shuffled⟩

end Manager

/-! ## A configuration to try things on -/

open Builtin

/-- A module type for detectors that does nothing. -/
def Descriptor.idle : Descriptor PayloadKind Unit :=
  ⟨"Idle", .perDetector fun _ _ _ => .done Module.idle⟩

/-- The registry that has this type alone. -/
def Registry.idle : Registry PayloadKind Unit :=
  ⟨⟨[("Idle", .idle)]⟩, .empty⟩

/-- A section for all detectors. -/
def idleEverywhere : Section :=
  ⟨"Idle", none, []⟩

/-- A section for the detector on the left. -/
def idleOnTheLeft : Section :=
  ⟨"Idle", none, [("name", "left")]⟩

namespace Manager

/-- The more specific section gets the detector on the left, whether it comes first
or last. -/
theorem resolved_of_load_idle :
    ∃ requests crew requests' crew',
      Resolved ⟨[idleEverywhere, idleOnTheLeft]⟩ .idle .pair ⟨(), .empty⟩ requests crew
        (load ⟨[idleEverywhere, idleOnTheLeft]⟩ .idle .pair (empty, ⟨(), .empty⟩)).2.1 ∧
      Resolved ⟨[idleOnTheLeft, idleEverywhere]⟩ .idle .pair ⟨(), .empty⟩ requests' crew'
        (load ⟨[idleOnTheLeft, idleEverywhere]⟩ .idle .pair (empty, ⟨(), .empty⟩)).2.1 ∧
      crew.map Commission.origin
        = [(("Idle", "right"), .wildcard, idleEverywhere),
          (("Idle", "left"), .name, idleOnTheLeft)] ∧
      (crew.map Commission.origin).Perm (crew'.map Commission.origin) := by
  have first : (load ⟨[idleEverywhere, idleOnTheLeft]⟩ Registry.idle .pair
      (empty, ⟨(), .empty⟩)).1 = .ok () := by decide +kernel
  have second : (load ⟨[idleOnTheLeft, idleEverywhere]⟩ Registry.idle .pair
      (empty, ⟨(), .empty⟩)).1 = .ok () := by decide +kernel
  obtain ⟨requests, crew, resolved, others⟩ := resolved_of_load (Proc.eq_of_fst_eq first)
  have shuffled : (Reader.mk [idleEverywhere, idleOnTheLeft]).moduleSections.Perm
      (Reader.mk [idleOnTheLeft, idleEverywhere]).moduleSections :=
    (List.Perm.swap idleOnTheLeft idleEverywhere []).filter _
  obtain ⟨requests', crew', resolved', same⟩ := others shuffled (Proc.eq_of_fst_eq second)
  refine ⟨requests, crew, requests', crew', resolved, resolved', ?_, same⟩
  calc crew.map Commission.origin
      = (crew.map Commission.request).map fun request =>
          (request.key, request.priority, request.config) := by rw [List.map_map]; rfl
    _ = (Request.prevailing [] ([idleEverywhere, idleOnTheLeft].flatMap
          (Request.asked .idle .pair))).map fun request =>
            (request.key, request.priority, request.config) := by
        rw [resolved.prevails, Request.ofSections_eq_ok resolved.listed]
        rfl
    _ = _ := by decide +kernel

end Manager

end DetectorSim
