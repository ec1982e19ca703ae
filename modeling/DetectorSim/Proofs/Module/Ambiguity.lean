import DetectorSim.Proofs.Module.Precedence

/-!
# Ambiguous configurations

A request is refused if it is as specific as the instance that has its place.  As
that instance comes from the most specific request so far, the verdict on a
configuration can be read off its requests: it is ambiguous if two of them are for
one place and equally specific, and nothing before the later one is more specific
there.  So it can depend on the order of the sections whether a configuration is
ambiguous, but only while the two are outranked by a third.
-/

set_option autoImplicit false

namespace DetectorSim

open Config

/-! ## Requests that tie -/

namespace Request

variable {κ ω : Type} [Payload κ]

/-- The place that is asked for, and how specific the request is. -/
def rank (request : Request κ ω) : (String × String) × Priority :=
  (request.key, request.priority)

/-- A request ties with one before it if both have the same rank and nothing before
it is more specific for the place. -/
def Ties (request : Request κ ω) (earlier : List (Request κ ω)) : Prop :=
  (∃ other ∈ earlier, other.rank = request.rank) ∧
    ∀ third ∈ earlier, third.key = request.key → ¬ third.priority.overrides request.priority

instance (request : Request κ ω) (earlier : List (Request κ ω)) :
    Decidable (request.Ties earlier) :=
  inferInstanceAs (Decidable (_ ∧ _))

/-- Some requests are contested if one of them ties with one before it. -/
def Contested (requests : List (Request κ ω)) : Prop :=
  ∃ front request back, requests = front ++ request :: back ∧ request.Ties front

/-- The requests that none is more specific than for their place. -/
def topmost (requests : List (Request κ ω)) : List (Request κ ω) :=
  requests.filter fun request => ∀ third ∈ requests, third.key = request.key →
    ¬ third.priority.overrides request.priority

/-- Some requests are deadlocked if two of the topmost have the same rank. -/
def Deadlocked (requests : List (Request κ ω)) : Prop :=
  ¬ ((topmost requests).map rank).Nodup

/-- What comes of some requests if no factory fails, where some went before. -/
def verdict (earlier : List (Request κ ω)) : List (Request κ ω) → Outcome Unit
  | [] => .ok ()
  | request :: later =>
      if request.Ties earlier then .error request.ambiguity
      else verdict (earlier ++ [request]) later

variable {earlier requests others : List (Request κ ω)} {request : Request κ ω}

theorem verdict_append (earlier requests others : List (Request κ ω)) :
    verdict earlier (requests ++ others)
      = match verdict earlier requests with
        | .ok () => verdict (earlier ++ requests) others
        | refused => refused := by
  induction requests generalizing earlier with
  | nil => simp [verdict]
  | cons first rest ih =>
    simp only [List.cons_append, verdict]
    split
    · rfl
    · rw [ih, List.append_assoc, List.singleton_append]

theorem verdict_eq_ok_or_ambiguity (earlier requests : List (Request κ ω)) :
    (verdict earlier requests = .ok () ∧
      ∀ front request back, requests = front ++ request :: back →
        ¬ request.Ties (earlier ++ front)) ∨
    ∃ front request back, requests = front ++ request :: back ∧
      request.Ties (earlier ++ front) ∧ verdict earlier requests = .error request.ambiguity := by
  induction requests generalizing earlier with
  | nil => exact .inl ⟨rfl, fun front request back split => by simp at split⟩
  | cons first rest ih =>
    by_cases ties : first.Ties earlier
    · refine .inr ⟨[], first, rest, rfl, ?_, by simp only [verdict, if_pos ties]⟩
      rwa [List.append_nil]
    · rw [verdict, if_neg ties]
      rcases ih (earlier ++ [first]) with ⟨fine, none⟩ | ⟨front, request, back, split, tie, refused⟩
      · refine .inl ⟨fine, fun front request back split => ?_⟩
        cases front with
        | nil =>
          obtain ⟨rfl, rfl⟩ := List.cons.inj split
          rwa [List.append_nil]
        | cons head front =>
          obtain ⟨rfl, rest_eq⟩ := List.cons.inj split
          simpa using none front request back rest_eq
      · exact .inr ⟨first :: front, request, back, by rw [split]; rfl, by simpa using tie, refused⟩

/-- Requests of the same rank are for one place and equally specific. -/
theorem rank_eq_iff {one other : Request κ ω} :
    one.rank = other.rank ↔ one.key = other.key ∧ one.priority = other.priority :=
  Prod.mk.injEq _ _ _ _ ▸ Iff.rfl

/-- A contested list has two requests of the same rank. -/
theorem Contested.not_nodup (contested : Contested requests) :
    ¬ (requests.map rank).Nodup := by
  obtain ⟨front, request, back, rfl, ⟨other, among, same⟩, -⟩ := contested
  rw [List.map_append, List.map_cons, List.nodup_append]
  rintro ⟨-, -, apart⟩
  exact apart _ (List.mem_map_of_mem among) _ List.mem_cons_self same

theorem Contested.append (contested : Contested requests) (others : List (Request κ ω)) :
    Contested (requests ++ others) := by
  obtain ⟨front, request, back, rfl, ties⟩ := contested
  exact ⟨front, request, back ++ others, by simp, ties⟩

/-- Two requests of the same rank contest if nothing before the later one is more
specific for the place. -/
theorem contested_of_rank_eq {front back : List (Request κ ω)} {other : Request κ ω}
    (split : requests = front ++ request :: back) (among : other ∈ front)
    (same : other.rank = request.rank)
    (level : ∀ third ∈ front, third.key = request.key → third.priority = request.priority) :
    Contested requests := by
  refine ⟨front, request, back, split, ⟨other, among, same⟩, fun third before key => ?_⟩
  rw [level third before key, Priority.overrides_iff]
  exact Nat.lt_irrefl _

/-- Deadlocked requests are contested, in any order. -/
theorem Deadlocked.contested (deadlocked : Deadlocked requests) (perm : requests.Perm others) :
    Contested others := by
  have top : (topmost requests).Perm (topmost others) := by
    unfold topmost
    simp only [perm.mem_iff]
    exact perm.filter _
  have shared : ¬ ((topmost others).map rank).Nodup := by
    rwa [← (top.map rank).nodup_iff]
  obtain ⟨front, request, back, split, other, among, same⟩ :=
    List.exists_split_of_not_nodup_map shared
  obtain ⟨before, after, rfl, rfl, kept⟩ := List.filter_eq_append_iff.mp split
  obtain ⟨passed, later, rfl, -, tops, -⟩ := List.filter_eq_cons_iff.mp kept
  refine ⟨before ++ passed, request, later, by simp, ⟨other, ?_, same⟩, fun third early => ?_⟩
  · exact List.mem_append_left _ (List.mem_filter.mp among).1
  · exact of_decide_eq_true tops third (by
      rw [← List.append_assoc]
      exact List.mem_append_left _ early)

theorem contested_iff_verdict :
    Contested requests ↔ ∃ module detector,
      verdict [] requests = .error (.ambiguousInstance module detector) := by
  rcases verdict_eq_ok_or_ambiguity [] requests with
    ⟨fine, none⟩ | ⟨front, request, back, split, ties, refused⟩
  · constructor
    · rintro ⟨front, request, back, split, ties⟩
      exact absurd ties (none front request back split)
    · rintro ⟨module, detector, refused⟩
      rw [fine] at refused
      cases refused
  · exact ⟨fun _ => ⟨_, _, refused⟩, fun _ => ⟨front, request, back, split, ties⟩⟩

end Request

/-! ## Requests of one section -/

theorem Geometry.name_of_detector (geometry : Geometry) {name : String} {detector : Detector}
    (found : geometry.detector name = .ok detector) : detector.name = name := by
  unfold Geometry.detector Geometry.find? at found
  split at found
  · next known =>
    obtain rfl := Except.ok.inj found
    simpa using List.find?_some known
  · cases found

namespace Target

variable {module : String} {geometry : Geometry}

/-- Targets that are selected by name have that priority, and their detectors are
among the names. -/
theorem of_mem_byName {names : List String} {targets : List Target}
    (found : byName module geometry names = .ok targets) {target : Target}
    (among : target ∈ targets) :
    target.identifier.priority = .name ∧ target.identifier.detector ∈ names := by
  induction names generalizing targets with
  | nil =>
    obtain rfl := Except.ok.inj found
    cases among
  | cons name rest ih =>
    obtain ⟨detector, known, found⟩ := Except.bind_eq_ok_iff.mp found
    obtain ⟨others, later, found⟩ := Except.bind_eq_ok_iff.mp found
    obtain rfl := Except.ok.inj found
    rcases List.mem_cons.mp among with rfl | among
    · exact ⟨rfl, geometry.name_of_detector known ▸ List.mem_cons_self⟩
    · exact (ih later among).imp_right (List.mem_cons_of_mem name)

/-- Targets that are selected by type have that priority, and their detectors are not
among the names. -/
theorem of_mem_byType {names types : List String} {targets : List Target}
    (found : byType module geometry names types = .ok targets) {target : Target}
    (among : target ∈ targets) :
    target.identifier.priority = .type ∧ target.identifier.detector ∉ names := by
  induction types generalizing targets with
  | nil =>
    obtain rfl := Except.ok.inj found
    cases among
  | cons type rest ih =>
    obtain ⟨detectors, -, found⟩ := Except.bind_eq_ok_iff.mp found
    obtain ⟨others, later, found⟩ := Except.bind_eq_ok_iff.mp found
    obtain rfl := Except.ok.inj found
    rcases List.mem_append.mp among with among | among
    · obtain ⟨detector, listed, rfl⟩ := List.mem_map.mp among
      have unnamed := (List.mem_filter.mp listed).2
      exact ⟨rfl, by simpa [forDetector] using unnamed⟩
    · exact ih later among

/-- In one section the detector decides how specific a target is. -/
theorem exists_rule {κ ω : Type} [Payload κ] {descriptor : Descriptor κ ω} {s : Section}
    {targets : List Target} (found : ofSection descriptor s geometry = .ok targets) :
    ∃ rule : String → Priority, ∀ target ∈ targets,
      target.identifier.priority = rule target.identifier.detector := by
  unfold ofSection at found
  split at found
  · obtain rfl := Except.ok.inj found
    refine ⟨fun _ => .wildcard, fun target among => ?_⟩
    rw [List.mem_singleton.mp among]
    rfl
  · obtain ⟨names, names_eq, found⟩ := Except.bind_eq_ok_iff.mp found
    obtain ⟨named, named_eq, found⟩ := Except.bind_eq_ok_iff.mp found
    obtain ⟨types, types_eq, found⟩ := Except.bind_eq_ok_iff.mp found
    obtain ⟨typed, typed_eq, found⟩ := Except.bind_eq_ok_iff.mp found
    obtain rfl := Except.ok.inj found
    by_cases chosen : s.has "name" || s.has "type"
    · rw [if_pos chosen]
      refine ⟨fun detector => if detector ∈ names then .name else .type, fun target among => ?_⟩
      rcases List.mem_append.mp (List.append_nil _ ▸ among) with among | among
      · obtain ⟨selected, inside⟩ := of_mem_byName named_eq among
        exact selected.trans (if_pos inside).symm
      · obtain ⟨selected, outside⟩ := of_mem_byType typed_eq among
        exact selected.trans (if_neg outside).symm
    · -- Without names and types both lists are empty.
      have unnamed : s.has "name" = false := by simp_all
      have untyped : s.has "type" = false := by simp_all
      obtain rfl : [] = names := by simpa [listed, unnamed] using names_eq
      obtain rfl : [] = types := by simpa [listed, untyped] using types_eq
      obtain rfl := Except.ok.inj named_eq
      obtain rfl := Except.ok.inj typed_eq
      rw [if_neg chosen]
      refine ⟨fun _ => .wildcard, fun target among => ?_⟩
      obtain ⟨detector, -, rfl⟩ := List.mem_map.mp among
      rfl

end Target

namespace Request

variable {κ ω : Type} [Payload κ] {registry : Registry κ ω} {geometry : Geometry}

/-- In one section, requests for one place are equally specific. -/
theorem priority_eq_of_key_eq {s : Section} {requests : List (Request κ ω)}
    (found : ofSection registry geometry s = .ok requests) {one other : Request κ ω}
    (among : one ∈ requests) (also : other ∈ requests) (same : one.key = other.key) :
    one.priority = other.priority := by
  obtain ⟨descriptor, resolved, found⟩ := Except.bind_eq_ok_iff.mp found
  obtain ⟨targets, listed, found⟩ := Except.bind_eq_ok_iff.mp found
  obtain rfl := Except.ok.inj found
  obtain ⟨rule, rules⟩ := Target.exists_rule listed
  obtain ⟨target, there, rfl⟩ := List.mem_map.mp among
  obtain ⟨target', there', rfl⟩ := List.mem_map.mp also
  have place : target.identifier.detector = target'.identifier.detector :=
    congrArg Prod.snd same
  exact (rules target there).trans (place ▸ (rules target' there').symm)

theorem ofSection_eq_asked {sections : List Section} {requests : List (Request κ ω)}
    (listed : ofSections registry geometry sections = .ok requests) :
    ∀ s ∈ sections, ofSection registry geometry s = .ok (asked registry geometry s) := by
  induction sections generalizing requests with
  | nil => exact fun _ among => nomatch among
  | cons first rest ih =>
    obtain ⟨front, found, listed⟩ := Except.bind_eq_ok_iff.mp listed
    obtain ⟨back, others, -⟩ := Except.bind_eq_ok_iff.mp listed
    intro s among
    rcases List.mem_cons.mp among with rfl | among
    · rw [asked, found]
    · exact ih others s among

theorem ofSections_of_asked {sections : List Section}
    (known : ∀ s ∈ sections, ofSection registry geometry s = .ok (asked registry geometry s)) :
    ofSections registry geometry sections
      = .ok (sections.flatMap (asked registry geometry)) := by
  induction sections with
  | nil => rfl
  | cons first rest ih =>
    have others := ih fun s among => known s (List.mem_cons_of_mem _ among)
    unfold ofSections
    rw [known first List.mem_cons_self, others]
    rfl

/-- The requests of shuffled sections are shuffled. -/
theorem exists_perm_of_perm {sections others : List Section} {requests : List (Request κ ω)}
    (listed : ofSections registry geometry sections = .ok requests)
    (shuffled : sections.Perm others) :
    ∃ requests', ofSections registry geometry others = .ok requests' ∧
      requests.Perm requests' := by
  refine ⟨_, ofSections_of_asked fun s among => ?_, ?_⟩
  · exact ofSection_eq_asked listed s (shuffled.mem_iff.mpr among)
  · rw [ofSections_eq_ok listed]
    exact shuffled.flatMap_right _

/-- Two requests of the same rank in one section contest. -/
theorem contested_of_section {s : Section} {requests : List (Request κ ω)}
    (found : ofSection registry geometry s = .ok requests)
    (shared : ¬ (requests.map rank).Nodup) : Contested requests := by
  obtain ⟨front, request, back, split, other, among, same⟩ :=
    List.exists_split_of_not_nodup_map shared
  refine contested_of_rank_eq split among same fun third early key => ?_
  exact priority_eq_of_key_eq found (split ▸ List.mem_append_left _ early) (by simp [split]) key

/-- Two requests of the same rank contest if their sections come one after the other. -/
theorem contested_of_sections {s t : Section} {first second : List (Request κ ω)}
    (found : ofSection registry geometry s = .ok first)
    (found' : ofSection registry geometry t = .ok second) {other request : Request κ ω}
    (among : other ∈ first) (also : request ∈ second) (same : other.rank = request.rank) :
    Contested (first ++ second) := by
  obtain ⟨place, even⟩ := rank_eq_iff.mp same
  obtain ⟨front, back, rfl⟩ := List.append_of_mem also
  refine contested_of_rank_eq (List.append_assoc first front _).symm
    (List.mem_append_left _ among) same fun third early key => ?_
  rcases List.mem_append.mp early with early | early
  · exact (priority_eq_of_key_eq found early among (key.trans place.symm)).trans even
  · exact priority_eq_of_key_eq found' (List.mem_append_left _ early) also key

/-- If two requests have the same rank, the sections that they come from can be moved
to the front, where nothing is more specific than they are. -/
theorem exists_contested_order {sections : List Section} {requests : List (Request κ ω)}
    (listed : ofSections registry geometry sections = .ok requests)
    (shared : ¬ (requests.map rank).Nodup) :
    ∃ others requests', sections.Perm others ∧
      ofSections registry geometry others = .ok requests' ∧ Contested requests' := by
  have known := ofSection_eq_asked listed
  suffices ∃ others, sections.Perm others ∧ Contested (others.flatMap (asked registry geometry)) by
    obtain ⟨others, perm, contested⟩ := this
    exact ⟨others, _, perm,
      ofSections_of_asked fun s among => known s (perm.mem_iff.mpr among), contested⟩
  rw [ofSections_eq_ok listed, List.map_flatMap, List.nodup_flatMap] at shared
  by_cases single : ∀ s ∈ sections, ((asked registry geometry s).map rank).Nodup
  · -- The two come from two sections.
    have clash : ¬ sections.Pairwise _ := fun apart => shared ⟨single, apart⟩
    simp only [List.pairwise_iff_forall_sublist, Function.onFun, List.Disjoint, not_forall] at clash
    obtain ⟨s, t, within, _, first, second, -⟩ := clash
    obtain ⟨rest, perm⟩ := within.exists_perm_append
    obtain ⟨other, among, rfl⟩ := List.mem_map.mp first
    obtain ⟨request, also, same⟩ := List.mem_map.mp second
    have contested := contested_of_sections (known s (within.subset (by simp)))
      (known t (within.subset (by simp))) among also same.symm
    refine ⟨s :: t :: rest, perm, ?_⟩
    rw [List.flatMap_cons, List.flatMap_cons, ← List.append_assoc]
    exact contested.append _
  · -- The two come from one section.
    simp only [not_forall] at single
    obtain ⟨s, here, twice⟩ := single
    obtain ⟨before, after, rfl⟩ := List.append_of_mem here
    exact ⟨s :: (before ++ after), List.perm_middle,
      (contested_of_section (known s here) twice).append _⟩

end Request

namespace Manager

variable {κ ω : Type} [Payload κ] [DecidableEq κ]

variable {geometry : Geometry} {done : List (Request κ ω)} {made crew : List (Commission κ ω)}
  {manager after : Manager κ ω} {request : Request κ ω} {env : Env ω}

/-- A request ties with one before it exactly if the instance that has its place is
as specific. -/
theorem Settled.ties_iff (settled : Settled done made crew manager) :
    request.Ties done ↔
      ∃ held, manager.holder? request.key = some held ∧
        held.identifier.priority = request.priority := by
  constructor
  · rintro ⟨⟨other, among, same⟩, level⟩
    obtain ⟨place, even⟩ := Request.rank_eq_iff.mp same
    obtain ⟨rival, prevails, key⟩ := settled.held other among
    obtain ⟨held, holds⟩ := settled.exists_holder? prevails (key.trans place)
    refine ⟨held, holds, ?_⟩
    rw [settled.priority_eq holds prevails (key.trans place)]
    rcases Request.outranks_of_mem_prevailing prevails among with rfl | outranks
    · exact even
    · exact absurd (even ▸ outranks key)
        (level rival (Request.mem_of_mem_prevailing prevails) (key.trans place))
  · rintro ⟨held, holds, even⟩
    obtain ⟨rival, prevails, key, priority⟩ := settled.exists_rival holds
    have same : rival.rank = request.rank :=
      Request.rank_eq_iff.mpr ⟨key, priority.symm.trans even⟩
    refine ⟨⟨rival, Request.mem_of_mem_prevailing prevails, same⟩, fun third among place more => ?_⟩
    rw [← even, priority] at more
    rcases Request.outranks_of_mem_prevailing prevails among with rfl | outranks
    · exact Priority.overrides_asymm more more
    · exact Priority.overrides_asymm more (outranks (key.trans place.symm))

theorem Settled.ties_iff_of_holds (settled : Settled done made crew manager)
    {held : Instance κ ω} (holds : manager.holder? request.key = some held) :
    request.Ties done ↔ held.identifier.priority = request.priority := by
  rw [settled.ties_iff]
  constructor
  · rintro ⟨other, holds', even⟩
    obtain rfl := Option.some.inj (holds.symm.trans holds')
    exact even
  · exact fun even => ⟨held, holds, even⟩

theorem Settled.not_ties_of_admits (settled : Settled done made crew manager)
    (admitted : manager.Admits request) : ¬ request.Ties done := by
  rw [settled.ties_iff]
  rintro ⟨held, holds, even⟩
  have more := admitted held holds
  rw [even] at more
  exact Priority.overrides_asymm more more

end Manager

/-! ## Loading without failures -/

/-- The factory makes its module. -/
def Commission.Succeeds {κ ω : Type} [Payload κ] [DecidableEq κ] (commission : Commission κ ω) :
    Prop :=
  ∃ module, commission.result.1 = .ok module

namespace Manager

variable {κ ω : Type} [Payload κ] [DecidableEq κ]

variable {geometry : Geometry} {done : List (Request κ ω)} {made crew : List (Commission κ ω)}
  {manager after : Manager κ ω} {request : Request κ ω} {env : Env ω}

/-- A target is refused if its request ties with one before it, and taken care of
otherwise. -/
theorem Settled.fst_loadTarget (settled : Settled done made crew manager)
    (succeed : ∀ commission ∈ commissioned geometry request (manager, env), commission.Succeeds) :
    (loadTarget request.descriptor request.config geometry request.target (manager, env)).1
      = if request.Ties done then .error request.ambiguity else .ok () := by
  unfold loadTarget
  rw [Proc.bind_apply]
  by_cases admitted : manager.Admits request
  · obtain ⟨env', claimed⟩ := claimPlace_of_admits admitted env
    have hired : (manager.cleared request.key).commission geometry request env'
        ∈ commissioned geometry request (manager, env) := by
      simp only [commissioned, claimed]
      exact List.mem_singleton_self _
    obtain ⟨module, fine⟩ := succeed _ hired
    simp only [Proc.andThen, claimed, if_pos, construct_eq,
      if_neg (settled.not_ties_of_admits admitted)]
    rcases worked : ((manager.cleared request.key).commission geometry request env').result with
      ⟨outcome, messenger, left⟩
    rw [worked] at fine
    obtain rfl : outcome = .ok module := fine
    rfl
  · obtain ⟨held, admitted⟩ := Classical.not_forall.mp admitted
    obtain ⟨holds, notMore⟩ := Classical.not_imp.mp admitted
    by_cases less : held.identifier.priority.overrides request.priority
    · have apart : held.identifier.priority ≠ request.priority :=
        fun even => Priority.overrides_asymm less (by rwa [even] at less ⊢)
      obtain ⟨env', claimed⟩ := claimPlace_of_less holds notMore less env
      simp only [Proc.andThen, claimed, settled.ties_iff_of_holds holds, if_neg apart]
      rfl
    · have even : held.identifier.priority = request.priority := by
        apply Priority.precedence_injective
        rw [Priority.overrides_iff] at notMore less
        omega
      have claimed := claimPlace_of_equal holds notMore less env
      simp only [Proc.andThen, claimed, settled.ties_iff_of_holds holds, if_pos even]

theorem Settled.fst_loadTargets {descriptor : Descriptor κ ω} {s : Section}
    {targets : List Target} (settled : Settled done made crew manager)
    (succeed : ∀ commission ∈ targetCommissions descriptor s geometry targets (manager, env),
      commission.Succeeds) :
    (Proc.each (loadTarget descriptor s geometry) targets (manager, env)).1
      = Request.verdict done (targets.map fun target => ⟨descriptor, s, target⟩) := by
  induction targets generalizing done made crew manager env with
  | nil => rfl
  | cons target rest ih =>
    simp only [targetCommissions, Proc.turns, List.flatMap_cons] at succeed
    have hired : ∀ commission ∈ commissioned geometry ⟨descriptor, s, target⟩ (manager, env),
        commission.Succeeds :=
      fun commission hired => succeed commission (List.mem_append_left _ hired)
    have decided := settled.fst_loadTarget hired
    rcases first : loadTarget descriptor s geometry target (manager, env) with ⟨ended, mid, worked⟩
    simp only [first] at decided succeed
    simp only [Proc.each, Proc.andThen, first, List.map_cons, Request.verdict]
    split at decided
    · next ties =>
      subst decided
      rw [if_pos ties]
    · next apart =>
      subst decided
      rw [if_neg apart]
      have turn : Turn geometry ⟨descriptor, s, target⟩ manager _ _ mid :=
        turn_of_loadTarget first
      obtain ⟨crew', settled'⟩ := settled.turn turn
      exact ih settled' fun commission hired => succeed commission (List.mem_append_right _ hired)

theorem Settled.fst_loadSection {registry : Registry κ ω} {s : Section}
    {requests : List (Request κ ω)} (settled : Settled done made crew manager)
    (asked : Request.ofSection registry geometry s = .ok requests)
    (succeed : ∀ commission ∈ sectionCommissions registry geometry s (manager, env),
      commission.Succeeds) :
    (loadSection registry geometry s (manager, env)).1 = Request.verdict done requests := by
  obtain ⟨descriptor, resolved, asked⟩ := Except.bind_eq_ok_iff.mp asked
  obtain ⟨targets, listed, asked⟩ := Except.bind_eq_ok_iff.mp asked
  obtain rfl := Except.ok.inj asked
  simp only [sectionCommissions, resolved, listed] at succeed
  unfold loadSection
  simp only [Proc.bind_apply, Proc.andThen, Proc.ofExcept, Proc.ofOutcome, resolved, listed,
    Outcome.ofExcept]
  exact settled.fst_loadTargets succeed

theorem Settled.fst_loadSections {registry : Registry κ ω} {sections : List Section}
    {requests : List (Request κ ω)} (settled : Settled done made crew manager)
    (asked : Request.ofSections registry geometry sections = .ok requests)
    (succeed : ∀ commission ∈ commissions registry geometry sections (manager, env),
      commission.Succeeds) :
    (Proc.each (loadSection registry geometry) sections (manager, env)).1
      = Request.verdict done requests := by
  induction sections generalizing done made crew manager env requests with
  | nil =>
    obtain rfl := Except.ok.inj asked
    rfl
  | cons s rest ih =>
    obtain ⟨front, first_asked, asked⟩ := Except.bind_eq_ok_iff.mp asked
    obtain ⟨back, rest_asked, asked⟩ := Except.bind_eq_ok_iff.mp asked
    obtain rfl := Except.ok.inj asked
    simp only [commissions, Proc.turns, List.flatMap_cons] at succeed
    have hired : ∀ commission ∈ sectionCommissions registry geometry s (manager, env),
        commission.Succeeds :=
      fun commission hired => succeed commission (List.mem_append_left _ hired)
    have decided := settled.fst_loadSection first_asked hired
    rcases first : loadSection registry geometry s (manager, env) with ⟨ended, mid, worked⟩
    simp only [first] at decided succeed
    simp only [Proc.each, Proc.andThen, first, Request.verdict_append, ← decided]
    cases ended with
    | error err => rfl
    | panic text => rfl
    | ok =>
      obtain ⟨requests, turns, all⟩ := turns_of_loadSection first
      obtain rfl := Except.ok.inj ((all rfl).symm.trans first_asked)
      obtain ⟨crew', settled'⟩ := settled.turns turns
      exact ih settled' rest_asked fun commission hired =>
        succeed commission (List.mem_append_right _ hired)

/-- No factory fails while a configuration is loaded. -/
def Willing (reader : Reader) (registry : Registry κ ω) (geometry : Geometry) (env : Env ω) :
    Prop :=
  ∀ commission ∈ loadCommissions reader registry geometry (empty, env), commission.Succeeds

/-- A configuration is refused as ambiguous. -/
def Ambiguous (reader : Reader) (registry : Registry κ ω) (geometry : Geometry) (env : Env ω) :
    Prop :=
  ∃ module detector, (load reader registry geometry (empty, env)).1
    = .error (.ambiguousInstance module detector)

/-- If all names and types are known and no factory fails, what comes of a
configuration is decided by its requests. -/
theorem fst_load {reader : Reader} {registry : Registry κ ω} {requests : List (Request κ ω)}
    (asked : Request.ofSections registry geometry reader.moduleSections = .ok requests)
    (willing : Willing reader registry geometry env) :
    (load reader registry geometry (empty, env)).1 = Request.verdict [] requests := by
  have decided := Settled.empty.fst_loadSections asked willing
  unfold load
  simp only [Proc.bind_apply, Proc.andThen, expect, empty, if_pos]
  change (Proc.each (loadSection registry geometry) reader.moduleSections
    (⟨.empty, [], 0, .empty⟩, env)).1 = _ at decided
  generalize Proc.each (loadSection registry geometry) reader.moduleSections
    (⟨.empty, [], 0, .empty⟩, env) = result at decided ⊢
  obtain ⟨ended, mid, worked⟩ := result
  rw [← decided]
  cases ended <;> rfl

theorem ambiguous_iff {reader : Reader} {registry : Registry κ ω}
    {requests : List (Request κ ω)}
    (asked : Request.ofSections registry geometry reader.moduleSections = .ok requests)
    (willing : Willing reader registry geometry env) :
    Ambiguous reader registry geometry env ↔ Request.Contested requests := by
  unfold Ambiguous
  rw [fst_load asked willing, Request.contested_iff_verdict]

/-- **Ambiguity.**  If all names and types are known and no factory fails, a
configuration is ambiguous exactly if two of its requests have the same rank and
nothing before the later one is more specific for the place.  In any order of the
sections it is ambiguous if the two are topmost; in some order, as soon as there are
two; and in none otherwise. -/
theorem ambiguous_iff_contested {reader : Reader} {registry : Registry κ ω}
    {requests : List (Request κ ω)}
    (asked : Request.ofSections registry geometry reader.moduleSections = .ok requests)
    (willing : Willing reader registry geometry env) :
    (Ambiguous reader registry geometry env ↔ Request.Contested requests) ∧
    (∀ {other : Reader} {env' : Env ω}, reader.moduleSections.Perm other.moduleSections →
      Willing other registry geometry env' →
      (Request.Deadlocked requests → Ambiguous other registry geometry env') ∧
      (Ambiguous other registry geometry env' → ¬ (requests.map Request.rank).Nodup)) ∧
    (¬ (requests.map Request.rank).Nodup →
      ∃ other : Reader, reader.moduleSections.Perm other.moduleSections ∧
        ∀ {env' : Env ω}, Willing other registry geometry env' →
          Ambiguous other registry geometry env') := by
  refine ⟨ambiguous_iff asked willing, fun shuffled willing' => ?_, fun shared => ?_⟩
  · obtain ⟨requests', asked', perm⟩ := Request.exists_perm_of_perm asked shuffled
    rw [ambiguous_iff asked' willing', (perm.map _).nodup_iff]
    exact ⟨fun deadlocked => deadlocked.contested perm, Request.Contested.not_nodup⟩
  · obtain ⟨others, requests', shuffled, asked', contested⟩ :=
      Request.exists_contested_order asked shared
    have named : (Reader.mk others).moduleSections = others := by
      refine List.filter_eq_self.mpr fun s among => ?_
      exact (List.mem_filter.mp (shuffled.mem_iff.mpr among)).2
    refine ⟨⟨others⟩, named.symm ▸ shuffled, fun willing' => ?_⟩
    exact (ambiguous_iff (named.symm ▸ asked') willing').mpr contested

end Manager

/-! ## A configuration to try things on -/

open Builtin

instance {κ ω : Type} [Payload κ] [DecidableEq κ] (commission : Commission κ ω) :
    Decidable commission.Succeeds :=
  match made : commission.result.1 with
  | .ok module => .isTrue ⟨module, made⟩
  | .error _ => .isFalse fun ⟨_, fine⟩ => nomatch made.symm.trans fine
  | .panic _ => .isFalse fun ⟨_, fine⟩ => nomatch made.symm.trans fine

/-- A setup of one detector. -/
def Geometry.lone : Geometry :=
  ⟨[.atOrigin "left" "sensor"]⟩

namespace Manager

instance (reader : Reader) (registry : Registry PayloadKind Unit) (geometry : Geometry)
    (env : Env Unit) : Decidable (Willing reader registry geometry env) :=
  inferInstanceAs (Decidable (∀ commission ∈ loadCommissions reader registry geometry (empty, env),
    commission.Succeeds))

/-- Two sections for all detectors with a more specific one between them are not
ambiguous, but they are in another order. -/
theorem ambiguous_contested_idle :
    ¬ Ambiguous ⟨[idleEverywhere, idleOnTheLeft, idleEverywhere]⟩ .idle .lone ⟨(), .empty⟩ ∧
      ∃ other : Reader, [idleEverywhere, idleOnTheLeft, idleEverywhere].Perm other.moduleSections ∧
        ∀ {env' : Env Unit}, Willing other .idle .lone env' → Ambiguous other .idle .lone env' := by
  have asked : Request.ofSections Registry.idle .lone
      (Reader.mk [idleEverywhere, idleOnTheLeft, idleEverywhere]).moduleSections
      = .ok ([idleEverywhere, idleOnTheLeft, idleEverywhere].flatMap
        (Request.asked .idle .lone)) := rfl
  have willing : Willing ⟨[idleEverywhere, idleOnTheLeft, idleEverywhere]⟩ Registry.idle .lone
      ⟨(), .empty⟩ := by decide +kernel
  obtain ⟨here, -, elsewhere⟩ := ambiguous_iff_contested asked willing
  refine ⟨?_, elsewhere (by decide +kernel)⟩
  rw [here, Request.contested_iff_verdict]
  rintro ⟨module, detector, refused⟩
  have fine : Request.verdict [] ([idleEverywhere, idleOnTheLeft, idleEverywhere].flatMap
      (Request.asked Registry.idle .lone)) = .ok () := by decide +kernel
  rw [fine] at refused
  cases refused

/-- Whether two requests of the same rank make a configuration ambiguous depends on
whether a more specific one comes between them. -/
theorem ambiguity_depends_on_order :
    ∃ requests, Request.ofSections Registry.idle .lone
        [idleEverywhere, idleOnTheLeft, idleEverywhere] = .ok requests ∧
      ¬ (requests.map Request.rank).Nodup ∧
      Willing ⟨[idleEverywhere, idleOnTheLeft, idleEverywhere]⟩ Registry.idle .lone
        ⟨(), .empty⟩ ∧
      ¬ Ambiguous ⟨[idleEverywhere, idleOnTheLeft, idleEverywhere]⟩ Registry.idle .lone
        ⟨(), .empty⟩ ∧
      [idleEverywhere, idleOnTheLeft, idleEverywhere].Perm
        [idleEverywhere, idleEverywhere, idleOnTheLeft] ∧
      Willing ⟨[idleEverywhere, idleEverywhere, idleOnTheLeft]⟩ Registry.idle .lone
        ⟨(), .empty⟩ ∧
      Ambiguous ⟨[idleEverywhere, idleEverywhere, idleOnTheLeft]⟩ Registry.idle .lone
        ⟨(), .empty⟩ := by
  refine ⟨_, rfl, by decide +kernel, by decide +kernel, ?_,
    (List.Perm.swap idleEverywhere idleOnTheLeft []).cons _, by decide +kernel, ?_⟩
  · rintro ⟨module, detector, refused⟩
    have fine : (load ⟨[idleEverywhere, idleOnTheLeft, idleEverywhere]⟩ Registry.idle .lone
        (empty, ⟨(), .empty⟩)).1 = .ok () := by decide +kernel
    rw [fine] at refused
    cases refused
  · exact ⟨"Idle", "left", by decide +kernel⟩

end Manager
end DetectorSim
