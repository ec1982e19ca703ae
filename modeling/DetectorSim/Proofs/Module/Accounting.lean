import DetectorSim.Proofs.Module.Lifecycle
import DetectorSim.Proofs.Module.Raising
import DetectorSim.Proofs.Module.Tidiness

/-!
# Accounting for loads

How a load ends is accounted for by the factory calls that were made on the way.  The error
of a factory ends the load, with the name of the instance around it, and no other error of
a load names anybody.  Every delegate that a load leaves was bound by one of the factory
calls, also when a factory panics.
-/

set_option autoImplicit false

namespace DetectorSim

open Config

/-! ## Refusals that name nobody -/

namespace Error

/-- When a computation fails, its error names nobody. -/
def Plain {α : Type} (result : Except Error α) : Prop :=
  ∀ err, result = .error err → ¬ err.IsWrapped

variable {α β : Type}

theorem Plain.ok (value : α) : Plain (.ok value) :=
  nofun

theorem Plain.error {err : Error} (plain : ¬ err.IsWrapped) :
    Plain (.error err : Except Error α) := by
  rintro other ⟨⟩
  exact plain

theorem Plain.bind {first : Except Error α} {next : α → Except Error β} (plain : Plain first)
    (rest : ∀ a, Plain (next a)) : Plain (first >>= next) := by
  cases first with
  | error err => exact .error (plain err rfl)
  | ok a => exact rest a

theorem plain_getArray (s : Section) (key : String) (read : Reading α) :
    Plain (s.getArray key read) := by
  have each (texts : List (List Char)) : Plain (s.readAll key read texts) := by
    induction texts with
    | nil => exact .ok []
    | cons text rest ih =>
      simp only [Section.readAll, Section.readText]
      cases read text with
      | error reason => exact .error id
      | ok value =>
        cases others : s.readAll key read rest with
        | error err => exact .error (ih err others)
        | ok values => exact .ok _
  simp only [Section.getArray, Section.text]
  cases s.text? key with
  | none => exact .error id
  | some text => exact each _

theorem plain_detector (geometry : Geometry) (name : String) : Plain (geometry.detector name) := by
  unfold Geometry.detector
  cases geometry.find? name with
  | none => exact .error id
  | some detector => exact .ok detector

theorem plain_detectorsByType (geometry : Geometry) (type : String) :
    Plain (geometry.detectorsByType type) := by
  unfold Geometry.detectorsByType
  cases geometry.ofType type with
  | nil => exact .error id
  | cons detector rest => exact .ok _

theorem plain_resolve {κ ω : Type} [Payload κ] (registry : Registry κ ω) (name : String) :
    Plain (registry.resolve name) := by
  unfold Registry.resolve
  cases registry.descriptors.find? name with
  | none => exact .error id
  | some descriptor => exact .ok descriptor

/-- No one is named when a section asks for what is not there. -/
theorem plain_ofSection {κ ω : Type} [Payload κ] (descriptor : Descriptor κ ω) (s : Section)
    (geometry : Geometry) : Plain (Target.ofSection descriptor s geometry) := by
  have listed (key : String) : Plain (Target.listed s key) := by
    unfold Target.listed
    split
    · exact plain_getArray s key .string
    · exact .ok []
  have named (module : String) (names : List String) :
      Plain (Target.byName module geometry names) := by
    induction names with
    | nil => exact .ok []
    | cons name rest ih =>
      exact (plain_detector geometry name).bind fun _ => ih.bind fun _ => .ok _
  have typed (module : String) (names types : List String) :
      Plain (Target.byType module geometry names types) := by
    induction types with
    | nil => exact .ok []
    | cons type rest ih =>
      exact (plain_detectorsByType geometry type).bind fun _ => ih.bind fun _ => .ok _
  unfold Target.ofSection
  split
  · exact .ok _
  · exact (listed "name").bind fun names => (named _ names).bind fun _ =>
      (listed "type").bind fun types => (typed _ names types).bind fun _ => .ok _

end Error

/-! ## Factories -/

namespace Commission

variable {κ ω : Type} [Payload κ]

/-- The error of a factory as it comes out of the load. -/
def blame (commission : Commission κ ω) (cause : Error) : Error :=
  cause.inModule commission.site.identifier.display .construction

variable [DecidableEq κ]

/-- How the load of a request ends whose factory is called. -/
def ending (commission : Commission κ ω) : Outcome Unit :=
  match commission.result.1 with
  | .ok _ => .ok ()
  | .error cause => .error (commission.blame cause)
  | .panic text => .panic text

/-- The messenger that is there after a factory call.  A failed factory leaves no
delegates. -/
def leaves (commission : Commission κ ω) : Messenger κ ω :=
  match commission.result.1 with
  | .error _ => (commission.result.2.1.removeAll commission.id).2
  | _ => commission.result.2.1

end Commission

namespace Manager

variable {κ ω : Type} [Payload κ] [DecidableEq κ] {geometry : Geometry} {request : Request κ ω}
  {manager : Manager κ ω} {env : Env ω}

/-- A request that is let through leads to one factory call and ends as that does. -/
theorem exists_commissioned (admitted : manager.Admits request) (env : Env ω) :
    ∃ env', commissioned geometry request (manager, env)
        = [(manager.cleared request.key).commission geometry request env'] ∧
      (loadTarget request.descriptor request.config geometry request.target (manager, env)).1
        = ((manager.cleared request.key).commission geometry request env').ending ∧
      (loadTarget request.descriptor request.config geometry request.target
          (manager, env)).2.1.messenger
        = ((manager.cleared request.key).commission geometry request env').leaves := by
  obtain ⟨env', claimed⟩ := claimPlace_of_admits admitted env
  refine ⟨env', by simp only [commissioned, claimed], ?_⟩
  simp only [loadTarget, Proc.bind_apply, Proc.andThen, claimed, if_pos, construct_eq,
    Commission.ending, Commission.leaves]
  rcases ((manager.cleared request.key).commission geometry request env').result with
    ⟨module | cause | text, messenger, left⟩
  · exact ⟨rfl, rfl⟩
  · exact ⟨rfl, rfl⟩
  · exact ⟨rfl, rfl⟩

/-- A request that is not let through leads to no factory call and changes nothing but the
log. -/
theorem loadTarget_of_not_admits (refused : ¬ manager.Admits request) (env : Env ω) :
    commissioned geometry request (manager, env) = [] ∧
      ((loadTarget request.descriptor request.config geometry request.target (manager, env)).1
          = .ok () ∨
        (loadTarget request.descriptor request.config geometry request.target (manager, env)).1
          = .error request.ambiguity) ∧
      (loadTarget request.descriptor request.config geometry request.target (manager, env)).2.1
        = manager := by
  obtain ⟨held, refused⟩ := Classical.not_forall.mp refused
  obtain ⟨holds, notMore⟩ := Classical.not_imp.mp refused
  by_cases less : held.identifier.priority.overrides request.priority
  · obtain ⟨env', claimed⟩ := claimPlace_of_less holds notMore less env
    simp only [commissioned, loadTarget, Proc.bind_apply, Proc.andThen, claimed]
    exact ⟨trivial, .inl rfl, rfl⟩
  · have claimed := claimPlace_of_equal holds notMore less env
    simp only [commissioned, loadTarget, Proc.bind_apply, Proc.andThen, claimed]
    exact ⟨trivial, .inr trivial, trivial⟩

/-! ## Loads -/

section Loads

variable {made later : List (Commission κ ω)} {messenger before mid after : Messenger κ ω}
  {outcome : Outcome Unit}

/-- All delegates were bound by some factory calls, each call for the instance that it was to
construct.  Unlike `Staffed`, this also holds after a factory has panicked. -/
def Bound (made : List (Commission κ ω)) (messenger : Messenger κ ω) : Prop :=
  ∃ bonds, Messenger.Trim bonds messenger ∧
    ∀ bond ∈ bonds, ∃ commission ∈ made, bond.delegate.receiver = commission.site.receiver

namespace Bound

theorem empty : Bound [] (Messenger.empty : Messenger κ ω) :=
  ⟨[], .empty, nofun⟩

theorem append (bound : Bound made messenger) (later : List (Commission κ ω)) :
    Bound (made ++ later) messenger := by
  obtain ⟨bonds, trim, known⟩ := bound
  refine ⟨bonds, trim, fun bond among => ?_⟩
  obtain ⟨commission, called, same⟩ := known bond among
  exact ⟨commission, List.mem_append_left _ called, same⟩

theorem removeAll (bound : Bound made messenger) (owner : InstanceId) :
    Bound made (messenger.removeAll owner).2 := by
  obtain ⟨bonds, trim, known⟩ := bound
  exact ⟨_, trim.removeAll owner, fun bond among => known bond (List.mem_of_mem_filter among)⟩

theorem cleared (bound : Bound made manager.messenger) (key : String × String) :
    Bound made (manager.cleared key).messenger := by
  unfold Manager.cleared
  split
  · exact bound
  · exact bound.removeAll _

/-- However a factory ends, it has bound delegates for its own instance only. -/
theorem leaves {commission : Commission κ ω} (bound : Bound made commission.messenger) :
    Bound (made ++ [commission]) commission.leaves := by
  have worked : Bound (made ++ [commission]) commission.result.2.1 := by
    obtain ⟨bonds, trim, known⟩ := bound.append [commission]
    refine ⟨_, Commission.trim_of_result trim rfl, List.forall_mem_append.mpr ⟨known, ?_⟩⟩
    exact fun bond own => ⟨commission, List.mem_append_right _ (List.mem_singleton_self _),
      Commission.receiver_of_mem_bonds own⟩
  unfold Commission.leaves
  split
  · exact worked.removeAll _
  · exact worked

theorem exists_commission (bound : Bound made messenger) {message : AnyMessage κ}
    {delegate : Delegate κ ω} (accepts : delegate ∈ messenger.accepting message) :
    ∃ commission ∈ made, delegate.receiver = commission.site.receiver := by
  obtain ⟨bonds, trim, known⟩ := bound
  obtain ⟨bond, among, -, rfl⟩ := trim.mem_accepting_iff.mp accepts
  exact known bond among

end Bound

/-- How a part of a load ends is accounted for by the factory calls that were made. -/
structure Accounts (before : Messenger κ ω) (made : List (Commission κ ω))
    (outcome : Outcome Unit) (after : Messenger κ ω) : Prop where
  /-- The error of a factory ends the load, with the name of the instance around it. -/
  blamed : ∀ commission ∈ made, ∀ cause, commission.result.1 = .error cause →
    outcome = .error (commission.blame cause)
  /-- An error that names someone is that of a factory. -/
  traced : ∀ err, outcome = .error err → err.IsWrapped →
    ∃ commission ∈ made, ∃ cause, commission.result.1 = .error cause ∧
      err = commission.blame cause
  binds : ∀ {earlier}, Bound earlier before → Bound (earlier ++ made) after

namespace Accounts

/-- As long as no factory is called, nobody is named. -/
theorem refused (plain : ∀ err, outcome = .error err → ¬ err.IsWrapped) :
    Accounts before [] outcome before where
  blamed _ called := absurd called List.not_mem_nil
  traced err failed wrapped := absurd wrapped (plain err failed)
  binds bound := bound.append []

theorem append (first : Accounts before made (.ok ()) mid)
    (rest : Accounts mid later outcome after) : Accounts before (made ++ later) outcome after where
  blamed commission called cause failed := by
    rcases List.mem_append.mp called with early | late
    · cases first.blamed commission early cause failed
    · exact rest.blamed commission late cause failed
  traced err failed wrapped := by
    obtain ⟨commission, called, known⟩ := rest.traced err failed wrapped
    exact ⟨commission, List.mem_append_right _ called, known⟩
  binds bound := by
    rw [← List.append_assoc]
    exact rest.binds (first.binds bound)

/-- A factory call accounts for how its request ends. -/
theorem called (commission : Commission κ ω)
    (binds : ∀ {earlier}, Bound earlier before → Bound earlier commission.messenger) :
    Accounts before [commission] commission.ending commission.leaves where
  blamed other among cause failed := by
    rw [List.mem_singleton.mp among] at failed ⊢
    rw [Commission.ending, failed]
  traced err ended _ := by
    refine ⟨commission, List.mem_singleton_self _, ?_⟩
    unfold Commission.ending at ended
    cases made : commission.result.1 with
    | ok module =>
      rw [made] at ended
      cases ended
    | error cause =>
      rw [made] at ended
      exact ⟨cause, rfl, (Outcome.error.inj ended).symm⟩
    | panic text =>
      rw [made] at ended
      cases ended
  binds bound := (binds bound).leaves

/-- What accounts for each element of a sequence accounts for the sequence. -/
theorem each {α : Type} {f : α → Proc (Manager κ ω × Env ω) Unit}
    {makes : α → Manager κ ω × Env ω → List (Commission κ ω)}
    (accounts : ∀ a state, Accounts state.1.messenger (makes a state) (f a state).1
      (f a state).2.1.messenger) (items : List α) (state : Manager κ ω × Env ω) :
    Accounts state.1.messenger
      ((Proc.turns f items state).flatMap fun turn => makes turn.1 turn.2)
      (Proc.each f items state).1 (Proc.each f items state).2.1.messenger := by
  induction items generalizing state with
  | nil => exact .refused nofun
  | cons a rest ih =>
    have here := accounts a state
    rcases first : f a state with ⟨outcome, next⟩
    rw [first] at here
    cases outcome with
    | ok value =>
      rw [Proc.turns_cons_of_ok first, Proc.each_cons_of_ok first, List.flatMap_cons]
      exact here.append (ih next)
    | error err =>
      rw [Proc.turns_cons_of_ne first nofun, Proc.each_cons_of_ne first nofun,
        List.flatMap_singleton]
      exact here
    | panic text =>
      rw [Proc.turns_cons_of_ne first nofun, Proc.each_cons_of_ne first nofun,
        List.flatMap_singleton]
      exact here

end Accounts

theorem accounts_loadTarget (geometry : Geometry) (request : Request κ ω)
    (state : Manager κ ω × Env ω) :
    Accounts state.1.messenger (commissioned geometry request state)
      (loadTarget request.descriptor request.config geometry request.target state).1
      (loadTarget request.descriptor request.config geometry request.target
        state).2.1.messenger := by
  obtain ⟨manager, env⟩ := state
  by_cases admitted : manager.Admits request
  · obtain ⟨env', made, ended, left⟩ := exists_commissioned admitted env
    rw [made, ended, left]
    exact .called _ fun bound => bound.cleared request.key
  · obtain ⟨made, ended, left⟩ := loadTarget_of_not_admits admitted env
    rw [made, left]
    refine .refused fun err failed => ?_
    rcases ended with fine | ambiguous
    · cases fine.symm.trans failed
    · cases ambiguous.symm.trans failed
      exact id

theorem accounts_loadSection (registry : Registry κ ω) (geometry : Geometry) (s : Section)
    (state : Manager κ ω × Env ω) :
    Accounts state.1.messenger (sectionCommissions registry geometry s state)
      (loadSection registry geometry s state).1
      (loadSection registry geometry s state).2.1.messenger := by
  simp only [loadSection, sectionCommissions, Proc.bind_apply, Proc.andThen, Proc.ofExcept,
    Proc.ofOutcome]
  cases resolved : registry.resolve s.name with
  | error err =>
    refine .refused fun other failed => ?_
    cases failed
    exact Error.plain_resolve registry s.name err resolved
  | ok descriptor =>
    simp only [Outcome.ofExcept]
    cases listed : Target.ofSection descriptor s geometry with
    | error err =>
      refine .refused fun other failed => ?_
      cases failed
      exact Error.plain_ofSection descriptor s geometry err listed
    | ok targets =>
      exact .each (fun target => accounts_loadTarget geometry ⟨descriptor, s, target⟩) targets
        (Proc.log .info s!"Loaded module {descriptor.name}" state).2

/-- How a load ends is accounted for by its factory calls. -/
theorem accounts_load (reader : Reader) (registry : Registry κ ω) (geometry : Geometry)
    (state : Manager κ ω × Env ω) :
    Accounts state.1.messenger (loadCommissions reader registry geometry state)
      (load reader registry geometry state).1
      (load reader registry geometry state).2.1.messenger := by
  unfold load loadCommissions
  by_cases fresh : state.1.state = .empty
  · have worked := Accounts.each (accounts_loadSection registry geometry) reader.moduleSections
      state
    simp only [Proc.bind_apply, Proc.andThen, expect_of_due fresh, if_pos fresh]
    change Accounts _ (commissions registry geometry reader.moduleSections state) _ _ at worked
    generalize Proc.each (loadSection registry geometry) reader.moduleSections state = result
      at worked ⊢
    obtain ⟨outcome, after⟩ := result
    cases outcome with
    | ok value => exact worked
    | error err => exact worked
    | panic text => exact worked
  · obtain ⟨text, refused⟩ := expect_of_wrong fresh "load"
    simp only [Proc.bind_apply, Proc.andThen, refused, if_neg fresh]
    refine .refused fun err failed => ?_
    cases failed
    exact id

end Loads

end Manager

end DetectorSim
