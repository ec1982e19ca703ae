import DetectorSim.Proofs.Config.Grammar
import DetectorSim.Proofs.Module.Attribution
import DetectorSim.Proofs.Module.Registration
import DetectorSim.Proofs.Module.Selection

/-!
# Display names

Users know an instance by its display name: the name of its module type and, if it works for
a detector that has a name, a colon and that name.  The names of detectors may have colons in
them, but those of sections may not, and a module type is found under its own name only.  So
the first colon of a display name is the one behind the module type, and two instances with
one display name would hold one place.
-/

set_option autoImplicit false

namespace DetectorSim

open Config

/-! ## Names of sections -/

namespace Config

/-- The name of a section is made of letters, digits and underscores. -/
def Section.IsWord (s : Section) : Prop :=
  ∀ c ∈ s.name.toList, Line.isNameChar c = true

theorem Line.isNameChar_of_read {text : List Char} {name : String}
    (headed : read text = .header name) : ∀ c ∈ name.toList, isNameChar c = true := by
  obtain ⟨core, -, means⟩ := reads_iff.mpr ⟨headed, nofun⟩
  cases means with
  | header word => rwa [String.toList_ofList]

namespace Reader

/-- The readers that have got their sections from texts and files, each of which was read to
its end or to the first line that could not be read. -/
inductive Filled : Reader → Prop
  | empty : Filled empty
  | add {reader : Reader} (filled : Filled reader) (source : Source) (file : Option String) :
      Filled (reader.add source file).2

theorem isWord_of_mem_readLines {file : Option String} {number : Nat} {current : Section}
    {lines : List SourceLine} (word : current.IsWord) :
    ∀ s ∈ (readLines file number current lines).2, s.IsWord := by
  induction lines generalizing number current with
  | nil => exact List.forall_mem_singleton.mpr word
  | cons line rest ih =>
    cases line with
    | error err => exact List.forall_mem_nil _
    | ok text =>
      rw [readLines]
      cases said : Line.read text with
      | blank => exact ih word
      | entry key value => exact ih (show (current.set key value).IsWord from word)
      | malformed => exact List.forall_mem_nil _
      | header name =>
        have fresh : (Section.empty name file).IsWord := Line.isNameChar_of_read said
        refine List.forall_mem_append.mpr ⟨fun s among => ?_, ih fresh⟩
        unfold closeSection at among
        split at among
        · cases among
        · rwa [List.mem_singleton.mp among]

theorem Filled.isWord {reader : Reader} (filled : Filled reader) :
    ∀ s ∈ reader.sections, s.IsWord := by
  induction filled with
  | empty => exact List.forall_mem_nil _
  | add filled source file ih =>
    refine List.forall_mem_append.mpr ⟨ih, isWord_of_mem_readLines ?_⟩
    exact fun c among => nomatch among

end Reader

end Config

/-! ## Names of instances -/

namespace Identifier

/-- What a display name has after the module type. -/
def ending (id : Identifier) : List Char :=
  if id.detector.isEmpty then [] else ':' :: id.detector.toList

theorem toList_display (id : Identifier) : id.display.toList = id.module.toList ++ id.ending := by
  unfold display ending
  split
  · rw [List.append_nil]
  · simp

theorem detector_eq_of_ending_eq {a b : Identifier} (same : a.ending = b.ending) :
    a.detector = b.detector := by
  unfold ending at same
  split at same <;> split at same
  · next none_there none_there' =>
    rw [String.isEmpty_iff.mp none_there, String.isEmpty_iff.mp none_there']
  · cases same
  · cases same
  · exact String.toList_inj.mp (List.cons.inj same).2

/-- Where the module type has no colon, the first colon tells it from the detector. -/
theorem key_eq_of_display_eq {a b : Identifier} (clear : ':' ∉ a.module.toList)
    (clear' : ':' ∉ b.module.toList) (same : a.display = b.display) : a.key = b.key := by
  have split {id : Identifier} (clear : ':' ∉ id.module.toList) :
      id.display.toList.takeWhile (· != ':') = id.module.toList ∧
        id.display.toList.dropWhile (· != ':') = id.ending := by
    have letters : ∀ c ∈ id.module.toList, (c != ':') = true := fun c among =>
      bne_iff_ne.mpr fun colon => clear (colon ▸ among)
    rw [toList_display, List.takeWhile_append_of_pos letters, List.dropWhile_append_of_pos letters]
    unfold ending
    split <;> simp
  obtain ⟨module, ending⟩ := split clear
  obtain ⟨module', ending'⟩ := split clear'
  rw [same] at module ending
  have module_eq := String.toList_inj.mp (module.symm.trans module')
  exact Prod.ext module_eq (detector_eq_of_ending_eq (ending.symm.trans ending'))

end Identifier

/-! ## Instances that are made -/

namespace Manager

variable {κ ω : Type} [Payload κ] {manager : Manager κ ω}

/-- Display names tell the instances of a manager apart: no two of them hold one place, and no
module type has a colon in its name. -/
structure Legible (manager : Manager κ ω) : Prop where
  distinct : manager.Distinct
  clear : ∀ inst ∈ manager.instances, ':' ∉ inst.identifier.module.toList

theorem Legible.nodup_names (legible : manager.Legible) :
    (manager.instances.map Instance.name).Nodup := by
  have distinct : (manager.instances.map fun inst => inst.identifier.key).Nodup :=
    legible.distinct
  refine (distinct.of_map).map_on fun inst among other among' same => ?_
  refine List.inj_on_of_nodup_map distinct among among' ?_
  exact Identifier.key_eq_of_display_eq (legible.clear inst among) (legible.clear other among') same

theorem Legible.of_instances_eq {after : Manager κ ω} (legible : manager.Legible)
    (same : after.instances = manager.instances) : after.Legible := by
  refine ⟨?_, same ▸ legible.clear⟩
  rw [Distinct, same]
  exact legible.distinct

/-- A new instance may come to a place that nobody holds. -/
theorem Legible.concat {after : Manager κ ω} {inst : Instance κ ω} (legible : manager.Legible)
    (free : inst.identifier.key ∉ manager.instances.map fun inst => inst.identifier.key)
    (clear : ':' ∉ inst.identifier.module.toList)
    (same : after.instances = manager.instances ++ [inst]) : after.Legible := by
  refine ⟨?_, same ▸ List.forall_mem_append.mpr ⟨legible.clear, ?_⟩⟩
  · rw [Distinct, same, List.map_append]
    exact List.concat_eq_append ▸ List.Nodup.concat free legible.distinct
  · exact List.forall_mem_singleton.mpr clear

/-- A procedure keeps display names apart, however it ends. -/
abbrev StaysLegible {α : Type} (proc : Proc (Manager κ ω × Env ω) α) : Prop :=
  Proc.Preserves (fun state => state.1.Legible) proc

theorem staysLegible_of_keeps {α : Type} {proc : Proc (Manager κ ω × Env ω) α}
    (kept : Proc.Keeps (fun state : Manager κ ω × Env ω => state.1.instances) proc) :
    StaysLegible proc :=
  fun state legible => legible.of_instances_eq (kept state)

variable [DecidableEq κ]

/-- However the turn of a request ends, who had its place is there or not, and the only
instance that may be new is the one that was asked for. -/
theorem instances_loadTarget (geometry : Geometry) (request : Request κ ω)
    (state : Manager κ ω × Env ω) :
    (loadTarget request.descriptor request.config geometry request.target state).2.1.instances
        = state.1.instances ∨
      (loadTarget request.descriptor request.config geometry request.target state).2.1.instances
        = (state.1.cleared request.key).instances ∨
      ∃ inst, inst.identifier = request.target.identifier ∧
        (loadTarget request.descriptor request.config geometry request.target state).2.1.instances
          = (state.1.cleared request.key).instances ++ [inst] := by
  obtain ⟨manager, env⟩ := state
  by_cases admitted : manager.Admits request
  · obtain ⟨env', claimed⟩ := claimPlace_of_admits admitted env
    simp only [loadTarget, Proc.bind_apply, Proc.andThen, claimed, if_pos, construct_eq]
    rcases ((manager.cleared request.key).commission geometry request env').result with
      ⟨module | cause | text, messenger, left⟩
    · exact .inr (.inr ⟨_, rfl, rfl⟩)
    · exact .inr (.inl rfl)
    · exact .inr (.inl rfl)
  · exact .inl (congrArg instances (loadTarget_of_not_admits admitted env).2.2)

theorem Legible.cleared (legible : manager.Legible) (key : String × String) :
    (manager.cleared key).Legible := by
  refine ⟨legible.distinct.cleared key, fun inst among => ?_⟩
  rw [legible.distinct.instances_cleared] at among
  exact legible.clear inst (List.mem_of_mem_filter among)

theorem staysLegible_loadTarget (geometry : Geometry) (request : Request κ ω)
    (clear : ':' ∉ request.target.identifier.module.toList) :
    StaysLegible (loadTarget request.descriptor request.config geometry request.target) := by
  intro state legible
  have kept := legible.cleared request.key
  rcases instances_loadTarget geometry request state with
    same | same | ⟨inst, made, same⟩
  · exact legible.of_instances_eq same
  · exact kept.of_instances_eq same
  · refine kept.concat ?_ (made ▸ clear) same
    rw [made]
    exact legible.distinct.free_cleared request.key

/-- The module types that a section can ask for have its name. -/
theorem staysLegible_loadSection (geometry : Geometry) {registry : Registry κ ω}
    (named : ∀ name descriptor, registry.resolve name = .ok descriptor → descriptor.name = name)
    {s : Section} (word : s.IsWord) : StaysLegible (loadSection registry geometry s) := by
  have clear : ':' ∉ s.name.toList := fun colon => absurd (word ':' colon) (by decide)
  refine .andThen (staysLegible_of_keeps (.ofOutcome _)) fun descriptor _ _ resolved => ?_
  refine .andThen (staysLegible_of_keeps (.log (fun _ _ => rfl) _ _)) fun _ _ _ _ => ?_
  refine .andThen (staysLegible_of_keeps (.ofOutcome _)) fun targets _ _ asked => ?_
  have asked := Proc.eq_ok_of_ofExcept asked
  refine .each fun target among => staysLegible_loadTarget geometry ⟨descriptor, s, target⟩ ?_
  rw [Target.module_of_mem_ofSection asked among, named _ _ (Proc.eq_ok_of_ofExcept resolved)]
  exact clear

theorem staysLegible_load (geometry : Geometry) {reader : Reader} {registry : Registry κ ω}
    (filled : reader.Filled)
    (named : ∀ name descriptor, registry.resolve name = .ok descriptor → descriptor.name = name) :
    StaysLegible (load reader registry geometry) := by
  have expected : StaysLegible (expect .empty "load" : Proc (Manager κ ω × Env ω) Unit) := by
    refine staysLegible_of_keeps fun (manager, env) => ?_
    unfold expect
    dsimp only
    split <;> rfl
  refine expected.andThen fun _ _ _ _ => .andThen (.each fun s among => ?_) fun _ _ _ _ => ?_
  · exact staysLegible_loadSection geometry named (filled.isWord s (List.mem_of_mem_filter among))
  · refine .andThen (staysLegible_of_keeps .get) fun _ _ _ _ => ?_
    refine .andThen (staysLegible_of_keeps (.log (fun _ _ => rfl) _ _)) fun _ _ _ _ => ?_
    exact staysLegible_of_keeps fun _ => rfl

/-! ## Lives -/

/-- If a call loads something, it is a reader that was filled from texts and files, with a
registry that has come about by calls. -/
def Command.IsSound : Command κ ω → Prop
  | .load reader registry _ => reader.Filled ∧ ∃ first start later,
      Registry.Starts first start ∧ Registry.Becomes start later registry
  | _ => True

theorem Life.legible {episodes : List (Episode κ ω)} (life : Life episodes manager)
    (sound : ∀ episode ∈ episodes, episode.command.IsSound) : manager.Legible := by
  induction life with
  | born => exact ⟨List.nodup_nil, List.forall_mem_nil _⟩
  | @call episodes manager command marks earlier env shows ih =>
    obtain ⟨before, last⟩ := List.forall_mem_append.mp sound
    have legible := ih before
    by_cases loads : command.IsLoad
    · cases command with
      | load reader registry geometry =>
        obtain ⟨filled, first, start, later, starts, becomes⟩ := last _ (List.mem_singleton_self _)
        have ledger := starts.ledger.becomes becomes
        exact staysLegible_load geometry filled (fun _ _ => ledger.name_of_resolve) (manager, env)
          legible
      | _ => cases loads
    · refine legible.of_instances_eq ?_
      rw [shows.effect.kept loads]

end Manager

/-! ## Reports -/

namespace RunReport

variable {κ ω : Type} [Payload κ]

/-- A report names the instances that it was made for, or the first of them. -/
theorem names_ofTallies (events workers : Nat) (instances : List (Instance κ ω))
    (tallies : List Tally) :
    ((ofTallies events workers instances tallies).modules.map InstanceReport.module).Sublist
      (instances.map Instance.name) := by
  unfold ofTallies
  induction instances generalizing tallies with
  | nil => exact List.Sublist.refl _
  | cons inst rest ih =>
    cases tallies with
    | nil => exact List.nil_sublist _
    | cons tally more => exact (ih more).cons_cons inst.name

theorem module?_eq_some_iff {report : RunReport}
    (distinct : (report.modules.map InstanceReport.module).Nodup) {name : String}
    {entry : InstanceReport} :
    report.module? name = some entry ↔ entry ∈ report.modules ∧ entry.module = name :=
  List.find?_key_eq_some_iff distinct

end RunReport

namespace Manager

variable {κ ω : Type} [Payload κ] [DecidableEq κ] {manager : Manager κ ω}

/-- The display names of a manager identify its instances. -/
structure Identified (manager : Manager κ ω) : Prop where
  distinct : (manager.instances.map Instance.name).Nodup
  /-- Asked for the name of one of its instances, the report of a run has what it says of this
  instance. -/
  answers : ∀ scheduler host settings env report after,
    runWith scheduler host settings (manager, env) = (.ok report, after) →
    ∀ entry ∈ report.modules, report.module? entry.module = some entry
  /-- It has an answer to the display names of the instances only, and the counts that it gives
  are those of what was seen of the one instance that has the name. -/
  counted : ∀ (scheduler : Scheduler κ ω) host settings env workers plan begun left roster report
      after, scheduler.Fair → (1 < workers → settings.events + workers < 2 ^ 64) →
    outset host settings (manager, env) = (.ok (workers, plan), (begun, left)) →
    Shows scheduler plan settings.events workers left roster →
    runWith scheduler host settings (manager, env) = (.ok report, after) →
    ∀ name entry, report.module? name = some entry ↔
      ∃ index inst, manager.instances[index]? = some inst ∧ inst.name = name ∧
        entry = ⟨name, ⟨turnout true index (visits (actsOf roster)),
          turnout false index (visits (actsOf roster))⟩⟩

theorem nodup_names_of_run {scheduler : Scheduler κ ω} {host : Host} {settings : Settings}
    {env : Env ω} {report : RunReport} {after : Manager κ ω × Env ω}
    (distinct : (manager.instances.map Instance.name).Nodup)
    (ran : runWith scheduler host settings (manager, env) = (.ok report, after)) :
    (report.modules.map InstanceReport.module).Nodup := by
  rcases outset_cases host settings (manager, env) with
    ⟨workers, plan, ⟨begun, left⟩, started⟩ | ⟨text, failed⟩ | ⟨names, failed⟩
  · obtain ⟨tallies, -, rfl⟩ := exists_tallies_of_run started ran
    rw [← (plan_of_outset started).1] at distinct
    exact distinct.sublist (RunReport.names_ofTallies _ _ _ _)
  · cases (runWith_of_error failed).symm.trans ran
  · cases (runWith_of_error failed).symm.trans ran

theorem identified_of_legible (legible : manager.Legible) : Identified manager where
  distinct := legible.nodup_names
  answers _ _ _ _ _ _ ran entry among :=
    (RunReport.module?_eq_some_iff (nodup_names_of_run legible.nodup_names ran)).mpr ⟨among, rfl⟩
  counted scheduler host settings env workers plan begun left roster report after fair fits started
      shows ran name entry := by
    rw [RunReport.module?_eq_some_iff (nodup_names_of_run legible.nodup_names ran),
      ← (plan_of_outset started).1]
    obtain ⟨tallies, processed, rfl⟩ := exists_tallies_of_run started ran
    obtain ⟨-, rfl⟩ := shows.complete fair fits (Proc.eq_of_fst_eq processed)
    rw [List.mem_iff_getElem?]
    simp only [RunPlan.getElem?_modules, Option.map_eq_some_iff]
    constructor
    · rintro ⟨⟨index, inst, found, rfl⟩, rfl⟩
      exact ⟨index, inst, found, rfl, rfl⟩
    · rintro ⟨index, inst, found, rfl, rfl⟩
      exact ⟨⟨index, inst, found, rfl⟩, rfl⟩

/-- **Display names identify instances.**  Whatever calls are made of a manager, its instances
have different display names, as long as what it loads comes from parsed texts and from
registries that have come about by calls.  So the report of a run has for each instance, under
its display name, the counts of this instance and of no other. -/
theorem Life.identified {episodes : List (Episode κ ω)} (life : Life episodes manager)
    (sound : ∀ episode ∈ episodes, episode.command.IsSound) : Identified manager :=
  identified_of_legible (life.legible sound)

end Manager

/-- A setup in which one detector has no name, and one has a colon in its name. -/
def Geometry.colons : Geometry :=
  ⟨[.atOrigin "" "sensor", .atOrigin "left" "sensor", .atOrigin "left:top" "sensor"]⟩

namespace Manager

open Builtin

/-- Calls that load a text for this setup and then initialize what there is. -/
def probing : List (Command PayloadKind Unit) :=
  [.load (Reader.empty.add (.ofString "[Probe]\n") none).2
      ((Registry.Call.register Target.probe).perform (.empty, .empty)).2.1 .colons,
    .init]

/-- The detector without a name leaves no colon behind, and the report of a run answers to the
display names of the others, colons and all. -/
theorem identified_probing :
    ∃ episodes, Life episodes (lead probing (.empty, ⟨(), .empty⟩)).1 ∧
      (∀ episode ∈ episodes, episode.command.IsSound) ∧
      (lead probing (.empty, ⟨(), .empty⟩)).1.instances.map Instance.name
        = ["Probe", "Probe:left", "Probe:left:top"] ∧
      ((run ⟨4, 0, mixedWords⟩ threeOnTwo (lead probing (.empty, ⟨(), .empty⟩))).1.map
        fun report => report.module? "Probe:left")
          = .ok (some ⟨"Probe:left", ⟨3, 0⟩⟩) ∧
      Identified (lead probing (.empty, ⟨(), .empty⟩)).1 := by
  have fair : ∀ command ∈ probing, command.IsFair := by simp [probing, Command.IsFair]
  obtain ⟨episodes, life, called⟩ := Life.born.exists_lead probing fair ⟨(), .empty⟩
  have sound : ∀ episode ∈ episodes, episode.command.IsSound := by
    intro episode among
    have listed : episode.command ∈ probing := called ▸ List.mem_map_of_mem among
    rcases List.mem_cons.mp listed with same | last
    · rw [same]
      exact ⟨.add .empty _ _, _, _, _, .empty, Registry.Becomes.start.call _ _⟩
    · rw [List.mem_singleton.mp last]
      trivial
  exact ⟨episodes, life, sound, by decide +kernel, by decide +kernel, life.identified sound⟩

end Manager

end DetectorSim
