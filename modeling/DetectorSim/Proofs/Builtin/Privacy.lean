import DetectorSim.Proofs.Builtin.Chain
import DetectorSim.Proofs.Builtin.Counting

/-!
# Who touches the counts of digitizers

The other modules of the built-in collection draw random words, send messages, and keep
files and their own records in the world.  None of that shows in what a digitizer has
counted.  So the digitizers of each lineup have their counts for themselves.
-/

set_option autoImplicit false

namespace DetectorSim

namespace EventCode

variable {κ ω α τ : Type} [Payload κ] {view : ω → ThreadId → τ}

/-- Drawing random words shows nowhere. -/
theorem spares_of_draws {code : EventCode κ ω α} {fails : Error → Prop}
    (draws : code.Within EventOp.IsDraw fails) : code.Spares view := by
  refine draws.mono (fun op draw => ?_) fun _ _ => trivial
  rintro hook rfl
  cases draw

theorem spares_log (level : Level) (text : String) :
    (EventCode.log level text : EventCode κ ω Unit).Spares view := by
  refine .ask (fun hook same => ?_) fun _ => .done ()
  obtain rfl := EventOp.hook.inj same
  exact fun _ => rfl

end EventCode

namespace Builtin

open EventCode (spares_of_draws spares_log)

variable {ω : Type} [HasWorkspace ω] {id : InstanceId}

/-! ## The other modules -/

theorem Deposition.spares_run (samplers : Samplers) (settings : DepositionSettings)
    (geometry : Geometry) :
    (Deposition.module samplers settings geometry : Module PayloadKind ω).run.Spares
      (Digitizer.view id) := by
  have each : ∀ detector,
      (depositIn samplers settings detector : EventCode PayloadKind ω Unit).Spares
        (Digitizer.view id) := by
    intro detector
    have asks : (EventCode.hasReceiver PayloadKind.deposited [] (some detector) :
        EventCode PayloadKind ω Bool).Spares (Digitizer.view id) :=
      .ask nofun fun message => .ask nofun .done
    refine asks.bind fun found => ?_
    cases found with
    | false => exact .done ()
    | true =>
      exact (spares_of_draws (isSampling_sampleDeposits samplers settings)).bind fun charges =>
        (spares_log _ _).bind fun _ =>
          EventCode.spares_dispatch PayloadKind.deposited charges (some detector)
  show (Routine.each _ geometry.detectors).Within _ _
  induction geometry.detectors with
  | nil => exact .done ()
  | cons detector rest ih => exact (each detector).andThen fun _ => ih

theorem Propagation.spares_run (samplers : Samplers) (diffusion : Float)
    (detector : Detector) (deposits : SingleSlot PayloadKind .deposited) :
    (Propagation.module samplers diffusion detector deposits : Module PayloadKind ω).run.Spares
      (Digitizer.view id) := by
  refine (EventCode.spares_single deposits).bind fun held => ?_
  cases held with
  | none => exact .done ()
  | some message =>
    have propagates : EventCode.IsSampling (ω := ω)
        (Routine.collect (propagate samplers diffusion) message.data) :=
      .collect (isSampling_propagate samplers diffusion) message.data
    exact (spares_of_draws propagates).bind fun arrivals => (spares_log _ _).bind fun _ =>
      EventCode.spares_dispatch PayloadKind.propagated arrivals (some detector)

namespace Writer

variable [LawfulWorkspace ω]

/-- Changes of what a writer keeps do not touch the counts. -/
theorem countsOf_onWorkspace {f : Workspace → Workspace} {world : ω}
    (pending_eq : (f (HasWorkspace.workspace world)).pending
      = (HasWorkspace.workspace world).pending)
    (totals_eq : (f (HasWorkspace.workspace world)).totals
      = (HasWorkspace.workspace world).totals) :
    countsOf id (onWorkspace f world) = countsOf id world := by
  unfold countsOf Workspace.pending? Workspace.total
  rw [workspace_onWorkspace, pending_eq, totals_eq]

theorem spares_run (writer : InstanceId) (path : String) (hits : MultiSlot PayloadKind .hits) :
    (Writer.module writer path hits : Module PayloadKind ω).run.Spares (Digitizer.view id) := by
  have reads : (EventCode.multi hits : EventCode PayloadKind ω _).Spares (Digitizer.view id) :=
    .ask nofun .done
  have asks : (EventCode.number : EventCode PayloadKind ω Nat).Spares (Digitizer.view id) :=
    .ask nofun .done
  refine reads.bind fun messages => asks.bind fun event => ?_
  refine (EventCode.spares_update fun world _ => ?_).bind fun before => ?_
  · apply countsOf_onWorkspace <;> (unfold addLine; split <;> rfl)
  · cases ((HasWorkspace.workspace before).writer writer).output with
    | none => exact .fail trivial
    | some key => exact spares_log _ _

theorem spares_finalize (writer : InstanceId) (path : String) :
    (Writer.finalize writer path : Hook ω Unit).Spares (Digitizer.view id) := by
  refine (Hook.spares_update fun world _ => countsOf_onWorkspace rfl rfl).bind fun _ => ?_
  exact Hook.spares_world.bind fun _ => Hook.spares_log _ _

end Writer

/-! ## Lineups -/

section Lineups

variable {geometry : Geometry} {parts : List Part} {bonds : List (Bond PayloadKind ω)}
  {messenger : Messenger PayloadKind ω} {instances : List (Instance PayloadKind ω)}
  {inst : Instance PayloadKind ω} {part : Part}

/-- Of the parts of the built-in collection only digitizers merge hits at the end of a
thread. -/
theorem Member.isDigitizer_iff (member : Member geometry bonds part inst) :
    IsDigitizer inst ↔ ∃ detector, part = .digitizer detector := by
  have idle (idles : inst.module.threadFinalize = .done ()) :
      ¬ IsDigitizer inst := by
    rintro ⟨samplers, settings, detector, arrivals, module_eq⟩
    rw [module_eq] at idles
    cases idles
  cases member with
  | digitizer samplers settings known own binds module_eq =>
    exact iff_of_true ⟨_, _, _, _, module_eq⟩ ⟨_, rfl⟩
  | generator samplers settings unbound module_eq =>
    exact iff_of_false (idle (by rw [module_eq]; rfl)) nofun
  | propagation samplers diffusion known own binds module_eq =>
    exact iff_of_false (idle (by rw [module_eq]; rfl)) nofun
  | writer path own binds module_eq =>
    exact iff_of_false (idle (by rw [module_eq]; rfl)) nofun

variable [LawfulWorkspace ω]

/-- All other parts leave the counts alone. -/
theorem Member.spares (member : Member geometry bonds part inst) (other : ¬ IsDigitizer inst)
    (unheard : messenger.Spares (Digitizer.view id)) : Spares messenger id inst := by
  rw [member.isDigitizer_iff] at other
  cases member with
  | digitizer => exact absurd ⟨_, rfl⟩ other
  | generator samplers settings unbound module_eq =>
    constructor <;> rw [module_eq]
    · exact fun _ => rfl
    · exact (Deposition.spares_run samplers settings geometry).keeps unheard inst.receiver
    · exact fun _ => rfl
    · exact fun _ => rfl
  | propagation samplers diffusion known own binds module_eq =>
    constructor <;> rw [module_eq]
    · exact fun _ => rfl
    · exact (Propagation.spares_run samplers diffusion _ _).keeps unheard inst.receiver
    · exact fun _ => rfl
    · exact fun _ => rfl
  | writer path own binds module_eq =>
    constructor <;> rw [module_eq]
    · exact fun _ => rfl
    · exact (Writer.spares_run inst.receiver.id path _).keeps unheard inst.receiver
    · exact fun _ => rfl
    · exact (Writer.spares_finalize inst.receiver.id path).keeps

/-- The digitizers of a lineup have their counts for themselves. -/
theorem Lineup.private_counts (lineup : Lineup geometry parts bonds instances messenger) :
    Private messenger instances := by
  have unheard (id : InstanceId) : messenger.Spares (Digitizer.view (ω := ω) id) := by
    intro message delegate accepted callback heard
    obtain ⟨bond, live, -, rfl⟩ := lineup.wired.mem_accepting_iff.mp accepted
    exact absurd heard (lineup.strict.unheard bond live callback)
  refine ⟨?_, fun digitizer _ _ inst among other => ?_, fun digitizer _ _ => unheard _⟩
  · intro i j first second found found' made made' same
    obtain ⟨part, here, member⟩ := lineup.exists_part found
    obtain ⟨part', here', member'⟩ := lineup.exists_part found'
    obtain ⟨name, rfl⟩ := member.isDigitizer_iff.mp made
    obtain ⟨name', rfl⟩ := member'.isDigitizer_iff.mp made'
    -- Two with one handle would own one bond, and so be for one detector.
    have parts_eq : name = name' := by
      cases member with
      | @digitizer _ bond _ _ detector _ own binds =>
        cases member' with
        | @digitizer _ bond' _ _ detector' _ own' binds' =>
          have shared : bond = bond' := by
            refine binds'.alone bond binds.live ?_
            rw [Bond.owner, binds.receiver_eq, same]
          have receivers : first.receiver = second.receiver := by
            rw [← binds.receiver_eq, ← binds'.receiver_eq, shared]
          rw [receivers, own'] at own
          rw [Option.some.inj own]
    subst parts_eq
    obtain ⟨inside, -⟩ := List.getElem?_eq_some_iff.mp here
    exact (List.getElem?_inj inside lineup.distinct).mp (here.trans here'.symm)
  · obtain ⟨index, found⟩ := List.mem_iff_getElem?.mp among
    obtain ⟨part, -, member⟩ := lineup.exists_part found
    exact member.spares other (unheard _)

/-- So have the digitizers of what is loaded from sections of the built-in collection. -/
theorem private_of_load {samplers : Samplers} {reader : Config.Reader}
    {registry : Registry PayloadKind ω} {env left : Env ω} {manager : Manager PayloadKind ω}
    (standard : ∀ s ∈ reader.moduleSections, ∀ descriptor,
      registry.resolve s.name = .ok descriptor →
        descriptor ∈ (collection samplers : Collection PayloadKind ω).descriptors)
    (loaded : Manager.load reader registry geometry (.empty, env) = (.ok (), (manager, left))) :
    Private manager.messenger manager.instances := by
  obtain ⟨parts, bonds, lineup⟩ := exists_lineup_of_load standard loaded
  exact lineup.private_counts

end Lineups

end Builtin

end DetectorSim
