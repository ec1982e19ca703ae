import DetectorSim.Proofs.Builtin.Crew
import DetectorSim.Proofs.Builtin.Lines
import DetectorSim.Proofs.Module.Conduct

/-!
# What the built-in modules exchange

Each module of the built-in collection is specified by the topics that an event has when
the module is called and when it has ended well: the generator adds the deposits of the
detectors for which somebody waits, a propagation turns deposits into propagated charges,
a digitizer these into hits, and the writer adds nothing.  Between reading and sending a
module only computes and draws random words.
-/

set_option autoImplicit false

namespace DetectorSim

/-! ## Errors -/

namespace Error

/-- An error that was caused by a second message for a slot that takes one. -/
def IsOverwrite (err : Error) : Prop :=
  ∃ module type event, err.cause = .messageOverwrite module type event

theorem not_isOverwrite {err : Error}
    (other : ∀ module type event, err.cause ≠ .messageOverwrite module type event) :
    ¬ err.IsOverwrite :=
  fun ⟨module, type, event, cause⟩ => other module type event cause

end Error

/-! ## Messages for one detector each -/

namespace Messenger

variable {κ ω : Type} [Payload κ] [DecidableEq κ]

/-- There are no listeners, and a slot for one message takes messages on one topic only, as
long as all messages are for detectors. -/
structure Strict (bonds : List (Bond κ ω)) : Prop where
  unheard : Unheard bonds
  narrow : ∀ bond ∈ bonds, bond.delegate.kind.slotKind = .single →
    ∀ {kind other : κ} {name name' : String}, bond.Takes (kind, some name) →
      bond.Takes (other, some name') → (kind, name) = (other, name')

end Messenger

namespace EventCode

variable {κ ω α : Type} [Payload κ]

/-- Code that has nothing to do with messages, and does not fail because of them. -/
abbrev IsInner (code : EventCode κ ω α) : Prop :=
  code.Within EventOp.IsInner fun err => ¬ err.IsOverwrite

theorem isInner_log (level : Level) (text : String) :
    (EventCode.log level text : EventCode κ ω Unit).IsInner :=
  .ask trivial fun _ => .done ()

theorem isInner_thread : (EventCode.thread : EventCode κ ω ThreadId).IsInner :=
  .ask trivial .done

theorem isInner_update (f : ω → ω) : (EventCode.update f : EventCode κ ω ω).IsInner :=
  .ask trivial .done

/-- Code that only draws random words, and does not fail because of messages. -/
abbrev IsSampling (code : EventCode κ ω α) : Prop :=
  code.Within EventOp.IsDraw fun err => ¬ err.IsOverwrite

theorem IsSampling.inner {code : EventCode κ ω α} (sampling : code.IsSampling) : code.IsInner :=
  sampling.mono (fun _ draw => draw.inner) fun _ => id

variable [DecidableEq κ] {messenger : Messenger κ ω} {receiver : Receiver}
  {fails : Error → Prop} {bonds : List (Bond κ ω)} {topics : Topic κ → Prop} {kind : κ}

/-- A message for a detector is sent with success if none was sent on its topic before. -/
theorem Leads.send (wired : messenger.Wired bonds) (strict : Messenger.Strict bonds)
    (named : ∀ kind, ¬ topics (kind, none)) {detector : Detector}
    (fresh : ¬ topics (kind, some detector.name)) (data : Payload.Data kind) :
    Leads messenger receiver fails (MessageStore.Laden bonds topics)
      (EventCode.dispatch kind data (some detector))
      fun _ => MessageStore.Laden bonds fun topic =>
        topics topic ∨ topic = (kind, some detector.name) := by
  apply Leads.dispatch wired strict.unheard
  rintro bond live single takes ⟨other, name⟩ was_sent again
  cases name with
  | none => exact named other was_sent
  | some name =>
    obtain ⟨rfl, rfl⟩ := Prod.mk.inj (strict.narrow bond live single takes again)
    exact fresh was_sent

/-- Code that goes on with a message finds one, if the slot was supplied. -/
theorem Leads.consume {bond : Bond κ ω} (live : bond ∈ bonds)
    (alone : bond.delegate.kind = .single) (own : bond.kind = kind) {topic : Topic κ}
    (supplied : topics topic) (takes : bond.Takes topic)
    {next : Option (Message κ kind) → EventCode κ ω α} {after : α → MessageStore κ → Prop}
    (works : ∀ message,
      Leads messenger receiver fails (MessageStore.Laden bonds topics) (next (some message))
        after) :
    Leads messenger receiver fails (MessageStore.Laden bonds topics)
      (EventCode.single ⟨bond.slot⟩ >>= next) after := by
  apply (Leads.single _).bind
  rintro held state ⟨laden, rfl⟩
  obtain ⟨message, read⟩ := laden.exists_single live alone own supplied takes
  rw [read]
  exact works message state laden

omit [DecidableEq κ] in
theorem within_dispatch (data : Payload.Data kind) (detector : Option Detector) :
    (EventCode.dispatch kind data detector : EventCode κ ω Unit).Within
      (fun op => ¬ op.IsReading) fun _ => True := by
  apply Routine.Within.ask id
  intro message
  apply Routine.Within.ask id
  intro result
  cases result with
  | ok value => exact .done value
  | error err => exact .fail trivial

end EventCode

namespace Sight

variable {κ ω : Type} [Payload κ]

/-- What is seen in a slot. -/
def IsReading : Sight κ → Prop
  | .single .. => True
  | .multi .. => True
  | _ => False

/-- Nothing is seen in a slot without reading one. -/
theorem not_isReading_of_mem {op : EventOp κ ω} {reply : op.Reply} (blind : ¬ op.IsReading)
    {sight : Sight κ} (seen : sight ∈ op.sights reply) : ¬ sight.IsReading := by
  cases op with
  | hook op => cases seen
  | single kind slot => exact absurd trivial blind
  | multi kind slot => exact absurd trivial blind
  | _ =>
    rw [List.mem_singleton.mp seen]
    exact id

end Sight

namespace Builtin

open EventCode (Leads)

/-! ## Random numbers -/

section Sampling

variable {κ ω : Type} [Payload κ]

/-- Drawing a sample does not fail. -/
theorem Sampler.isSampling_draw {α : Type} (sampler : Sampler α) :
    (sampler.draw : EventCode κ ω α).IsSampling := by
  induction sampler with
  | done value => exact .done value
  | word next ih => exact .ask trivial ih

theorem isSampling_sampleBelow (samplers : Samplers) (limit : Float) :
    (sampleBelow samplers limit : EventCode κ ω Float).IsSampling := by
  unfold sampleBelow
  split
  · exact Sampler.isSampling_draw _
  · exact .panic _

end Sampling

/-! ## Modules -/

section Modules

variable {ω : Type} {messenger : Messenger PayloadKind ω} {receiver : Receiver}
  {bonds : List (Bond PayloadKind ω)} {topics : Topic PayloadKind → Prop}
  (samplers : Samplers)

namespace Deposition

theorem isSampling_sampleDeposit (settings : DepositionSettings) :
    (sampleDeposit samplers settings : EventCode PayloadKind ω DepositedCharge).IsSampling :=
  (isSampling_sampleBelow _ _).bind fun _ => (isSampling_sampleBelow _ _).bind fun _ =>
    (isSampling_sampleBelow _ _).bind fun _ => (Sampler.isSampling_draw _).bind fun _ => .done _

theorem isSampling_sampleDeposits (settings : DepositionSettings) :
    (sampleDeposits samplers settings :
      EventCode PayloadKind ω (List DepositedCharge)).IsSampling := by
  apply (Sampler.isSampling_draw _).bind
  intro value
  dsimp only
  split
  · exact (isSampling_sampleDeposit samplers settings).times _
  · exact .panic _

/-- A detector gets its deposits if somebody waits for them. -/
theorem leads_depositIn (wired : messenger.Wired bonds) (strict : Messenger.Strict bonds)
    (settings : DepositionSettings) {detector : Detector}
    (named : ∀ kind, ¬ topics (kind, none)) (fresh : ¬ topics (.deposited, some detector.name)) :
    Leads messenger receiver (fun err => ¬ err.IsOverwrite) (MessageStore.Laden bonds topics)
      (depositIn samplers settings detector)
      fun _ => MessageStore.Laden bonds fun topic => topics topic ∨
        topic = (.deposited, some detector.name) ∧ ∃ bond ∈ bonds, bond.Takes topic := by
  apply (Leads.hasReceiver wired []).bind
  rintro found state ⟨laden, found_iff⟩
  cases found with
  | false =>
    apply laden.congr
    intro topic
    refine ⟨.inl, fun known => known.resolve_right ?_⟩
    rintro ⟨rfl, waits⟩
    exact absurd (found_iff.mpr waits) nofun
  | true =>
    have waits := found_iff.mp rfl
    have samples : Leads messenger receiver (fun err => ¬ err.IsOverwrite)
        (MessageStore.Laden bonds topics) (sampleDeposits samplers settings)
        fun _ => MessageStore.Laden bonds topics :=
      .inner (isSampling_sampleDeposits samplers settings).inner
    refine samples.bind (fun charges => ?_) state laden
    apply (Leads.inner (EventCode.isInner_log _ _)).bind
    intro _
    apply (Leads.send wired strict named fresh charges).mono fun _ => id
    intro _ store laden
    apply laden.congr
    intro topic
    refine or_congr_right ⟨?_, And.left⟩
    rintro rfl
    exact ⟨rfl, waits⟩

/-- The generator adds deposits in each detector for which somebody waits for them. -/
theorem leads_run (wired : messenger.Wired bonds) (strict : Messenger.Strict bonds)
    (settings : DepositionSettings) {detectors : List Detector}
    (distinct : (detectors.map Detector.name).Nodup) (named : ∀ kind, ¬ topics (kind, none))
    (fresh : ∀ detector ∈ detectors, ¬ topics (.deposited, some detector.name)) :
    Leads messenger receiver (fun err => ¬ err.IsOverwrite) (MessageStore.Laden bonds topics)
      (Routine.each (depositIn samplers settings) detectors)
      fun _ => MessageStore.Laden bonds fun topic => topics topic ∨
        ∃ detector ∈ detectors, topic = (.deposited, some detector.name) ∧
          ∃ bond ∈ bonds, bond.Takes topic := by
  induction detectors generalizing topics with
  | nil =>
    apply Leads.done
    intro store laden
    apply laden.congr
    simp
  | cons detector rest ih =>
    obtain ⟨new, distinct⟩ := List.nodup_cons.mp distinct
    obtain ⟨here, others⟩ := List.forall_mem_cons.mp fresh
    apply (leads_depositIn samplers wired strict settings named here).andThen
    intro _
    apply (ih distinct ?_ ?_).mono fun _ => id
    · intro _ store laden
      apply laden.congr
      intro topic
      rw [or_assoc, List.exists_mem_cons_iff]
    · rintro kind (known | ⟨same, -⟩)
      · exact named kind known
      · cases same
    · rintro other among (known | ⟨same, -⟩)
      · exact others other among known
      · refine new (List.mem_map.mpr ⟨other, among, ?_⟩)
        exact Option.some.inj (Prod.mk.inj same).2

end Deposition

namespace Propagation

theorem isSampling_sampleShift (spread : Float) :
    (sampleShift samplers spread : EventCode PayloadKind ω (Float × Float)).IsSampling := by
  unfold sampleShift
  split
  · split
    · exact .fail (Error.not_isOverwrite nofun)
    · exact (Sampler.isSampling_draw _).bind fun _ =>
        (Sampler.isSampling_draw _).bind fun _ => .done _
  · exact .done _

theorem isSampling_propagate (diffusion : Float) (deposit : DepositedCharge) :
    (propagate samplers diffusion deposit :
      EventCode PayloadKind ω PropagatedCharge).IsSampling :=
  (isSampling_sampleShift samplers _).bind fun _ => .done _

/-- A propagation that has got deposits sends the charges of its detector. -/
theorem leads_run (wired : messenger.Wired bonds) (strict : Messenger.Strict bonds)
    (diffusion : Float) {detector : Detector} {bond : Bond PayloadKind ω} (live : bond ∈ bonds)
    (alone : bond.delegate.kind = .single) (own : bond.kind = .deposited)
    {topic : Topic PayloadKind} (supplied : topics topic) (takes : bond.Takes topic)
    (named : ∀ kind, ¬ topics (kind, none))
    (fresh : ¬ topics (.propagated, some detector.name)) :
    Leads messenger receiver (fun err => ¬ err.IsOverwrite) (MessageStore.Laden bonds topics)
      (Propagation.module samplers diffusion detector ⟨bond.slot⟩ : Module PayloadKind ω).run
      fun _ => MessageStore.Laden bonds fun topic =>
        topics topic ∨ topic = (.propagated, some detector.name) := by
  apply Leads.consume live alone own supplied takes
  intro message
  have propagates : EventCode.IsSampling (ω := ω)
      (Routine.collect (propagate samplers diffusion) message.data) :=
    .collect (isSampling_propagate samplers diffusion) message.data
  apply (Leads.inner propagates.inner).bind
  intro arrivals
  apply (Leads.inner (EventCode.isInner_log _ _)).bind
  intro _
  exact Leads.send wired strict named fresh arrivals

end Propagation

namespace Digitizer

theorem isSampling_digitizePixel (settings : DigitizerSettings) (entry : Pixel × Float) :
    (digitizePixel samplers settings entry :
      EventCode PayloadKind ω (Option PixelHit)).IsSampling :=
  (Sampler.isSampling_draw _).bind fun _ => .done _

theorem isSampling_digitize (settings : DigitizerSettings) (arrivals : List PropagatedCharge) :
    (digitize samplers settings arrivals : EventCode PayloadKind ω (List PixelHit)).IsSampling :=
  (Routine.Within.collect (isSampling_digitizePixel samplers settings) _).bind fun _ => .done _

variable [HasWorkspace ω]

/-- A digitizer that has got charges sends the hits of its detector. -/
theorem leads_run (wired : messenger.Wired bonds) (strict : Messenger.Strict bonds)
    (settings : DigitizerSettings) (id : InstanceId) {detector : Detector}
    {bond : Bond PayloadKind ω} (live : bond ∈ bonds) (alone : bond.delegate.kind = .single)
    (own : bond.kind = .propagated) {topic : Topic PayloadKind} (supplied : topics topic)
    (takes : bond.Takes topic) (named : ∀ kind, ¬ topics (kind, none))
    (fresh : ¬ topics (.hits, some detector.name)) :
    Leads messenger receiver (fun err => ¬ err.IsOverwrite) (MessageStore.Laden bonds topics)
      (Digitizer.module samplers settings id detector ⟨bond.slot⟩ : Module PayloadKind ω).run
      fun _ => MessageStore.Laden bonds fun topic =>
        topics topic ∨ topic = (.hits, some detector.name) := by
  apply Leads.consume live alone own supplied takes
  intro message
  apply (Leads.inner (isSampling_digitize samplers settings message.data).inner).bind
  intro hits
  apply (Leads.inner EventCode.isInner_thread).bind
  intro thread
  apply (Leads.inner (EventCode.isInner_update _)).bind
  intro _
  exact Leads.send wired strict named fresh hits

theorem within_digitizeEvent (settings : DigitizerSettings) (id : InstanceId)
    (detector : Detector) (arrivals : List PropagatedCharge) :
    (digitizeEvent samplers settings id detector arrivals : EventCode PayloadKind ω Unit).Within
      (fun op => ¬ op.IsReading) fun _ => True := by
  have blind {α : Type} {code : EventCode PayloadKind ω α} (inner : code.IsInner) :
      code.Within (fun op => ¬ op.IsReading) fun _ => True :=
    inner.mono (fun _ own => own.not_isReading) fun _ _ => trivial
  apply (blind (isSampling_digitize samplers settings arrivals).inner).bind
  intro hits
  apply (blind EventCode.isInner_thread).bind
  intro thread
  apply (blind (EventCode.isInner_update _)).bind
  intro _
  exact @EventCode.within_dispatch PayloadKind ω _ .hits hits (some detector)

/-- A digitizer looks into its slot, once, and nowhere else. -/
theorem reading_of_mem_sights {samplers : Samplers} {settings : DigitizerSettings} {id : InstanceId}
    {detector : Detector} {arrivals : SingleSlot PayloadKind .propagated}
    {state : EventState PayloadKind ω} {sight : Sight PayloadKind}
    (seen : sight ∈ EventCode.sights messenger receiver
      (Digitizer.module samplers settings id detector arrivals : Module PayloadKind ω).run state)
    (reading : sight.IsReading) :
    sight = .single .propagated arrivals (state.data.store.single arrivals) := by
  rcases List.mem_cons.mp seen with first | later
  · exact first
  · exfalso
    cases held : state.data.store.single arrivals with
    | none =>
      rw [held] at later
      cases later
    | some message =>
      rw [held] at later
      have within := within_digitizeEvent (ω := ω) samplers settings id detector message.data
      obtain ⟨op, reply, blind, among⟩ := EventCode.exists_of_mem_sights within later
      exact Sight.not_isReading_of_mem blind among reading

end Digitizer

namespace Writer

variable [HasWorkspace ω]

theorem isInner_afterLine (id : InstanceId) (event count : Nat) (before : ω) :
    (afterLine id event count before).IsInner := by
  unfold afterLine
  cases ((HasWorkspace.workspace before).writer id).output with
  | none => exact .fail (Error.not_isOverwrite nofun)
  | some key => exact EventCode.isInner_log _ _

/-- The writer sends nothing. -/
theorem leads_run (id : InstanceId) (path : String) (slot : MultiSlot PayloadKind .hits)
    {before : MessageStore PayloadKind → Prop} :
    Leads messenger receiver (fun err => ¬ err.IsOverwrite) before
      (Writer.module id path slot : Module PayloadKind ω).run fun _ => before := by
  apply (Leads.multi slot).bind
  intro messages
  apply Leads.number.bind
  intro event
  apply (Leads.inner (EventCode.isInner_update _)).bind
  intro world
  exact Leads.inner (isInner_afterLine id event (countHits messages) world)

section Running

variable {id : InstanceId} {slot : MultiSlot PayloadKind .hits}
  {state : EventState PayloadKind ω}

theorem world_afterLine (event count : Nat) (before : ω) :
    ((afterLine id event count before).exec messenger receiver state).2.env.world
      = state.env.world := by
  unfold afterLine
  cases ((HasWorkspace.workspace before).writer id).output <;> rfl

/-- Whether its file is open or not, the writer adds the line of the event if it can. -/
theorem world_exec_run : ((run id slot).exec messenger receiver state).2.env.world
    = onWorkspace (addLine id (lineOf state.data.store.event (state.data.store.multi slot))
        (countHits (state.data.store.multi slot))) state.env.world :=
  world_afterLine state.data.store.event (countHits (state.data.store.multi slot))
    state.env.world

end Running

end Writer

end Modules

end Builtin

end DetectorSim
