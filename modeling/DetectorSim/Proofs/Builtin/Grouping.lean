import Mathlib.Data.List.Sort
import Mathlib.Data.Prod.Lex
import DetectorSim.Proofs.Builtin.Counting
import DetectorSim.Proofs.Table

/-!
# What digitization makes of charges

Charges are grouped by the pixels that they fall into.  Each of these pixels gets a noise
sample of its own: the first pixel the first one, the second pixel the second one, in the
order of columns and rows and whether or not the signal reaches the threshold.  What is sent
are the pixels whose signal does.

Arithmetic, the pixel of a position and the samples are what they are; nothing is assumed of
them here.
-/

set_option autoImplicit false

namespace DetectorSim

/-! ## Routines that repeat -/

namespace Routine

variable {Op : Type} {Reply : Op → Type} {α β γ : Type}

theorem andThen_assoc (code : Routine Op Reply α) (next : α → Routine Op Reply β)
    (last : β → Routine Op Reply γ) :
    andThen (andThen code next) last = andThen code fun value => andThen (next value) last := by
  induction code with
  | done value => rfl
  | fail err => rfl
  | panic text => rfl
  | ask op rest ih => exact congrArg (ask op) (funext ih)

theorem collectOnto_eq (f : α → Routine Op Reply β) (found : List β) (items : List α) :
    collectOnto f found items
      = andThen (collect f items) fun values => .done (found.reverse ++ values) := by
  induction items generalizing found with
  | nil => simp [collect, collectOnto, andThen]
  | cons a rest ih =>
    simp only [collect, collectOnto, andThen_assoc]
    congr 1
    funext b
    rw [ih, ih [b], andThen_assoc]
    simp [andThen]

theorem collect_cons (f : α → Routine Op Reply β) (a : α) (rest : List α) :
    collect f (a :: rest)
      = andThen (f a) fun b => andThen (collect f rest) fun values => .done (b :: values) := by
  rw [collect, collectOnto]
  congr 1
  funext b
  rw [collectOnto_eq]
  rfl

/-- Repeating code is running it for as many elements, whatever they are. -/
theorem times_eq_collect (code : Routine Op Reply α) (count : Nat) :
    times code count = collect (fun _ : Unit => code) (List.replicate count ()) := by
  unfold times collect
  generalize ([] : List α) = found
  induction count generalizing found with
  | zero => rfl
  | succ count ih =>
    rw [List.replicate_succ, timesOnto, collectOnto]
    congr 1
    funext a
    exact ih (a :: found)

theorem times_succ (code : Routine Op Reply α) (count : Nat) :
    times code (count + 1)
      = andThen code fun a => andThen (times code count) fun values => .done (a :: values) := by
  rw [times_eq_collect, List.replicate_succ, collect_cons, ← times_eq_collect]

/-- If every element asks for one value of the same code, the values can as well be had
first, in the order of the elements. -/
theorem collect_eq_times (code : Routine Op Reply β) (make : α → β → γ) (items : List α) :
    collect (fun a => andThen code fun b => .done (make a b)) items
      = andThen (times code items.length) fun values =>
          .done (List.zipWith make items values) := by
  induction items with
  | nil => rfl
  | cons a rest ih =>
    rw [collect_cons, List.length_cons, times_succ, andThen_assoc, andThen_assoc, ih]
    congr 1
    funext b
    calc andThen (andThen (times code rest.length) fun values =>
            .done (List.zipWith make rest values)) (fun values => .done (make a b :: values))
        = andThen (times code rest.length) fun values =>
            .done (make a b :: List.zipWith make rest values) := andThen_assoc _ _ _
      _ = andThen (andThen (times code rest.length) fun values => .done (b :: values))
            fun values => .done (List.zipWith make (a :: rest) values) := by
          rw [andThen_assoc]
          rfl

end Routine

namespace Builtin

/-! ## Pixels and their charges -/

theorem Pixel.before_iff {a b : Pixel} : Pixel.before a b = true ↔ toLex a < toLex b := by
  rw [Prod.Lex.toLex_lt_toLex]
  simp [Pixel.before]

theorem Pixel.orders_before : Table.Orders Pixel.before where
  trans a b c first second := by
    rw [before_iff] at *
    exact first.trans second
  total a b after apart := by
    rw [before_iff] at *
    exact lt_of_le_of_ne (not_lt.mp after) fun same => apart (toLex_inj.mp same)

namespace Digitizer

variable {pixelOf : PropagatedCharge → Pixel} {arrivals : List PropagatedCharge}
  {pixels : List Pixel}

/-- The pixels that charges fall into, by column and row, each of them once. -/
structure Touched (pixelOf : PropagatedCharge → Pixel) (arrivals : List PropagatedCharge)
    (pixels : List Pixel) : Prop where
  ascending : pixels.Pairwise fun a b => toLex a < toLex b
  mem_iff : ∀ pixel, pixel ∈ pixels ↔ ∃ arrival ∈ arrivals, pixelOf arrival = pixel

/-- What falls into a pixel: the sum from zero on of the charges there, in their order. -/
def chargeIn (pixelOf : PropagatedCharge → Pixel) (arrivals : List PropagatedCharge)
    (pixel : Pixel) : Float :=
  ((arrivals.filter fun arrival => pixelOf arrival = pixel).map PropagatedCharge.charge).foldl
    (· + ·) 0.0

theorem collectCharges_concat (pixelOf : PropagatedCharge → Pixel)
    (arrivals : List PropagatedCharge) (arrival : PropagatedCharge) :
    collectCharges pixelOf (arrivals ++ [arrival])
      = (collectCharges pixelOf arrivals).alterSorted Pixel.before (pixelOf arrival) 0.0
          (· + arrival.charge) := by
  rw [collectCharges, List.foldl_append]
  rfl

theorem chargeIn_concat (pixelOf : PropagatedCharge → Pixel) (arrivals : List PropagatedCharge)
    (arrival : PropagatedCharge) (pixel : Pixel) :
    chargeIn pixelOf (arrivals ++ [arrival]) pixel
      = if pixelOf arrival = pixel then chargeIn pixelOf arrivals pixel + arrival.charge
        else chargeIn pixelOf arrivals pixel := by
  rw [chargeIn, List.filter_append]
  split
  · next here => simp [here, chargeIn]
  · next apart => simp [apart, chargeIn]

/-- A pixel that some charge falls into has the sum of its charges, any other has none. -/
theorem find?_collectCharges (pixelOf : PropagatedCharge → Pixel)
    (arrivals : List PropagatedCharge) (pixel : Pixel) :
    (collectCharges pixelOf arrivals).find? pixel
      = if ∃ arrival ∈ arrivals, pixelOf arrival = pixel
        then some (chargeIn pixelOf arrivals pixel) else none := by
  induction arrivals using List.reverseRecOn with
  | nil => rfl
  | append_singleton arrivals arrival ih =>
    rw [collectCharges_concat, Table.find?_alterSorted, chargeIn_concat]
    by_cases here : pixelOf arrival = pixel
    · have among : ∃ other ∈ arrivals ++ [arrival], pixelOf other = pixel :=
        ⟨arrival, by simp, here⟩
      rw [if_pos here, if_pos here, if_pos among, ih]
      split
      · rfl
      · next untouched =>
        have nothing : (arrivals.filter fun other => pixelOf other = pixel) = [] := by
          simpa using untouched
        rw [chargeIn, nothing]
        rfl
    · have same : (∃ other ∈ arrivals ++ [arrival], pixelOf other = pixel)
          ↔ ∃ other ∈ arrivals, pixelOf other = pixel := by
        simp [or_and_right, exists_or, here]
      rw [if_neg here, if_neg here, ih]
      exact if_congr same.symm rfl rfl

theorem ascending_collectCharges (pixelOf : PropagatedCharge → Pixel)
    (arrivals : List PropagatedCharge) :
    (collectCharges pixelOf arrivals).keys.Pairwise fun a b => Pixel.before a b = true := by
  induction arrivals using List.reverseRecOn with
  | nil => exact .nil
  | append_singleton arrivals arrival ih =>
    rw [collectCharges_concat]
    exact Table.pairwise_alterSorted Pixel.orders_before ih _ _ _

theorem touched_collectCharges (pixelOf : PropagatedCharge → Pixel)
    (arrivals : List PropagatedCharge) :
    Touched pixelOf arrivals (collectCharges pixelOf arrivals).keys where
  ascending := (ascending_collectCharges pixelOf arrivals).imp Pixel.before_iff.mp
  mem_iff pixel := by
    rw [Table.mem_keys_iff, find?_collectCharges]
    simp

theorem Touched.nodup (touched : Touched pixelOf arrivals pixels) : pixels.Nodup :=
  touched.ascending.imp fun {_ _} less same => less.ne (congrArg toLex same)

/-- There is one list of the pixels that charges fall into, whatever the order of the
charges. -/
theorem Touched.unique {others : List Pixel} {more : List PropagatedCharge}
    (touched : Touched pixelOf arrivals pixels) (touched' : Touched pixelOf more others)
    (same : arrivals.Perm more) : pixels = others := by
  have perm : pixels.Perm others :=
    (List.perm_ext_iff_of_nodup touched.nodup touched'.nodup).mpr fun pixel => by
      simp only [touched.mem_iff, touched'.mem_iff, same.mem_iff]
  exact perm.eq_of_pairwise (fun a b _ _ less more => absurd less more.asymm)
    touched.ascending touched'.ascending

theorem Touched.keys_eq (touched : Touched pixelOf arrivals pixels) :
    (collectCharges pixelOf arrivals).keys = pixels :=
  (touched_collectCharges pixelOf arrivals).unique touched (.refl _)

/-- The entries that charges make: the pixels with their sums. -/
theorem Touched.entries_eq (touched : Touched pixelOf arrivals pixels) :
    (collectCharges pixelOf arrivals).entries
      = pixels.map fun pixel => (pixel, chargeIn pixelOf arrivals pixel) := by
  have made := touched_collectCharges pixelOf arrivals
  rw [← touched.keys_eq]
  refine Table.entries_eq_map made.nodup fun pixel among => ?_
  rw [find?_collectCharges, if_pos ((made.mem_iff pixel).mp among)]

/-- Charges that fall into different pixels can come in either order. -/
theorem chargeIn_swap {front back : List PropagatedCharge} {a b : PropagatedCharge}
    (apart : pixelOf a ≠ pixelOf b) (pixel : Pixel) :
    chargeIn pixelOf (front ++ b :: a :: back) pixel
      = chargeIn pixelOf (front ++ a :: b :: back) pixel := by
  have filtered : ((b :: a :: back).filter fun arrival => pixelOf arrival = pixel)
      = (a :: b :: back).filter fun arrival => pixelOf arrival = pixel := by
    by_cases first : pixelOf a = pixel
    · have other : pixelOf b ≠ pixel := fun same => apart (first.trans same.symm)
      simp [first, other]
    · simp [List.filter_cons, first]
  rw [chargeIn, List.filter_append, filtered, ← List.filter_append, ← chargeIn]

theorem collectCharges_swap {front back : List PropagatedCharge} {a b : PropagatedCharge}
    (apart : pixelOf a ≠ pixelOf b) :
    (collectCharges pixelOf (front ++ b :: a :: back)).entries
      = (collectCharges pixelOf (front ++ a :: b :: back)).entries := by
  have touched := touched_collectCharges pixelOf (front ++ b :: a :: back)
  have touched' := touched_collectCharges pixelOf (front ++ a :: b :: back)
  rw [touched.entries_eq, touched'.entries_eq,
    touched.unique touched' ((List.Perm.swap a b back).append_left front)]
  simp only [chargeIn_swap apart]

/-! ## Hits -/

/-- The hits of pixels that have their charges and noises, in order. -/
def hitsOf (threshold : Float) (charges : List (Pixel × Float)) (noises : List Float) :
    List PixelHit :=
  (List.zipWith (fun entry noise => hit? threshold entry.1 entry.2 noise) charges noises).filterMap
    id

theorem hit?_eq_some_iff {threshold charge noise : Float} {pixel : Pixel} {hit : PixelHit} :
    hit? threshold pixel charge noise = some hit ↔
      hit = ⟨pixel.1, pixel.2, charge + noise⟩ ∧ threshold ≤ hit.signal := by
  by_cases reached : threshold ≤ charge + noise
  · simp only [hit?, if_pos reached, Option.some.injEq]
    exact ⟨fun same => ⟨same.symm, same ▸ reached⟩, fun same => same.1.symm⟩
  · simp only [hit?, if_neg reached, reduceCtorEq, false_iff]
    rintro ⟨rfl, reached'⟩
    exact reached reached'

theorem mem_hitsOf_iff {threshold : Float} {charges : List (Pixel × Float)}
    {noises : List Float} {hit : PixelHit} : hit ∈ hitsOf threshold charges noises ↔
      ∃ (index : Nat) (entry : Pixel × Float) (noise : Float), charges[index]? = some entry ∧
        noises[index]? = some noise ∧ hit = ⟨entry.1.1, entry.1.2, entry.2 + noise⟩ ∧
        threshold ≤ hit.signal := by
  rw [hitsOf, List.mem_filterMap]
  simp only [id, exists_eq_right, List.mem_iff_getElem?, List.getElem?_zipWith_eq_some,
    hit?_eq_some_iff]

/-- The hits stand in the order of the pixels. -/
theorem places_sublist (threshold : Float) (charges : List (Pixel × Float))
    (noises : List Float) :
    ((hitsOf threshold charges noises).map fun hit => (hit.column, hit.row)).Sublist
      (charges.map Prod.fst) := by
  induction charges generalizing noises with
  | nil => exact .slnil
  | cons entry rest ih =>
    cases noises with
    | nil => exact List.nil_sublist _
    | cons noise noises =>
      rw [hitsOf, List.zipWith_cons_cons, List.filterMap_cons]
      cases made : hit? threshold entry.1 entry.2 noise with
      | none => exact (ih noises).cons _
      | some hit =>
        obtain ⟨rfl, -⟩ := hit?_eq_some_iff.mp made
        exact (ih noises).cons_cons _

/-- The hits of an event, if the noise samples are given.  The sample with the index of a
pixel is added to what fell into that pixel. -/
structure Recorded (settings : DigitizerSettings) (arrivals : List PropagatedCharge)
    (pixels : List Pixel) (noises : List Float) (hits : List PixelHit) : Prop where
  mem_iff : ∀ hit, hit ∈ hits ↔ ∃ (index : Nat) (pixel : Pixel) (noise : Float),
    pixels[index]? = some pixel ∧ noises[index]? = some noise ∧
      hit = ⟨pixel.1, pixel.2, chargeIn settings.pixelOf arrivals pixel + noise⟩ ∧
      settings.threshold ≤ hit.signal
  ascending : hits.Pairwise fun a b => toLex (a.column, a.row) < toLex (b.column, b.row)

theorem Touched.recorded {settings : DigitizerSettings}
    (touched : Touched settings.pixelOf arrivals pixels) (noises : List Float) :
    Recorded settings arrivals pixels noises (hitsOf settings.threshold
      (collectCharges settings.pixelOf arrivals).entries noises) where
  mem_iff hit := by
    simp only [touched.entries_eq, mem_hitsOf_iff, List.getElem?_map, Option.map_eq_some_iff]
    constructor
    · rintro ⟨index, _, noise, ⟨pixel, placed, rfl⟩, drawn, made⟩
      exact ⟨index, pixel, noise, placed, drawn, made⟩
    · rintro ⟨index, pixel, noise, placed, drawn, made⟩
      exact ⟨index, _, noise, ⟨pixel, placed, rfl⟩, drawn, made⟩
  ascending := by
    have sublist := places_sublist settings.threshold
      (collectCharges settings.pixelOf arrivals).entries noises
    rw [← Table.keys, touched.keys_eq] at sublist
    exact List.pairwise_map.mp (touched.ascending.sublist sublist)

/-! ## Code -/

variable {ω : Type}

/-- Digitization draws its samples one after the other, as many as there are pixels. -/
theorem digitize_eq (samplers : Samplers) (settings : DigitizerSettings)
    (arrivals : List PropagatedCharge) :
    (digitize samplers settings arrivals : EventCode PayloadKind ω (List PixelHit))
      = Routine.andThen
          (Routine.times (samplers.normal settings.noise).draw
            (collectCharges settings.pixelOf arrivals).entries.length)
          fun noises => .done (hitsOf settings.threshold
            (collectCharges settings.pixelOf arrivals).entries noises) := by
  have collected := Routine.collect_eq_times
    ((samplers.normal settings.noise).draw : EventCode PayloadKind ω Float)
    (fun entry noise => hit? settings.threshold entry.1 entry.2 noise)
    (collectCharges settings.pixelOf arrivals).entries
  change Routine.andThen (Routine.collect (digitizePixel samplers settings)
    (collectCharges settings.pixelOf arrivals).entries) _ = _
  rw [show (digitizePixel samplers settings : _ → EventCode PayloadKind ω _) = fun entry =>
    Routine.andThen (samplers.normal settings.noise).draw fun noise =>
      .done (hit? settings.threshold entry.1 entry.2 noise) from rfl, collected,
    Routine.andThen_assoc]
  rfl

/-- The messages that were dispatched. -/
def messagesSent (sights : List (Sight PayloadKind)) : List (AnyMessage PayloadKind) :=
  sights.filterMap fun
    | .dispatched message _ => some message
    | _ => none

theorem messagesSent_append (sights more : List (Sight PayloadKind)) :
    messagesSent (sights ++ more) = messagesSent sights ++ messagesSent more :=
  List.filterMap_append

variable {messenger : Messenger PayloadKind ω} {receiver : Receiver}

theorem messagesSent_of_draws {α : Type} {code : EventCode PayloadKind ω α} {fails : Error → Prop}
    (draws : code.Within EventOp.IsDraw fails) (state : EventState PayloadKind ω) :
    messagesSent (code.sights messenger receiver state) = [] := by
  refine List.filterMap_eq_nil_iff.mpr fun sight seen => ?_
  obtain ⟨op, reply, draw, shown⟩ := EventCode.exists_of_mem_sights draws seen
  cases op with
  | draw =>
    rw [List.mem_singleton.mp shown]
  | _ => cases draw

/-- A sample can always be drawn, which changes nothing but the stream of random words. -/
theorem exec_draw {α : Type} (sampler : Sampler α) (state : EventState PayloadKind ω) :
    ∃ (value : α) (after : EventState PayloadKind ω), after.env = state.env ∧
      after.data.store = state.data.store ∧
      EventCode.exec messenger receiver sampler.draw state = (.ok value, after) := by
  induction sampler generalizing state with
  | done value => exact ⟨value, state, rfl, rfl, rfl⟩
  | word next ih =>
    obtain ⟨value, after, env_eq, store_eq, drawn⟩ := ih state.data.random.next.1
      { state with data := { state.data with random := state.data.random.next.2 } }
    exact ⟨value, after, env_eq, store_eq, drawn⟩

/-- So can any number of samples. -/
theorem exec_samples (sampler : Sampler Float) (count : Nat) (state : EventState PayloadKind ω) :
    ∃ (noises : List Float) (mid : EventState PayloadKind ω), noises.length = count ∧
      mid.env = state.env ∧ mid.data.store = state.data.store ∧
      EventCode.exec messenger receiver (Routine.times sampler.draw count) state
        = (.ok noises, mid) := by
  induction count generalizing state with
  | zero => exact ⟨[], state, rfl, rfl, rfl, rfl⟩
  | succ count ih =>
    obtain ⟨noise, next, env_eq, store_eq, drawn⟩ := exec_draw sampler state
    obtain ⟨noises, mid, length_eq, env_eq', store_eq', later⟩ := ih next
    refine ⟨noise :: noises, mid, congrArg Nat.succ length_eq, env_eq'.trans env_eq,
      store_eq'.trans store_eq, ?_⟩
    rw [Routine.times_succ, EventCode.exec, Routine.run_andThen, ← EventCode.exec, Proc.andThen,
      drawn]
    simp only [Routine.run_andThen]
    rw [← EventCode.exec, Proc.andThen, later]
    rfl

theorem fst_caught_ne_error {σ : Type} (proc : Proc σ Unit) (state : σ) (err : Error) :
    (EventOp.caught proc state).1 ≠ .error err := by
  unfold EventOp.caught
  split <;> nofun

/-- Code that dispatches a message and does not panic has sent it. -/
theorem messagesSent_dispatch {message : AnyMessage PayloadKind} {state : EventState PayloadKind ω}
    (fine : ∀ text, (EventCode.exec messenger receiver
      (.ask (.dispatch message) Routine.ofExcept : EventCode PayloadKind ω Unit) state).1
        ≠ .panic text) :
    messagesSent (EventCode.sights messenger receiver
      (.ask (.dispatch message) Routine.ofExcept : EventCode PayloadKind ω Unit) state)
        = [message] := by
  cases performed : (EventOp.dispatch message).perform messenger receiver state with
  | mk outcome after =>
    cases outcome with
    | ok reply =>
      refine (congrArg messagesSent (EventCode.sights_ask performed)).trans ?_
      cases reply <;> rfl
    | error err => exact absurd (congrArg Prod.fst performed) (fst_caught_ne_error _ state err)
    | panic text =>
      refine absurd ?_ (fine text)
      rw [EventCode.exec, Routine.run.eq_def]
      simp only [performed]

variable [HasWorkspace ω] {samplers : Samplers} {settings : DigitizerSettings}

theorem messagesSent_send (id : InstanceId) (detector : Detector) (hits : List PixelHit)
    {state : EventState PayloadKind ω}
    (fine : ∀ text, ((send id detector hits).exec messenger receiver state).1 ≠ .panic text) :
    ∃ tag, messagesSent ((send id detector hits).sights messenger receiver state)
      = [⟨.hits, ⟨tag, hits, some detector⟩⟩] :=
  ⟨_, messagesSent_dispatch fine⟩

theorem digitizeEvent_eq (samplers : Samplers) (settings : DigitizerSettings) (id : InstanceId)
    (detector : Detector) (arrivals : List PropagatedCharge) :
    (digitizeEvent samplers settings id detector arrivals : EventCode PayloadKind ω Unit)
      = Routine.andThen
          (Routine.times (samplers.normal settings.noise).draw
            (collectCharges settings.pixelOf arrivals).entries.length)
          fun noises => send id detector (hitsOf settings.threshold
            (collectCharges settings.pixelOf arrivals).entries noises) := by
  change Routine.andThen (digitize samplers settings arrivals) (send id detector) = _
  rw [digitize_eq, Routine.andThen_assoc]
  rfl

/-- A run of a digitizer with some charges in its slot: it draws a noise sample for each pixel,
then goes on with the hits that these make, and these are all that it sends. -/
structure Sends (samplers : Samplers) (settings : DigitizerSettings)
    (messenger : Messenger PayloadKind ω) (receiver : Receiver) (id : InstanceId)
    (detector : Detector) (slot : SingleSlot PayloadKind .propagated)
    (state : EventState PayloadKind ω) (noises : List Float) (hits : List PixelHit) :
    Prop where
  goes_on : ∃ mid, mid.env = state.env ∧ mid.data.store = state.data.store ∧
    EventCode.exec messenger receiver
      (Routine.times (samplers.normal settings.noise).draw noises.length) state
        = (.ok noises, mid) ∧
    (Digitizer.module samplers settings id detector slot).run.exec messenger receiver state
      = (send id detector hits).exec messenger receiver mid
  /-- Only a listener that panics can keep it from sending them. -/
  messages_eq : (∀ text,
      ((Digitizer.module samplers settings id detector slot).run.exec messenger receiver state).1
        ≠ .panic text) →
    ∃ tag, messagesSent
        ((Digitizer.module samplers settings id detector slot).run.sights messenger receiver state)
      = [⟨.hits, ⟨tag, hits, some detector⟩⟩]

/-- What becomes of some charges, told by the pixels that they fall into and by the hits for
given noise samples. -/
structure Digitizes (ω : Type) [HasWorkspace ω] (samplers : Samplers)
    (settings : DigitizerSettings) (arrivals : List PropagatedCharge) (pixels : List Pixel)
    (hitsFor : List Float → List PixelHit) : Prop where
  touched : Touched settings.pixelOf arrivals pixels
  recorded : ∀ noises, noises.length = pixels.length →
    Recorded settings arrivals pixels noises (hitsFor noises)
  /-- One noise sample is drawn for each pixel, whatever the threshold. -/
  code_eq : ∀ id detector,
    (digitizeEvent samplers settings id detector arrivals : EventCode PayloadKind ω Unit)
      = Routine.andThen (Routine.times (samplers.normal settings.noise).draw pixels.length)
          fun noises => send id detector (hitsFor noises)
  sends : ∀ (messenger : Messenger PayloadKind ω) (receiver : Receiver) (id : InstanceId)
    (detector : Detector) (slot : SingleSlot PayloadKind .propagated)
    (state : EventState PayloadKind ω) (message : Message PayloadKind .propagated),
    state.data.store.single slot = some message → message.data = arrivals →
    ∃ noises : List Float, noises.length = pixels.length ∧
      Sends samplers settings messenger receiver id detector slot state noises (hitsFor noises)
  /-- Neighbouring charges that fall into different pixels can be exchanged. -/
  exchanged : ∀ front a b back, arrivals = front ++ a :: b :: back →
    settings.pixelOf a ≠ settings.pixelOf b → ∀ id detector,
    (digitizeEvent samplers settings id detector (front ++ b :: a :: back) :
        EventCode PayloadKind ω Unit)
      = digitizeEvent samplers settings id detector arrivals

theorem exists_sends {slot : SingleSlot PayloadKind .propagated}
    (messenger : Messenger PayloadKind ω) (receiver : Receiver) (id : InstanceId)
    (detector : Detector) {state : EventState PayloadKind ω}
    {message : Message PayloadKind .propagated}
    (held : state.data.store.single slot = some message) {count : Nat}
    {hitsFor : List Float → List PixelHit}
    (code_eq : (digitizeEvent samplers settings id detector message.data :
        EventCode PayloadKind ω Unit)
      = Routine.andThen (Routine.times (samplers.normal settings.noise).draw count)
          fun noises => send id detector (hitsFor noises)) :
    ∃ noises : List Float, noises.length = count ∧
      Sends samplers settings messenger receiver id detector slot state noises
        (hitsFor noises) := by
  have exec_held :
      (Digitizer.module samplers settings id detector slot).run.exec messenger receiver state
        = (digitizeHeld samplers settings id detector (state.data.store.single slot)).exec
            messenger receiver state := rfl
  have sights_held :
      (Digitizer.module samplers settings id detector slot).run.sights messenger receiver state
        = [.single .propagated slot (state.data.store.single slot)]
          ++ (digitizeHeld samplers settings id detector (state.data.store.single slot)).sights
            messenger receiver state := rfl
  have code_held : (digitizeHeld samplers settings id detector (state.data.store.single slot) :
      EventCode PayloadKind ω Unit)
        = Routine.andThen (Routine.times (samplers.normal settings.noise).draw count)
            fun noises => send id detector (hitsFor noises) := by
    rw [held, ← code_eq]
    rfl
  rw [code_held] at exec_held sights_held
  obtain ⟨noises, mid, rfl, env_eq, store_eq, drawn⟩ :=
    exec_samples (samplers.normal settings.noise) count state
  have exec_eq :
      (Digitizer.module samplers settings id detector slot).run.exec messenger receiver state
        = (send id detector (hitsFor noises)).exec messenger receiver mid := by
    rw [exec_held, EventCode.exec, Routine.run_andThen, ← EventCode.exec, Proc.andThen, drawn]
    rfl
  refine ⟨noises, rfl, ⟨mid, env_eq, store_eq, drawn, exec_eq⟩, fun fine => ?_⟩
  rw [exec_eq] at fine
  obtain ⟨tag, sent⟩ := messagesSent_send id detector (hitsFor noises) fine
  refine ⟨tag, ?_⟩
  rw [sights_held, EventCode.sights_andThen drawn, messagesSent_append, messagesSent_append,
    messagesSent_of_draws (Routine.Within.times (Sampler.isSampling_draw _) _), sent]
  rfl

/-- **Digitization.**  Charges are grouped by the pixels that they fall into.  Each of these
pixels, by column and row, gets the next noise sample, and the hits are those whose sum and
noise reach the threshold. -/
theorem exists_digitizes (ω : Type) [HasWorkspace ω] (samplers : Samplers)
    (settings : DigitizerSettings) (arrivals : List PropagatedCharge) :
    ∃ pixels hitsFor, Digitizes ω samplers settings arrivals pixels hitsFor := by
  have touched := touched_collectCharges settings.pixelOf arrivals
  have code_eq (id : InstanceId) (detector : Detector) :
      (digitizeEvent samplers settings id detector arrivals : EventCode PayloadKind ω Unit) = _ :=
    digitizeEvent_eq samplers settings id detector arrivals
  rw [show (collectCharges settings.pixelOf arrivals).entries.length
    = (collectCharges settings.pixelOf arrivals).keys.length from (List.length_map _).symm]
      at code_eq
  refine ⟨_, _, touched, fun noises _ => touched.recorded noises, code_eq, ?_, ?_⟩
  · rintro messenger receiver id detector slot state message held rfl
    exact exists_sends messenger receiver id detector held (code_eq id detector)
  · rintro front a b back rfl apart id detector
    rw [digitizeEvent_eq, digitizeEvent_eq, collectCharges_swap apart]

end Digitizer

end Builtin

end DetectorSim
