import Mathlib.Data.List.Forall2
import Mathlib.Data.List.Induction
import Mathlib.Data.List.Nodup
import DetectorSim.Geometry
import DetectorSim.Proofs.Keyed
import DetectorSim.Proofs.Procedure

/-!
# Setups

A setup takes one detector of each name, whichever comes first, and keeps those that it
took in the order of their coming.  A setup that is read from a configuration has one
detector for each section with a name, or else the first section that is no good decides
with which error the reading ends.
-/

set_option autoImplicit false

namespace DetectorSim

open Config

namespace Geometry

/-! ## Adding detectors -/

/-- The names of the detectors, in order. -/
def names (geometry : Geometry) : List String :=
  geometry.detectors.map Detector.name

/-- No two detectors share their name. -/
def Distinct (geometry : Geometry) : Prop :=
  (geometry.detectors.map Detector.name).Nodup

instance (geometry : Geometry) : Decidable geometry.Distinct :=
  inferInstanceAs (Decidable (geometry.detectors.map Detector.name).Nodup)

variable {geometry : Geometry} {detector : Detector} {name type : String}
  {detectors : List Detector}

theorem distinct_empty : empty.Distinct :=
  List.nodup_nil

theorem has_iff : geometry.has name = true ↔ name ∈ geometry.names := by
  simp [has, names]

theorem mem_names : name ∈ geometry.names ↔
    ∃ detector ∈ geometry.detectors, detector.name = name :=
  List.mem_map

theorem names_concat (geometry : Geometry) (detector : Detector) :
    names ⟨geometry.detectors ++ [detector]⟩ = geometry.names ++ [detector.name] :=
  List.map_append

/-- A detector with a new name comes last. -/
theorem add_of_notMem (free : detector.name ∉ geometry.names) (journal : Journal) :
    add detector (geometry, journal)
      = (.ok (), (⟨geometry.detectors ++ [detector]⟩,
          journal.write .debug ("Adding detector " ++ detector.display))) := by
  rw [add, add?, if_neg (mt has_iff.mp free)]

/-- A detector whose name is taken is refused, and nothing changes. -/
theorem add_of_mem (taken : detector.name ∈ geometry.names) (journal : Journal) :
    add detector (geometry, journal)
      = (.error (.duplicateDetector detector.name), (geometry, journal)) := by
  rw [add, add?, if_pos (has_iff.mpr taken)]

theorem Distinct.concat (distinct : geometry.Distinct) (free : detector.name ∉ geometry.names) :
    (Geometry.mk (geometry.detectors ++ [detector])).Distinct := by
  rw [Distinct, List.map_append, List.map_singleton]
  exact List.concat_eq_append ▸ List.Nodup.concat free distinct

theorem add_fst_eq_error_iff {journal : Journal} {err : Error} :
    (add detector (geometry, journal)).1 = .error err ↔
      err = .duplicateDetector detector.name ∧ detector.name ∈ geometry.names := by
  by_cases taken : detector.name ∈ geometry.names
  · rw [add_of_mem taken]
    simp [taken, eq_comm]
  · rw [add_of_notMem taken]
    simp [taken]

/-! ## Finding detectors -/

theorem find?_eq_some_iff (distinct : geometry.Distinct) :
    geometry.find? name = some detector ↔
      detector ∈ geometry.detectors ∧ detector.name = name :=
  List.find?_key_eq_some_iff distinct

theorem find?_eq_none_iff : geometry.find? name = none ↔ name ∉ geometry.names := by
  simp [find?, names]

theorem detector_eq_ok_iff :
    geometry.detector name = .ok detector ↔ geometry.find? name = some detector := by
  unfold Geometry.detector
  cases geometry.find? name <;> simp

theorem detector_eq_error_iff {err : Error} :
    geometry.detector name = .error err ↔ err = .detectorNotFound name ∧ name ∉ geometry.names := by
  rw [← find?_eq_none_iff]
  unfold Geometry.detector
  cases geometry.find? name <;> simp [eq_comm]

theorem detectorsByType_eq_ok_iff :
    geometry.detectorsByType type = .ok detectors ↔
      detectors = geometry.ofType type ∧ detectors ≠ [] := by
  unfold detectorsByType
  split
  · next none_there =>
    rw [none_there]
    exact ⟨nofun, fun ⟨same, filled⟩ => absurd same filled⟩
  · next some_there =>
    constructor
    · intro same
      obtain rfl := Except.ok.inj same
      exact ⟨rfl, some_there⟩
    · rintro ⟨rfl, -⟩
      rfl

theorem detectorsByType_eq_error_iff {err : Error} :
    geometry.detectorsByType type = .error err ↔
      err = .detectorTypeNotFound type ∧ ∀ detector ∈ geometry.detectors, detector.type ≠ type := by
  have none_iff : geometry.ofType type = [] ↔
      ∀ detector ∈ geometry.detectors, detector.type ≠ type := by
    simp [ofType]
  rw [← none_iff]
  unfold detectorsByType
  split
  · next none_there => simp [none_there, eq_comm]
  · next some_there => exact ⟨nofun, fun ⟨_, none_there⟩ => absurd none_there some_there⟩

theorem mem_ofType : detector ∈ geometry.ofType type ↔
    detector ∈ geometry.detectors ∧ detector.type = type := by
  simp [ofType]

/-! ## What a setup holds -/

/-- Setups that detectors were added to, whether or not they were taken, after an empty one
or one that was read.  The list has all that came, in order. -/
inductive Grown : List Detector → Geometry → Prop
  | empty : Grown [] .empty
  | read {reader : Reader} {geometry : Geometry} {journal after : Journal}
      (read : ofReader reader journal = (.ok geometry, after)) :
      Grown geometry.detectors geometry
  | add {calls : List Detector} {geometry : Geometry} (earlier : Grown calls geometry)
      (detector : Detector) (journal : Journal) :
      Grown (calls ++ [detector]) (Geometry.add detector (geometry, journal)).2.1

/-- A setup holds the first detector of each name that came, and finds what it holds. -/
structure Orderly (calls : List Detector) (geometry : Geometry) : Prop where
  distinct : geometry.Distinct
  kept : geometry.detectors.Sublist calls
  first : ∀ name, geometry.find? name = calls.find? fun detector => detector.name = name
  /-- A detector is refused if its name is taken, and for no other reason. -/
  refused_iff : ∀ detector journal err,
    (add detector (geometry, journal)).1 = .error err ↔
      err = .duplicateDetector detector.name ∧
        ∃ other ∈ geometry.detectors, other.name = detector.name
  /-- Nothing changes then. -/
  unchanged : ∀ detector journal err, (add detector (geometry, journal)).1 = .error err →
    (add detector (geometry, journal)).2 = (geometry, journal)
  /-- Any other detector comes last. -/
  accepted : ∀ detector journal, (∀ other ∈ geometry.detectors, other.name ≠ detector.name) →
    (add detector (geometry, journal)).1 = .ok () ∧
      (add detector (geometry, journal)).2.1.detectors = geometry.detectors ++ [detector]
  found_iff : ∀ name detector, geometry.detector name = .ok detector ↔
    detector ∈ geometry.detectors ∧ detector.name = name
  alone : ∀ name detector, geometry.detector name = .ok detector →
    ∀ other ∈ geometry.detectors, other.name = name → other = detector
  missing_iff : ∀ name err, geometry.detector name = .error err ↔
    err = .detectorNotFound name ∧ ∀ detector ∈ geometry.detectors, detector.name ≠ name
  /-- The detectors of a type are listed in their order. -/
  listed : ∀ type detectors, geometry.detectorsByType type = .ok detectors →
    detectors.Sublist geometry.detectors ∧
      ∀ detector, detector ∈ detectors ↔ detector ∈ geometry.detectors ∧ detector.type = type
  unlisted_iff : ∀ type err, geometry.detectorsByType type = .error err ↔
    err = .detectorTypeNotFound type ∧ ∀ detector ∈ geometry.detectors, detector.type ≠ type
  disjoint : ∀ type other detectors others, type ≠ other →
    geometry.detectorsByType type = .ok detectors →
    geometry.detectorsByType other = .ok others → detectors.Disjoint others
  /-- The lists of all types have every detector once. -/
  together : ∀ types lists, types.Nodup →
    (∀ type, type ∈ types ↔ ∃ detector ∈ geometry.detectors, detector.type = type) →
    List.Forall₂ (fun type detectors => geometry.detectorsByType type = .ok detectors)
      types lists →
    lists.flatten.Perm geometry.detectors

theorem orderly_of_first {calls : List Detector} (distinct : geometry.Distinct)
    (kept : geometry.detectors.Sublist calls)
    (first : ∀ name, geometry.find? name = calls.find? fun detector => detector.name = name) :
    Orderly calls geometry where
  distinct := distinct
  kept := kept
  first := first
  refused_iff _ _ _ := by rw [add_fst_eq_error_iff, mem_names]
  unchanged _ journal _ refused := by rw [add_of_mem (add_fst_eq_error_iff.mp refused).2 journal]
  accepted detector journal free := by
    have free : detector.name ∉ geometry.names := fun among =>
      have ⟨other, there, same⟩ := mem_names.mp among
      free other there same
    rw [add_of_notMem free journal]
    exact ⟨rfl, rfl⟩
  found_iff _ _ := by rw [detector_eq_ok_iff, find?_eq_some_iff distinct]
  alone name detector found other among same := by
    have there := detector_eq_ok_iff.mp found
    rw [(find?_eq_some_iff distinct).mpr ⟨among, same⟩] at there
    exact Option.some.inj there
  missing_iff _ _ := by
    rw [detector_eq_error_iff, mem_names]
    simp
  listed type detectors found := by
    obtain ⟨rfl, -⟩ := detectorsByType_eq_ok_iff.mp found
    exact ⟨List.filter_sublist, fun _ => mem_ofType⟩
  unlisted_iff _ _ := detectorsByType_eq_error_iff
  disjoint type other detectors others apart found found' := by
    obtain ⟨rfl, -⟩ := detectorsByType_eq_ok_iff.mp found
    obtain ⟨rfl, -⟩ := detectorsByType_eq_ok_iff.mp found'
    intro detector among among'
    exact apart ((mem_ofType.mp among).2.symm.trans (mem_ofType.mp among').2)
  together types lists nodup occurring found := by
    have lists_eq : types.map geometry.ofType = lists :=
      List.forall₂_eq_eq_eq ▸ List.forall₂_map_left_iff.mpr
        (found.imp fun _ _ here => (detectorsByType_eq_ok_iff.mp here).1.symm)
    rw [← lists_eq, ← List.flatMap_def]
    exact List.flatMap_filter_key_perm nodup fun detector among =>
      (occurring _).mpr ⟨detector, among, rfl⟩

/-- What a further detector does to a setup. -/
theorem Orderly.add {calls : List Detector} (orderly : Orderly calls geometry)
    (detector : Detector) (journal : Journal) :
    Orderly (calls ++ [detector]) (Geometry.add detector (geometry, journal)).2.1 := by
  by_cases taken : detector.name ∈ geometry.names
  · rw [add_of_mem taken]
    refine orderly_of_first orderly.distinct (orderly.kept.trans (List.sublist_append_left _ _))
      fun name => ?_
    rw [orderly.first, List.find?_append]
    cases found : calls.find? fun detector => detector.name = name with
    | some other => rfl
    | none =>
      have fresh : name ∉ geometry.names := find?_eq_none_iff.mp ((orderly.first name).trans found)
      have apart : detector.name ≠ name := fun same => fresh (same ▸ taken)
      simp [apart]
  · rw [add_of_notMem taken]
    refine orderly_of_first (orderly.distinct.concat taken) (orderly.kept.append (.refl _))
      fun name => ?_
    rw [List.find?_append, ← orderly.first]
    exact List.find?_append

end Geometry

/-! ## Vectors in a section -/

namespace Config

/-- A text is a floating-point number. -/
def IsNumber (text : List Char) : Prop :=
  ∃ value, Reading.float text = .ok value

/-- A value is a list of three numbers. -/
def IsTriple (text : String) : Prop :=
  (Text.elements text.toList).length = 3 ∧ ∀ element ∈ Text.elements text.toList, IsNumber element

namespace Section

variable {α : Type} {s : Section} {key : String} {read : Reading α}

theorem readAll_of_forall₂ {texts : List (List Char)} {values : List α}
    (good : List.Forall₂ (fun text value => read text = .ok value) texts values) :
    s.readAll key read texts = .ok values := by
  induction good with
  | nil => rfl
  | cons here _ ih => simp only [readAll, readText, here, ih]

/-- The first element that is no good decides. -/
theorem readAll_append_of_error {before after : List (List Char)} {text : List Char}
    {reason : String} (good : ∀ other ∈ before, ∃ value, read other = .ok value)
    (bad : read text = .error reason) :
    s.readAll key read (before ++ text :: after)
      = .error (.invalidValue s.name key (String.ofList text) reason) := by
  induction before with
  | nil => simp only [List.nil_append, readAll, readText, bad]
  | cons other rest ih =>
    obtain ⟨⟨value, here⟩, later⟩ := List.forall_mem_cons.mp good
    simp only [List.cons_append, readAll, readText, here, ih later]

end Section

theorem forall_isNumber_iff {texts : List (List Char)} :
    (∀ text ∈ texts, IsNumber text) ↔
      ∃ values, List.Forall₂ (fun text value => Reading.float text = .ok value) texts values := by
  induction texts with
  | nil => exact iff_of_true nofun ⟨[], .nil⟩
  | cons text rest ih =>
    rw [List.forall_mem_cons, ih]
    constructor
    · rintro ⟨⟨value, here⟩, values, others⟩
      exact ⟨value :: values, .cons here others⟩
    · rintro ⟨values, numbers⟩
      obtain ⟨value, rest, here, others, rfl⟩ := List.forall₂_cons_left_iff.mp numbers
      exact ⟨⟨value, here⟩, rest, others⟩

/-- Some texts are numbers, or there is a first one that is not. -/
theorem exists_not_number {texts : List (List Char)} (some_bad : ¬ ∀ text ∈ texts, IsNumber text) :
    ∃ before text after reason, texts = before ++ text :: after ∧
      (∀ other ∈ before, IsNumber other) ∧ Reading.float text = .error reason := by
  obtain ⟨before, text, after, split, good, bad⟩ := List.exists_first_of_not_forall some_bad
  cases here : Reading.float text with
  | error reason => exact ⟨before, text, after, reason, split, good, here⟩
  | ok value => exact absurd ⟨value, here⟩ bad

/-- The vector that a key gives: the origin if it is not set, or else its three elements. -/
inductive Gives (s : Section) (key : String) : Vector3 → Prop
  | unset (missing : s.text? key = none) : Gives s key .zero
  | set {text : String} {vector : Vector3} (held : s.text? key = some text)
      (numbers : List.Forall₂ (fun element value => Reading.float element = .ok value)
        (Text.elements text.toList) [vector.x, vector.y, vector.z]) : Gives s key vector

/-- Why a key gives no vector: an element that is no number, the first of them if there are
several, or else the number of elements. -/
inductive Denies (s : Section) (key : String) : Error → Prop
  | element {text reason : String} {before after : List (List Char)} {element : List Char}
      (held : s.text? key = some text)
      (apart : Text.elements text.toList = before ++ element :: after)
      (numbers : ∀ other ∈ before, IsNumber other)
      (bad : Reading.float element = .error reason) :
      Denies s key (.invalidValue s.name key (String.ofList element) reason)
  | count {text : String} (held : s.text? key = some text)
      (numbers : ∀ element ∈ Text.elements text.toList, IsNumber element)
      (apart : (Text.elements text.toList).length ≠ 3) :
      Denies s key (.invalidValue s.name key text "expected three components")

theorem exists_gives_iff {s : Section} {key : String} :
    (∃ vector, Gives s key vector) ↔ ∀ text, s.text? key = some text → IsTriple text := by
  constructor
  · rintro ⟨vector, gives⟩ text held
    cases gives with
    | unset missing => cases missing.symm.trans held
    | set held' numbers =>
      obtain rfl := Option.some.inj (held'.symm.trans held)
      exact ⟨numbers.length_eq, forall_isNumber_iff.mpr ⟨_, numbers⟩⟩
  · intro triple
    cases held : s.text? key with
    | none => exact ⟨.zero, .unset held⟩
    | some text =>
      obtain ⟨three, numbers⟩ := triple text held
      obtain ⟨values, read⟩ := forall_isNumber_iff.mp numbers
      obtain ⟨x, y, z, rfl⟩ := List.length_eq_three.mp (read.length_eq.symm.trans three)
      exact ⟨⟨x, y, z⟩, .set held read⟩

theorem exists_denies {s : Section} {key : String}
    (bad : ¬ ∀ text, s.text? key = some text → IsTriple text) : ∃ err, Denies s key err := by
  obtain ⟨text, bad⟩ := not_forall.mp bad
  obtain ⟨held, bad⟩ := Classical.not_imp.mp bad
  by_cases numbers : ∀ element ∈ Text.elements text.toList, IsNumber element
  · exact ⟨_, .count held numbers fun three => bad ⟨three, numbers⟩⟩
  · obtain ⟨before, element, after, reason, apart, good, failed⟩ := exists_not_number numbers
    exact ⟨_, .element held apart good failed⟩

end Config

/-! ## Detectors in a configuration -/

namespace Geometry

variable {s : Section} {key : String}

theorem readVectorOr_of_gives {vector : Vector3} (gives : Gives s key vector) :
    readVectorOr s key = .ok vector := by
  cases gives with
  | unset missing => simp only [readVectorOr, Section.has, missing]; rfl
  | set held numbers =>
    simp only [readVectorOr, Section.has, held, readVector, Section.getArray, Section.text,
      Section.readAll_of_forall₂ numbers]
    rfl

theorem readVectorOr_of_denies {err : Error} (denies : Denies s key err) :
    readVectorOr s key = .error err := by
  cases denies with
  | element held apart numbers bad =>
    simp only [readVectorOr, Section.has, held, readVector, Section.getArray, Section.text, apart,
      Section.readAll_append_of_error numbers bad]
    rfl
  | count held numbers apart =>
    obtain ⟨values, read⟩ := forall_isNumber_iff.mp numbers
    simp only [readVectorOr, Section.has, held, readVector, Section.getArray, Section.text,
      Section.readAll_of_forall₂ read, Section.invalidValue, Option.getD_some]
    rw [read.length_eq] at apart
    match values, apart with
    | [], _ => rfl
    | [_], _ => rfl
    | [_, _], _ => rfl
    | [_, _, _], apart => exact absurd rfl apart
    | _ :: _ :: _ :: _ :: _, _ => rfl

/-- A section has what a detector needs. -/
structure Sound (s : Section) : Prop where
  typed : s.text? "type" ≠ none
  placed : ∀ text, s.text? "position" = some text → IsTriple text
  turned : ∀ text, s.text? "orientation" = some text → IsTriple text

/-- A section describes a detector: it is named like the section and has its values. -/
structure Describes (s : Section) (detector : Detector) : Prop where
  name_eq : detector.name = s.name
  type_eq : ∃ text, s.text? "type" = some text ∧
    detector.type = String.ofList (Text.unquote text.toList)
  position : Gives s "position" detector.position
  orientation : Gives s "orientation" detector.orientation

/-- Why a section makes no detector when some names are taken; what is said first counts. -/
inductive Fault (taken : List String) (s : Section) : Error → Prop
  | type (missing : s.text? "type" = none) : Fault taken s (.missingKey s.name "type")
  | position {err : Error} (typed : s.text? "type" ≠ none) (denies : Denies s "position" err) :
      Fault taken s err
  | orientation {err : Error} (typed : s.text? "type" ≠ none)
      (placed : ∀ text, s.text? "position" = some text → IsTriple text)
      (denies : Denies s "orientation" err) : Fault taken s err
  | name (sound : Sound s) (among : s.name ∈ taken) : Fault taken s (.duplicateDetector s.name)

theorem Sound.exists_describes (sound : Sound s) : ∃ detector, Describes s detector := by
  obtain ⟨position, placed⟩ := exists_gives_iff.mpr sound.placed
  obtain ⟨orientation, turned⟩ := exists_gives_iff.mpr sound.turned
  obtain ⟨text, typed⟩ := Option.ne_none_iff_exists'.mp sound.typed
  exact ⟨⟨s.name, _, position, orientation⟩, rfl, ⟨text, typed, rfl⟩, placed, turned⟩

theorem Describes.sound {detector : Detector} (describes : Describes s detector) : Sound s := by
  obtain ⟨text, typed, -⟩ := describes.type_eq
  exact ⟨Option.ne_none_iff_exists'.mpr ⟨text, typed⟩,
    exists_gives_iff.mp ⟨_, describes.position⟩, exists_gives_iff.mp ⟨_, describes.orientation⟩⟩

/-- A section that has all it needs makes a detector under a new name, and any other section
has a fault. -/
theorem sound_or_fault (taken : List String) (s : Section) :
    (Sound s ∧ s.name ∉ taken) ∨ ∃ err, Fault taken s err := by
  by_cases typed : s.text? "type" = none
  · exact .inr ⟨_, .type typed⟩
  by_cases placed : ∀ text, s.text? "position" = some text → IsTriple text
  · by_cases turned : ∀ text, s.text? "orientation" = some text → IsTriple text
    · by_cases among : s.name ∈ taken
      · exact .inr ⟨_, .name ⟨typed, placed, turned⟩ among⟩
      · exact .inl ⟨⟨typed, placed, turned⟩, among⟩
    · obtain ⟨err, denies⟩ := exists_denies turned
      exact .inr ⟨err, .orientation typed placed denies⟩
  · obtain ⟨err, denies⟩ := exists_denies placed
    exact .inr ⟨err, .position typed denies⟩

theorem readDetector_of_describes {detector : Detector} (describes : Describes s detector) :
    readDetector s = .ok detector := by
  obtain ⟨name, type, position, orientation⟩ := detector
  obtain ⟨rfl, ⟨text, typed, rfl⟩, placed, turned⟩ := describes
  simp only [readDetector, Section.get, Section.text, typed, Section.readText, Reading.string,
    readVectorOr_of_gives placed, readVectorOr_of_gives turned]
  rfl

/-- A section that describes a detector with a new name adds it. -/
theorem addSection_of_describes {geometry : Geometry} {detector : Detector}
    (describes : Describes s detector) (free : s.name ∉ geometry.names) (journal : Journal) :
    ∃ later, addSection s (geometry, journal)
      = (.ok (), (⟨geometry.detectors ++ [detector]⟩, later)) := by
  rw [← describes.name_eq] at free
  refine ⟨_, Eq.trans ?_ (add_of_notMem free journal)⟩
  rw [addSection, readDetector_of_describes describes]
  rfl

/-- A section with a fault fails with it. -/
theorem addSection_of_fault {geometry : Geometry} {err : Error}
    (fault : Fault geometry.names s err) (journal : Journal) :
    (addSection s (geometry, journal)).1 = .error err := by
  have of_read (failed : readDetector s = .error err) :
      (addSection s (geometry, journal)).1 = .error err := by
    rw [addSection, failed]
    rfl
  cases fault with
  | type missing =>
    apply of_read
    simp only [readDetector, Section.get, Section.text, missing]
    rfl
  | position typed denies =>
    obtain ⟨text, typed⟩ := Option.ne_none_iff_exists'.mp typed
    apply of_read
    simp only [readDetector, Section.get, Section.text, typed, Section.readText, Reading.string,
      readVectorOr_of_denies denies]
    rfl
  | orientation typed placed denies =>
    obtain ⟨text, typed⟩ := Option.ne_none_iff_exists'.mp typed
    obtain ⟨position, gives⟩ := exists_gives_iff.mpr placed
    apply of_read
    simp only [readDetector, Section.get, Section.text, typed, Section.readText, Reading.string,
      readVectorOr_of_gives gives, readVectorOr_of_denies denies]
    rfl
  | name sound among =>
    obtain ⟨detector, describes⟩ := sound.exists_describes
    rw [← describes.name_eq] at among ⊢
    rw [addSection, readDetector_of_describes describes]
    exact congrArg Prod.fst (add_of_mem among journal)

/-! ## Reading a setup -/

/-- Sections that are all sound and named differently are added one after the other. -/
theorem each_addSection {sections : List Section} {detectors : List Detector}
    (describe : List.Forall₂ Describes sections detectors) (geometry : Geometry)
    (distinct : (geometry.names ++ sections.map Section.name).Nodup) (journal : Journal) :
    ∃ later, Proc.each addSection sections (geometry, journal)
      = (.ok (), (⟨geometry.detectors ++ detectors⟩, later)) := by
  induction describe generalizing geometry journal with
  | nil => exact ⟨journal, by rw [List.append_nil]; rfl⟩
  | @cons s detector sections detectors here _ ih =>
    have free : s.name ∉ geometry.names := fun among =>
      List.disjoint_of_nodup_append distinct among (List.mem_cons_self ..)
    obtain ⟨noted, added⟩ := addSection_of_describes here free journal
    have distinct' : (names ⟨geometry.detectors ++ [detector]⟩
        ++ sections.map Section.name).Nodup := by
      rwa [names_concat, here.name_eq, List.append_assoc, List.singleton_append, ← List.map_cons]
    obtain ⟨later, others⟩ := ih _ distinct' noted
    refine ⟨later, ?_⟩
    rw [Proc.each_cons_of_ok added, others, List.append_assoc, List.singleton_append]

/-- Some sections have a first one with a fault. -/
def Offends (sections : List Section) (err : Error) : Prop :=
  ∃ before s after, sections = before ++ s :: after ∧ (∀ other ∈ before, Sound other) ∧
    (before.map Section.name).Nodup ∧ Fault (before.map Section.name) s err

theorem Offends.append {sections : List Section} {err : Error} (offends : Offends sections err)
    (more : List Section) : Offends (sections ++ more) err := by
  obtain ⟨before, s, after, rfl, sound, distinct, fault⟩ := offends
  exact ⟨before, s, after ++ more, by simp, sound, distinct, fault⟩

theorem sound_or_offends (sections : List Section) :
    ((∀ s ∈ sections, Sound s) ∧ (sections.map Section.name).Nodup) ∨
      ∃ err, Offends sections err := by
  induction sections using List.reverseRecOn with
  | nil => exact .inl ⟨nofun, List.nodup_nil⟩
  | append_singleton sections s ih =>
    rcases ih with ⟨sound, distinct⟩ | ⟨err, offends⟩
    · rcases sound_or_fault (sections.map Section.name) s with ⟨last, free⟩ | ⟨err, fault⟩
      · refine .inl ⟨List.forall_mem_append.mpr ⟨sound, List.forall_mem_singleton.mpr last⟩, ?_⟩
        rw [List.map_append, List.map_singleton]
        exact List.concat_eq_append ▸ List.Nodup.concat free distinct
      · exact .inr ⟨err, sections, s, [], rfl, sound, distinct, fault⟩
    · exact .inr ⟨err, offends.append [s]⟩

theorem exists_describe {sections : List Section} (sound : ∀ s ∈ sections, Sound s) :
    ∃ detectors, List.Forall₂ Describes sections detectors := by
  induction sections with
  | nil => exact ⟨[], .nil⟩
  | cons s rest ih =>
    obtain ⟨here, later⟩ := List.forall_mem_cons.mp sound
    obtain ⟨detector, describes⟩ := here.exists_describes
    obtain ⟨detectors, others⟩ := ih later
    exact ⟨detector :: detectors, .cons describes others⟩

theorem map_name_of_describe {sections : List Section} {detectors : List Detector}
    (describe : List.Forall₂ Describes sections detectors) :
    detectors.map Detector.name = sections.map Section.name := by
  induction describe with
  | nil => rfl
  | cons here _ ih => rw [List.map_cons, List.map_cons, here.name_eq, ih]

section Readers

variable {reader : Reader} {journal after : Journal} {geometry : Geometry}

theorem fst_ofReader (reader : Reader) (journal : Journal) :
    (ofReader reader journal).1 =
      (Proc.each addSection reader.moduleSections (empty, journal)).1.map
        fun _ => (Proc.each addSection reader.moduleSections (empty, journal)).2.1 :=
  rfl

theorem ofReader_of_describe {detectors : List Detector}
    (describe : List.Forall₂ Describes reader.moduleSections detectors)
    (distinct : (reader.moduleSections.map Section.name).Nodup) (journal : Journal) :
    (ofReader reader journal).1 = .ok ⟨detectors⟩ := by
  obtain ⟨later, added⟩ := each_addSection describe empty distinct journal
  rw [fst_ofReader, added]
  rfl

theorem ofReader_of_offends {err : Error} (offends : Offends reader.moduleSections err)
    (journal : Journal) : (ofReader reader journal).1 = .error err := by
  obtain ⟨before, s, after, split, sound, distinct, fault⟩ := offends
  obtain ⟨detectors, describe⟩ := exists_describe sound
  obtain ⟨noted, added⟩ := each_addSection describe empty distinct journal
  rw [← map_name_of_describe describe] at fault
  have failed : (addSection s (⟨detectors⟩, noted)).1 = .error err :=
    addSection_of_fault fault noted
  rw [fst_ofReader, split, Proc.each_append, Proc.andThen, added]
  simp only [empty, List.nil_append]
  rw [Proc.each_cons_of_ne (Prod.ext failed rfl) (by simp)]
  rfl

/-- How the reading of a setup from some sections ends. -/
structure ReadFrom (sections : List Section) (outcome : Outcome Geometry) : Prop where
  accepted_iff : (∃ geometry, outcome = .ok geometry) ↔
    (∀ s ∈ sections, Sound s) ∧ (sections.map Section.name).Nodup
  described : ∀ geometry, outcome = .ok geometry →
    List.Forall₂ Describes sections geometry.detectors
  refused_iff : ∀ err, outcome = .error err ↔ Offends sections err
  ends : ∀ text, outcome ≠ .panic text

theorem readFrom_ofReader (reader : Reader) (journal : Journal) :
    ReadFrom reader.moduleSections (ofReader reader journal).1 := by
  obtain ⟨accepted_iff, refused_iff, ends⟩ := Outcome.decided
    (sound_or_offends reader.moduleSections)
    (fun ⟨sound, distinct⟩ =>
      have ⟨_, describe⟩ := exists_describe sound
      ⟨_, ofReader_of_describe describe distinct journal⟩)
    fun err offends => ofReader_of_offends offends journal
  refine ⟨accepted_iff, fun geometry held => ?_, refused_iff, ends⟩
  obtain ⟨sound, distinct⟩ := accepted_iff.mp ⟨geometry, held⟩
  obtain ⟨detectors, describe⟩ := exists_describe sound
  obtain rfl := Outcome.ok.inj (held.symm.trans (ofReader_of_describe describe distinct journal))
  exact describe

/-- The detectors of a setup that comes from a configuration have distinct names. -/
theorem distinct_of_ofReader (read : ofReader reader journal = (.ok geometry, after)) :
    geometry.Distinct := by
  have reads := readFrom_ofReader reader journal
  rw [read] at reads
  rw [Distinct, map_name_of_describe (reads.described geometry rfl)]
  exact (reads.accepted_iff.mp ⟨geometry, rfl⟩).2

end Readers

theorem Grown.orderly {calls : List Detector} {geometry : Geometry} (grown : Grown calls geometry) :
    Orderly calls geometry := by
  induction grown with
  | empty => exact orderly_of_first distinct_empty (.refl _) fun _ => rfl
  | read read => exact orderly_of_first (distinct_of_ofReader read) (.refl _) fun _ => rfl
  | add _ detector journal ih => exact ih.add detector journal

/-- **Setups.**  A configuration is read as a setup if every section with a name is sound and
no two of them share it; each then gives its detector, and otherwise the first section with a
fault gives the error.  A setup that detectors are added to, read or begun empty, holds the
first of each name, finds it by its name, and lists it once by its type. -/
theorem readFrom_and_orderly (reader : Reader) (journal : Journal) {calls : List Detector}
    {geometry : Geometry} (grown : Grown calls geometry) :
    ReadFrom reader.moduleSections (ofReader reader journal).1 ∧ Orderly calls geometry :=
  ⟨readFrom_ofReader reader journal, grown.orderly⟩

/-- Three detectors, two of them with the same name. -/
def repeated : List Detector :=
  [.atOrigin "dut" "fei4", .atOrigin "dut" "timepix", .atOrigin "ref" "timepix"]

/-- Those of them that a setup takes. -/
def kept : Geometry :=
  ⟨[.atOrigin "dut" "fei4", .atOrigin "ref" "timepix"]⟩

theorem grown_kept : Grown repeated kept :=
  ((Grown.empty.add (.atOrigin "dut" "fei4") default).add (.atOrigin "dut" "timepix") default).add
    (.atOrigin "ref" "timepix") default

/-- Sections that describe the first two of them. -/
def twice : Reader :=
  ⟨[⟨"dut", none, [("type", "fei4")]⟩, ⟨"dut", none, [("type", "timepix")]⟩]⟩

/-- The second of two equal names is refused, in a configuration and in a setup. -/
theorem readFrom_and_orderly_repeated :
    Grown repeated kept ∧ (ofReader twice default).1 = .error (.duplicateDetector "dut") ∧
      ReadFrom twice.moduleSections (.error (.duplicateDetector "dut")) ∧
      Orderly repeated kept := by
  have failed : (ofReader twice default).1 = .error (.duplicateDetector "dut") := rfl
  obtain ⟨reads, orderly⟩ := readFrom_and_orderly twice default grown_kept
  rw [failed] at reads
  exact ⟨grown_kept, failed, reads, orderly⟩

end Geometry

end DetectorSim
