import Mathlib.Logic.Function.Basic
import DetectorSim.Log

/-!
# Nested log sections

The guard of a log section remembers the section that its thread was in before.  As long as
a thread gives its guards up in the reverse order of their making, it is at every moment in
the section that the innermost of them was given for, and without any in the section that
it started in.  What other threads do meanwhile, in any order, does not matter.

Records that are written between entering a section and leaving it belong to it, and nothing
of the section is left behind.
-/

set_option autoImplicit false

namespace DetectorSim

/-! ## Entering and leaving -/

namespace Sections

variable (sections : Sections) (thread other : ThreadId)

theorem currentOf_enter (name : String) :
    (sections.enter thread name).2.currentOf other =
      if thread = other then name else sections.currentOf other := by
  unfold enter currentOf
  rw [Table.find?_insert]
  split <;> rfl

theorem currentOf_leave (guard : SectionGuard) :
    (sections.leave thread guard).currentOf other =
      if thread = other then guard.previous else sections.currentOf other := by
  unfold leave currentOf
  rw [Table.find?_insert]
  split <;> rfl

end Sections

/-! ## Guards that threads hold -/

/-- A section that a thread has entered, with the guard that it got for it. -/
structure Stay where
  name : String
  guard : SectionGuard
  deriving DecidableEq, Repr

/-- The log sections and the guards that each thread holds, the innermost one first. -/
structure Holdings where
  sections : Sections
  held : ThreadId → List Stay

namespace Holdings

/-- What threads do with log sections. -/
inductive Move where
  | enter (thread : ThreadId) (name : String)
  /-- Give up the guard at a place, counted from the innermost one. -/
  | leave (thread : ThreadId) (place : Nat)
  deriving DecidableEq, Repr

/-- Nobody holds a guard. -/
def start (sections : Sections) : Holdings :=
  ⟨sections, fun _ => []⟩

/-- A thread enters a section. -/
def enter (holdings : Holdings) (thread : ThreadId) (name : String) : Holdings where
  sections := (holdings.sections.enter thread name).2
  held := Function.update holdings.held thread
    (⟨name, (holdings.sections.enter thread name).1⟩ :: holdings.held thread)

/-- A thread gives up the guard at a place; nothing happens if there is none. -/
def leave (holdings : Holdings) (thread : ThreadId) (place : Nat) : Holdings :=
  match (holdings.held thread)[place]? with
  | none => holdings
  | some stay =>
      { sections := holdings.sections.leave thread stay.guard
        held := Function.update holdings.held thread ((holdings.held thread).eraseIdx place) }

/-- What a move does. -/
def Move.perform : Move → Holdings → Holdings
  | .enter thread name, holdings => holdings.enter thread name
  | .leave thread place, holdings => holdings.leave thread place

/-- What some moves lead to. -/
def follow (holdings : Holdings) (moves : List Move) : Holdings :=
  moves.foldl (fun holdings move => move.perform holdings) holdings

/-- Of the guards of a thread none is given up but the innermost one. -/
def WellNested (thread : ThreadId) (moves : List Move) : Prop :=
  ∀ place, .leave thread place ∈ moves → place = 0

/-- The name of the innermost of some sections, or of the one outside of all. -/
def innermost (outside : String) (held : List Stay) : String :=
  (held.map Stay.name).headD outside

/-- Each guard leads back to the section around its own. -/
def LeadsBack (outside : String) : List Stay → Prop
  | [] => True
  | stay :: rest => stay.guard.previous = innermost outside rest ∧ LeadsBack outside rest

/-- A thread is in its innermost section, and its guards lead back from there. -/
structure Nested (thread : ThreadId) (outside : String) (holdings : Holdings) : Prop where
  current : holdings.sections.currentOf thread = innermost outside (holdings.held thread)
  back : LeadsBack outside (holdings.held thread)

variable {thread other : ThreadId} {outside : String} {holdings after : Holdings}

/-- Nothing else matters than what the thread itself has. -/
theorem Nested.congr (nested : holdings.Nested thread outside)
    (current : after.sections.currentOf thread = holdings.sections.currentOf thread)
    (held : after.held thread = holdings.held thread) : after.Nested thread outside :=
  ⟨by rw [current, held, nested.current], held ▸ nested.back⟩

theorem Nested.enter (nested : holdings.Nested thread outside) (name : String) :
    (holdings.enter other name).Nested thread outside := by
  by_cases same : other = thread
  · subst same
    have held : (holdings.enter other name).held other
        = ⟨name, (holdings.sections.enter other name).1⟩ :: holdings.held other :=
      Function.update_self ..
    constructor
    · rw [held, Holdings.enter, Sections.currentOf_enter, if_pos rfl]
      rfl
    · rw [held]
      exact ⟨nested.current, nested.back⟩
  · refine nested.congr ?_ (Function.update_of_ne (Ne.symm same) ..)
    rw [Holdings.enter, Sections.currentOf_enter, if_neg same]

theorem leave_innermost {stay : Stay} {rest : List Stay}
    (held : holdings.held thread = stay :: rest) :
    holdings.leave thread 0 =
      ⟨holdings.sections.leave thread stay.guard, Function.update holdings.held thread rest⟩ := by
  rw [Holdings.leave, held]
  rfl

theorem leave_nothing {place : Nat} (held : (holdings.held thread)[place]? = none) :
    holdings.leave thread place = holdings := by
  rw [Holdings.leave, held]

theorem leave_of_ne (holdings : Holdings) (apart : other ≠ thread) (place : Nat) :
    (holdings.leave other place).sections.currentOf thread = holdings.sections.currentOf thread ∧
      (holdings.leave other place).held thread = holdings.held thread := by
  unfold Holdings.leave
  split
  · exact ⟨rfl, rfl⟩
  · refine ⟨?_, Function.update_of_ne (Ne.symm apart) ..⟩
    rw [Sections.currentOf_leave, if_neg apart]

theorem Nested.leave (nested : holdings.Nested thread outside) :
    (holdings.leave thread 0).Nested thread outside := by
  cases held : holdings.held thread with
  | nil => rwa [leave_nothing (by rw [held]; rfl)]
  | cons stay rest =>
    have back := nested.back
    rw [held] at back
    have left : (holdings.leave thread 0).held thread = rest := by
      rw [leave_innermost held]
      exact Function.update_self ..
    constructor
    · rw [left, leave_innermost held, Sections.currentOf_leave, if_pos rfl]
      exact back.1
    · rw [left]
      exact back.2

theorem Nested.follow (nested : holdings.Nested thread outside) {moves : List Move}
    (wellNested : WellNested thread moves) : (holdings.follow moves).Nested thread outside := by
  induction moves generalizing holdings with
  | nil => exact nested
  | cons move rest ih =>
    have later : WellNested thread rest := fun place among =>
      wellNested place (List.mem_cons_of_mem move among)
    refine ih ?_ later
    -- What another thread does leaves the thread alone, and it gives up no guard but the
    -- innermost one.
    cases move with
    | enter other name => exact nested.enter name
    | leave other place =>
      by_cases same : other = thread
      · subst same
        obtain rfl := wellNested place List.mem_cons_self
        exact nested.leave
      · obtain ⟨current, held⟩ := leave_of_ne holdings same place
        exact nested.congr current held

/-- A thread is in the section of its innermost guard, or in the one that it started in. -/
theorem currentOf_follow (sections : Sections) {moves : List Move}
    (wellNested : WellNested thread moves) :
    ((start sections).follow moves).sections.currentOf thread
      = innermost (sections.currentOf thread) (((start sections).follow moves).held thread) := by
  have outset : (start sections).Nested thread (sections.currentOf thread) := ⟨rfl, trivial⟩
  exact (outset.follow wellNested).current

/-- Guards that are given up in another order take a thread to a section that it has left. -/
example :
    let holdings := (start .none).follow
      [.enter 0 "R:Reader", .enter 0 "R:Writer", .leave 0 1, .leave 0 0]
    holdings.held 0 = [] ∧ holdings.sections.currentOf 0 = "R:Reader" := by
  decide

end Holdings

/-- A section that is entered and left again leaves nothing behind, on any thread. -/
theorem Sections.currentOf_leave_enter (sections : Sections) (thread other : ThreadId)
    (name : String) :
    ((sections.enter thread name).2.leave thread (sections.enter thread name).1).currentOf other
      = sections.currentOf other := by
  rw [currentOf_leave]
  split
  · next same =>
    subst same
    rfl
  · next apart => rw [currentOf_enter, if_neg apart]

/-! ## What is written meanwhile -/

namespace Journal

/-- The thread that a log is seen from, and the section that each thread is in. -/
def whereabouts (journal : Journal) : ThreadId × (ThreadId → String) :=
  (journal.thread, journal.sections.currentOf)

variable {journal middle later : Journal}

/-- A log goes on in the section that its thread is in. -/
structure Continues (journal later : Journal) : Prop where
  thread_eq : later.thread = journal.thread
  sections_eq : later.sections = journal.sections
  written : ∃ new, later.records = new ++ journal.records ∧
    ∀ record ∈ new, record.sectionName = journal.sections.currentOf journal.thread

namespace Continues

theorem refl (journal : Journal) : journal.Continues journal :=
  ⟨rfl, rfl, [], rfl, nofun⟩

theorem trans (first : journal.Continues middle) (second : middle.Continues later) :
    journal.Continues later := by
  obtain ⟨thread_eq, sections_eq, new, records_eq, here⟩ := first
  obtain ⟨thread_eq', sections_eq', new', records_eq', here'⟩ := second
  rw [sections_eq, thread_eq] at here'
  refine ⟨thread_eq'.trans thread_eq, sections_eq'.trans sections_eq, new' ++ new, ?_, ?_⟩
  · rw [records_eq', records_eq, List.append_assoc]
  · exact List.forall_mem_append.mpr ⟨here', here⟩

theorem whereabouts_eq (goes_on : journal.Continues later) :
    later.whereabouts = journal.whereabouts := by
  rw [whereabouts, goes_on.thread_eq, goes_on.sections_eq, ← whereabouts]

theorem write (journal : Journal) (level : Level) (text : String) :
    journal.Continues (journal.write level text) :=
  ⟨rfl, rfl, [_], rfl, List.forall_mem_singleton.mpr rfl⟩

end Continues

/-- Something was done in a section of its own: what was written is in that section, and
every thread is in the section that it was in before. -/
structure Encloses (name : String) (journal later : Journal) : Prop where
  thread_eq : later.thread = journal.thread
  restored : ∀ thread, later.sections.currentOf thread = journal.sections.currentOf thread
  written : ∃ new, later.records = new ++ journal.records ∧
    ∀ record ∈ new, record.sectionName = name

theorem Continues.encloses {name : String} (inside : (journal.enter name).2.Continues later) :
    Encloses name journal (later.leave (journal.enter name).1) := by
  obtain ⟨thread_eq, sections_eq, new, records_eq, here⟩ := inside
  have entered : (journal.enter name).2.sections.currentOf (journal.enter name).2.thread
      = name := by
    rw [enter, Sections.currentOf_enter, if_pos rfl]
  refine ⟨thread_eq, fun thread => ?_, new, records_eq, ?_⟩
  · rw [leave, thread_eq, sections_eq]
    exact journal.sections.currentOf_leave_enter journal.thread thread name
  · rwa [entered] at here

theorem Encloses.whereabouts_eq {name : String} (encloses : Encloses name journal later) :
    later.whereabouts = journal.whereabouts :=
  Prod.ext encloses.thread_eq (funext encloses.restored)

/-- Whatever was done to the sections in between, the guard takes its thread back. -/
theorem currentOf_leave_enter (name : String) (holdings : later.thread = journal.thread) :
    (later.leave (journal.enter name).1).sections.currentOf journal.thread
      = journal.sections.currentOf journal.thread := by
  rw [leave, holdings, Sections.currentOf_leave, if_pos rfl]
  rfl

end Journal

end DetectorSim
