import Mathlib.Data.List.Basic
import DetectorSim.Proofs.Config.Assignment

/-!
# Sections as ordered maps

Code changes a section by setting keys, by giving defaults and by merging other sections
into it.  Whatever sequence of such calls has made a section, its keys are distinct, each
stands where it came first, and what a key is worth is told by the calls alone: the last
setting counts, and without one the first default or merge that had a value for it.
Sections like these are merged to the same end in any grouping.
-/

set_option autoImplicit false

namespace DetectorSim.Config

/-- A call that changes a section. -/
inductive Edit where
  | set (key value : String)
  | setDefault (key value : String)
  | merge (other : Section)
  deriving DecidableEq, Repr

namespace Edit

/-- What a call does to a section. -/
def perform : Edit → Section → Section
  | .set key value, s => s.set key value
  | .setDefault key value, s => s.setDefault key value
  | .merge other, s => s.merge other

/-- The keys that a call comes with, in order. -/
def keys : Edit → List String
  | .set key _ => [key]
  | .setDefault key _ => [key]
  | .merge other => other.keys

/-- The value that a call gives to a key in any case. -/
def setting? (key : String) : Edit → Option String
  | .set other value => if other = key then some value else none
  | _ => none

/-- The value that a call gives to a key that has none. -/
def offer? (key : String) : Edit → Option String
  | .set .. => none
  | .setDefault other value => if other = key then some value else none
  | .merge other => other.text? key

end Edit

/-- The sections that some calls have made of a section without keys. -/
inductive Section.Made : List Edit → Section → Prop
  | empty (name : String) (file : Option String) : Made [] (Section.empty name file)
  | perform {edits : List Edit} {s : Section} (made : Made edits s) (edit : Edit) :
      Made (edits ++ [edit]) (edit.perform s)

/-- The last of some calls that sets a key gives it a value. -/
def LastSet (edits : List Edit) (key value : String) : Prop :=
  ∃ before after, edits = before ++ .set key value :: after ∧ ∀ other, .set key other ∉ after

/-- The first of some calls that comes with a key is a default or a merge and gives it a
value. -/
def FirstGiven (edits : List Edit) (key value : String) : Prop :=
  ∃ before edit after, edits = before ++ edit :: after ∧
    (∀ earlier ∈ before, key ∉ earlier.keys) ∧ edit.offer? key = some value

/-! ## One call -/

namespace Edit

variable {edit : Edit} {key value : String}

theorem setting?_eq_some_iff : edit.setting? key = some value ↔ edit = .set key value := by
  cases edit with
  | set other held =>
    rw [setting?, Option.ite_none_right_eq_some, Option.some.injEq, Edit.set.injEq]
  | setDefault other held => exact ⟨nofun, nofun⟩
  | merge other => exact ⟨nofun, nofun⟩

theorem setting?_eq_none_iff : edit.setting? key = none ↔ ∀ value, edit ≠ .set key value := by
  rw [Option.eq_none_iff_forall_ne_some]
  exact forall_congr' fun value => not_congr setting?_eq_some_iff

/-- A call that does not set a key comes with it exactly if it has a value for it. -/
theorem offer?_eq_none_iff (unset : edit.setting? key = none) :
    edit.offer? key = none ↔ key ∉ edit.keys := by
  cases edit with
  | set other held =>
    have apart : other ≠ key := fun same =>
      setting?_eq_none_iff.mp unset held (same ▸ rfl)
    exact iff_of_true rfl fun among => apart (List.mem_singleton.mp among).symm
  | setDefault other held => simp [offer?, keys, eq_comm]
  | merge other => exact Section.text?_eq_none_iff

theorem text?_perform (edit : Edit) (s : Section) (key : String) :
    (edit.perform s).text? key
      = ((edit.setting? key).or (s.text? key)).or (edit.offer? key) := by
  cases edit with
  | set other value =>
    rw [perform, Section.text?_set, setting?, offer?, Option.or_none]
    by_cases same : other = key
    · rw [if_pos same, if_pos same.symm, Option.some_or]
    · rw [if_neg same, if_neg (Ne.symm same), Option.none_or]
  | setDefault other value => exact Section.text?_setDefault s other value key
  | merge other => exact Section.text?_merge s other key

theorem keys_perform (edit : Edit) (s : Section) :
    (edit.perform s).keys = edit.keys.foldl Section.withKey s.keys := by
  cases edit with
  | set key value => exact Section.keys_set s key value
  | setDefault key value => exact Section.keys_setDefault s key value
  | merge other => exact s.keys_merge_eq other

end Edit

/-! ## Keys -/

namespace Section

theorem prefix_foldl_withKey (keys more : List String) : keys <+: more.foldl withKey keys := by
  induction more generalizing keys with
  | nil => exact List.prefix_refl keys
  | cons key rest ih =>
    have first : keys <+: withKey keys key := by
      unfold withKey
      split
      · exact List.prefix_refl keys
      · exact List.prefix_append keys [key]
    exact first.trans (ih (withKey keys key))

theorem foldl_withKey (keys more : List String) :
    more.foldl withKey keys.eraseDups = (keys ++ more).eraseDups := by
  induction more generalizing keys with
  | nil => rw [List.append_nil, List.foldl_nil]
  | cons key rest ih =>
    rw [List.foldl_cons, withKey_eraseDups, ih, List.append_assoc, List.singleton_append]

end Section

/-! ## Any calls -/

namespace Section.Made

variable {edits : List Edit} {s : Section}

/-- Each key stands where a call came with it first. -/
theorem keys_eq (made : Made edits s) : s.keys = (edits.flatMap Edit.keys).eraseDups := by
  induction made with
  | empty name file => exact List.eraseDups_nil.symm
  | perform made edit ih =>
    rw [Edit.keys_perform, ih, foldl_withKey, List.flatMap_append, List.flatMap_singleton]

theorem nodup_keys (made : Made edits s) : s.keys.Nodup :=
  made.keys_eq ▸ nodup_eraseDups _

/-- The last setting of a key counts, or else the first offer of a value for it. -/
theorem text?_eq (made : Made edits s) (key : String) :
    s.text? key = (edits.reverse.findSome? (Edit.setting? key)).or
      (edits.findSome? (Edit.offer? key)) := by
  induction made with
  | empty name file => rfl
  | @perform edits s made edit ih =>
    rw [Edit.text?_perform, ih, List.reverse_append, List.reverse_singleton,
      List.singleton_append, List.findSome?_cons, List.findSome?_append, List.findSome?_singleton]
    cases edit.setting? key with
    | none => rw [Option.none_or, Option.or_assoc]
    | some value => simp only [Option.some_or]

end Section.Made

section Telling

variable {edits : List Edit} {key value : String}

theorem setting?_eq_none_of_forall (unset : ∀ other, .set key other ∉ edits) :
    ∀ edit ∈ edits, edit.setting? key = none := fun _ among =>
  Edit.setting?_eq_none_iff.mpr fun value same => unset value (same ▸ among)

theorem findSome?_setting?_eq_none_iff :
    edits.reverse.findSome? (Edit.setting? key) = none ↔ ∀ other, .set key other ∉ edits := by
  simp only [List.findSome?_eq_none_iff, List.mem_reverse]
  refine ⟨fun unset other among => ?_, setting?_eq_none_of_forall⟩
  exact Edit.setting?_eq_none_iff.mp (unset _ among) other rfl

theorem lastSet_iff :
    LastSet edits key value ↔ edits.reverse.findSome? (Edit.setting? key) = some value := by
  simp only [List.findSome?_eq_some_iff, Edit.setting?_eq_some_iff]
  constructor
  · rintro ⟨before, after, rfl, unset⟩
    refine ⟨after.reverse, .set key value, before.reverse, by simp, rfl, fun edit among => ?_⟩
    exact setting?_eq_none_of_forall unset edit (List.mem_reverse.mp among)
  · rintro ⟨after, edit, before, split, rfl, unset⟩
    refine ⟨before.reverse, after.reverse, ?_, fun other among => ?_⟩
    · rw [← List.reverse_reverse edits, split]
      simp
    · exact Edit.setting?_eq_none_iff.mp (unset _ (List.mem_reverse.mp among)) other rfl

theorem firstGiven_iff (unset : ∀ other, .set key other ∉ edits) :
    FirstGiven edits key value ↔ edits.findSome? (Edit.offer? key) = some value := by
  have silent := setting?_eq_none_of_forall unset
  rw [List.findSome?_eq_some_iff]
  constructor
  · rintro ⟨before, edit, after, rfl, fresh, gives⟩
    refine ⟨before, edit, after, rfl, gives, fun earlier among => ?_⟩
    exact (Edit.offer?_eq_none_iff (silent earlier (List.mem_append_left _ among))).mpr
      (fresh earlier among)
  · rintro ⟨before, edit, after, rfl, gives, fresh⟩
    refine ⟨before, edit, after, rfl, fun earlier among => ?_, gives⟩
    exact (Edit.offer?_eq_none_iff (silent earlier (List.mem_append_left _ among))).mp
      (fresh earlier among)

end Telling

namespace Section

/-- A section holds what some calls tell. -/
structure Recalls (edits : List Edit) (s : Section) : Prop where
  distinct : s.keys.Nodup
  /-- Each key stands where a call came with it first. -/
  ordered : s.keys = (edits.flatMap Edit.keys).eraseDups
  /-- No further call moves, removes or renames a key. -/
  kept : ∀ edit : Edit, s.keys <+: (edit.perform s).keys
  /-- The last setting of a key counts, or else the first default or merge that came with
  the key. -/
  value : ∀ key value, s.text key = .ok value ↔
    LastSet edits key value ∨ (∀ other, .set key other ∉ edits) ∧ FirstGiven edits key value
  /-- A key is missing if no call came with it. -/
  missing : ∀ key err, s.text key = .error err ↔
    err = .missingKey s.name key ∧ ∀ edit ∈ edits, key ∉ edit.keys

theorem text_eq_ok_iff {s : Section} {key value : String} :
    s.text key = .ok value ↔ s.text? key = some value := by
  unfold text
  cases s.text? key with
  | none => exact ⟨nofun, nofun⟩
  | some held => simp

theorem text_eq_error_iff {s : Section} {key : String} {err : Error} :
    s.text key = .error err ↔ err = .missingKey s.name key ∧ key ∉ s.keys := by
  rw [← text?_eq_none_iff]
  unfold text
  cases s.text? key with
  | none => simp [eq_comm]
  | some held => simp

theorem Made.recalls {edits : List Edit} {s : Section} (made : Made edits s) :
    s.Recalls edits where
  distinct := made.nodup_keys
  ordered := made.keys_eq
  kept edit := by
    rw [edit.keys_perform]
    exact prefix_foldl_withKey s.keys edit.keys
  value key value := by
    rw [text_eq_ok_iff, made.text?_eq, Option.or_eq_some_iff, ← lastSet_iff,
      findSome?_setting?_eq_none_iff]
    refine or_congr_right (and_congr_right fun unset => ?_)
    exact (firstGiven_iff unset).symm
  missing key err := by
    rw [text_eq_error_iff, made.keys_eq, List.mem_eraseDups, List.mem_flatMap]
    simp only [not_exists, not_and]

/-! ## Merging -/

/-- A merge puts the entries of keys that are not known behind the others. -/
theorem merge_eq {s other : Section} (distinct : other.keys.Nodup) :
    s.merge other =
      { s with
        entries := s.entries ++ other.entries.filter fun entry => entry.1 ∉ s.keys } := by
  have taken (entries : List (String × String)) (distinct : (entries.map Prod.fst).Nodup)
      (s : Section) :
      entries.foldl (fun merged entry => merged.setDefault entry.1 entry.2) s =
        { s with entries := s.entries ++ entries.filter fun entry => entry.1 ∉ s.keys } := by
    induction entries generalizing s with
    | nil => simp
    | cons entry rest ih =>
      obtain ⟨fresh, others⟩ := List.nodup_cons.mp distinct
      rw [List.foldl_cons, ih others, setDefault]
      by_cases known : entry.1 ∈ s.keys
      · rw [if_pos (has_iff.mpr known), List.filter_cons_of_neg (by simpa using known)]
      · -- The key is new, and no later entry has it.
        have later : rest.filter (fun held => held.1 ∉ s.keys ++ [entry.1])
            = rest.filter fun held => held.1 ∉ s.keys := by
          refine List.filter_congr fun held among => ?_
          have apart : held.1 ≠ entry.1 := fun same =>
            fresh (same ▸ List.mem_map_of_mem among)
          simp [apart]
        have grown : Section.keys { s with entries := s.entries ++ [(entry.1, entry.2)] }
            = s.keys ++ [entry.1] := List.map_append
        rw [if_neg (mt has_iff.mp known), grown, later,
          List.filter_cons_of_pos (by simpa using known), List.append_assoc,
          List.singleton_append]
  exact taken other.entries distinct s

theorem mem_keys_merge {s other : Section} {key : String} :
    key ∈ (s.merge other).keys ↔ key ∈ s.keys ∨ key ∈ other.keys := by
  rw [← not_iff_not, not_or, ← text?_eq_none_iff, ← text?_eq_none_iff, ← text?_eq_none_iff,
    text?_merge, Option.or_eq_none_iff]

/-- Merging two sections one after the other is merging them at once. -/
theorem merge_merge {a b c : Section} (distinct : b.keys.Nodup) (distinct' : c.keys.Nodup)
    (joined : (b.merge c).keys.Nodup) : (a.merge b).merge c = a.merge (b.merge c) := by
  have fresh : c.entries.filter (fun entry => entry.1 ∉ (a.merge b).keys)
      = (c.entries.filter fun entry => entry.1 ∉ b.keys).filter
          fun entry => entry.1 ∉ a.keys := by
    rw [List.filter_filter]
    refine List.filter_congr fun entry _ => ?_
    simp only [mem_keys_merge, not_or, Bool.decide_and]
  rw [merge_eq distinct', merge_eq joined, fresh, merge_eq distinct, merge_eq distinct',
    List.filter_append, List.append_assoc]

/-- A section has all keys of its own. -/
theorem merge_self {s : Section} (distinct : s.keys.Nodup) : s.merge s = s := by
  have nothing : s.entries.filter (fun entry => entry.1 ∉ s.keys) = [] := by
    refine List.filter_eq_nil_iff.mpr fun entry among => ?_
    have known : entry.1 ∈ s.keys := List.mem_map_of_mem among
    simpa using known
  rw [merge_eq distinct, nothing, List.append_nil]

/-- A merge into a section without keys takes over what the other one has. -/
theorem empty_merge {s : Section} (distinct : s.keys.Nodup) (name : String)
    (file : Option String) : (empty name file).merge s = { s with name, file } := by
  have everything : s.entries.filter (fun entry => entry.1 ∉ (empty name file).keys)
      = s.entries :=
    List.filter_eq_self.mpr fun _ _ => decide_eq_true List.not_mem_nil
  rw [merge_eq distinct, everything]
  rfl

/-- **Sections are ordered maps.**  A section that any calls have made has distinct keys,
which no further call moves, and the values that the calls tell.  Sections that were made
so are merged to the same end in any grouping, merging a section into itself changes
nothing, and sections without keys do not count. -/
theorem ordered_map_of_made {edits edits' edits'' : List Edit} {a b c : Section}
    (made : Made edits a) (made' : Made edits' b) (made'' : Made edits'' c) :
    a.Recalls edits ∧ (a.merge b).merge c = a.merge (b.merge c) ∧ a.merge a = a ∧
      ∀ name file, a.merge (empty name file) = a ∧
        (empty name file).merge a = { a with name, file } := by
  have joined : (b.merge c).keys.Nodup := (made'.perform (.merge c)).nodup_keys
  exact ⟨made.recalls, merge_merge made'.nodup_keys made''.nodup_keys joined,
    merge_self made.nodup_keys, fun name file => ⟨rfl, empty_merge made.nodup_keys name file⟩⟩

/-- Every sequence of calls makes a section. -/
theorem made_foldl (name : String) (file : Option String) (edits : List Edit) :
    Made edits (edits.foldl (fun s edit => edit.perform s) (empty name file)) := by
  induction edits using List.reverseRecOn with
  | nil => exact .empty name file
  | append_singleton edits edit ih =>
    rw [List.foldl_append]
    exact ih.perform edit

/-- Calls that know a key already, in each of the three ways. -/
def insistentEdits : List Edit :=
  [.setDefault "noise" "1", .merge ⟨"", none, [("noise", "2"), ("gain", "3"), ("gain", "4")]⟩,
    .set "gain" "5", .setDefault "gain" "6", .set "seed" "7", .set "seed" "8"]

/-- What was given first stays without a setting, and what was set last stays with one. -/
theorem ordered_map_insistent :
    let a := insistentEdits.foldl (fun s edit => edit.perform s) (empty "" none)
    let b := (empty "" none).set "threshold" "9"
    a.entries = [("noise", "1"), ("gain", "5"), ("seed", "8")] ∧ a.Recalls insistentEdits ∧
      ((a.merge b).merge a).entries = a.entries ++ [("threshold", "9")] ∧
      (a.merge b).merge a = a.merge (b.merge a) := by
  intro a b
  have made := made_foldl "" none insistentEdits
  have made' := made_foldl "" none [.set "threshold" "9"]
  obtain ⟨recalls, grouped, -⟩ := ordered_map_of_made made made' made
  exact ⟨by decide +kernel, recalls, by decide +kernel, grouped⟩

end Section

end DetectorSim.Config
