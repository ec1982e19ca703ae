import Mathlib.Data.List.Basic
import Mathlib.Data.List.Induction
import Mathlib.Data.List.Nodup
import DetectorSim.Proofs.Config.Parsing

/-!
# Keys and their values

What setting, defaulting and merging do to a section, told by two views: the value of
each key, and the keys in order.  The last setting of a key gives its value, while a
default and a merge only give one to a key that has none.  A key stays where it was
first seen.
-/

set_option autoImplicit false

namespace DetectorSim.Config

namespace Section

/-! ## Entries -/

theorem lookup_append (key : String) (first second : List (String × String)) :
    lookup key (first ++ second) = (lookup key first).or (lookup key second) := by
  induction first with
  | nil => rfl
  | cons entry rest ih => by_cases same : entry.1 = key <;> simp [lookup, same, ih]

theorem lookup_eq_none_iff {key : String} {entries : List (String × String)} :
    lookup key entries = none ↔ key ∉ entries.map Prod.fst := by
  induction entries with
  | nil => exact iff_of_true rfl List.not_mem_nil
  | cons entry rest ih =>
    rw [List.map_cons, List.mem_cons, not_or, lookup]
    by_cases same : entry.1 = key
    · simp [same]
    · rw [if_neg same, ih]
      exact (and_iff_right (Ne.symm same)).symm

/-- What is looked up is the first entry with the key. -/
theorem lookup_eq_some_iff {key value : String} {entries : List (String × String)} :
    lookup key entries = some value ↔ ∃ before after,
      entries = before ++ (key, value) :: after ∧ key ∉ before.map Prod.fst := by
  constructor
  · intro found
    induction entries with
    | nil => cases found
    | cons entry rest ih =>
      obtain ⟨other, held⟩ := entry
      by_cases same : other = key
      · subst same
        rw [lookup, if_pos rfl] at found
        obtain rfl := Option.some.inj found
        exact ⟨[], rest, rfl, List.not_mem_nil⟩
      · rw [lookup, if_neg same] at found
        obtain ⟨before, after, rfl, fresh⟩ := ih found
        exact ⟨(other, held) :: before, after, rfl, List.not_mem_cons_of_ne_of_not_mem
          (Ne.symm same) fresh⟩
  · rintro ⟨before, after, rfl, fresh⟩
    rw [lookup_append, lookup_eq_none_iff.mpr fresh, Option.none_or, lookup, if_pos rfl]

theorem lookup_setIn (key other value : String) (entries : List (String × String)) :
    lookup other (setIn key value entries)
      = if other = key then some value else lookup other entries := by
  induction entries with
  | nil => simp [setIn, lookup, eq_comm]
  | cons entry rest ih =>
    obtain ⟨known, held⟩ := entry
    by_cases same : known = key
    · subst same
      by_cases asked : other = known <;> simp [setIn, lookup, asked, eq_comm]
    · by_cases asked : known = other
      · subst asked
        simp [setIn, lookup, same]
      · simp [setIn, lookup, same, asked, ih]

theorem mem_setIn {key value : String} {entries : List (String × String)}
    {entry : String × String} (mem : entry ∈ setIn key value entries) :
    entry = (key, value) ∨ entry ∈ entries := by
  induction entries with
  | nil => exact .inl (List.mem_singleton.mp mem)
  | cons held rest ih =>
    unfold setIn at mem
    split at mem
    · next same =>
      obtain rfl | mem := List.mem_cons.mp mem
      · exact .inl (by rw [same])
      · exact .inr (List.mem_cons_of_mem _ mem)
    · obtain rfl | mem := List.mem_cons.mp mem
      · exact .inr List.mem_cons_self
      · exact (ih mem).imp id (List.mem_cons_of_mem _)

theorem keys_setIn (key value : String) (entries : List (String × String)) :
    (setIn key value entries).map Prod.fst =
      if key ∈ entries.map Prod.fst then entries.map Prod.fst
      else entries.map Prod.fst ++ [key] := by
  induction entries with
  | nil => rfl
  | cons held rest ih =>
    unfold setIn
    by_cases same : held.1 = key
    · simp [same]
    · rw [if_neg same, List.map_cons, ih]
      simp only [List.map_cons, List.mem_cons, Ne.symm same, false_or]
      split <;> rfl

/-! ## Values -/

theorem name_setAll (s : Section) (settings : List (String × String)) :
    (s.setAll settings).name = s.name := by
  induction settings generalizing s with
  | nil => rfl
  | cons setting rest ih => exact ih (s.set setting.1 setting.2)

theorem text?_eq_none_iff {s : Section} {key : String} : s.text? key = none ↔ key ∉ s.keys :=
  lookup_eq_none_iff

theorem has_iff {s : Section} {key : String} : s.has key ↔ key ∈ s.keys := by
  rw [has, Option.isSome_iff_ne_none, ne_eq, text?_eq_none_iff, not_not]

theorem text?_set (s : Section) (key value other : String) :
    (s.set key value).text? other = if other = key then some value else s.text? other :=
  lookup_setIn key other value s.entries

/-- After some settings the last one of a key gives its value. -/
theorem text?_setAll (s : Section) (settings : List (String × String)) (key : String) :
    (s.setAll settings).text? key = (lookup key settings.reverse).or (s.text? key) := by
  induction settings generalizing s with
  | nil => rfl
  | cons setting rest ih =>
    rw [setAll, List.foldl_cons, ← setAll, ih, text?_set, List.reverse_cons, lookup_append,
      Option.or_assoc]
    by_cases same : setting.1 = key
    · simp [lookup, same]
    · simp [lookup, same, Ne.symm same]

theorem text?_setDefault (s : Section) (key value other : String) :
    (s.setDefault key value).text? other
      = (s.text? other).or (if key = other then some value else none) := by
  unfold setDefault
  split
  · next held =>
    by_cases same : key = other
    · subst same
      obtain ⟨known, found⟩ := Option.isSome_iff_exists.mp held
      rw [found, Option.some_or]
    · rw [if_neg same, Option.or_none]
  · exact lookup_append other s.entries [(key, value)]

/-- A merge gives values to keys that have none. -/
theorem text?_merge (s other : Section) (key : String) :
    (s.merge other).text? key = (s.text? key).or (other.text? key) := by
  have taken (entries : List (String × String)) :
      (entries.foldl (fun merged entry => merged.setDefault entry.1 entry.2) s).text? key
        = (s.text? key).or (lookup key entries) := by
    induction entries generalizing s with
    | nil => exact (Option.or_none).symm
    | cons entry rest ih =>
      rw [List.foldl_cons, ih, text?_setDefault, Option.or_assoc, lookup]
      split <;> rfl
  exact taken other.entries

/-- Of merged sections the first that knows a key gives its value. -/
theorem text?_foldl_merge (sections : List Section) (s : Section) (key : String) :
    (sections.foldl merge s).text? key
      = (s.text? key).or (sections.findSome? fun other => other.text? key) := by
  induction sections generalizing s with
  | nil => exact (Option.or_none).symm
  | cons other rest ih =>
    rw [List.foldl_cons, ih, text?_merge, Option.or_assoc, List.findSome?_cons]
    cases other.text? key <;> rfl

/-! ## Keys -/

/-- Keys with one more, which comes last unless it is known. -/
def withKey (keys : List String) (key : String) : List String :=
  if key ∈ keys then keys else keys ++ [key]

theorem keys_set (s : Section) (key value : String) :
    (s.set key value).keys = withKey s.keys key :=
  keys_setIn key value s.entries

theorem keys_setDefault (s : Section) (key value : String) :
    (s.setDefault key value).keys = withKey s.keys key := by
  unfold setDefault withKey
  by_cases held : key ∈ s.keys
  · rw [if_pos (has_iff.mpr held), if_pos held]
  · rw [if_neg (mt has_iff.mp held), if_neg held]
    exact List.map_append

theorem withKey_eraseDups (keys : List String) (key : String) :
    withKey keys.eraseDups key = (keys ++ [key]).eraseDups := by
  rw [withKey, List.eraseDups_append]
  by_cases known : key ∈ keys
  · simp [List.removeAll, known]
  · simp [List.removeAll, known, List.eraseDups_cons]

theorem foldl_withKey_eraseDups (keys more : List String) :
    more.eraseDups.foldl withKey keys.eraseDups = (keys ++ more).eraseDups := by
  -- From the end, where `eraseDups` decides whether the last key is a new one.
  induction more using List.reverseRecOn with
  | nil => rw [List.eraseDups_nil, List.foldl_nil, List.append_nil]
  | append_singleton more key ih =>
    rw [← List.append_assoc, ← withKey_eraseDups (keys ++ more), ← withKey_eraseDups more,
      withKey]
    split
    · next known =>
      have held : key ∈ (keys ++ more).eraseDups := List.mem_eraseDups.mpr
        (List.mem_append_right _ (List.mem_eraseDups.mp known))
      rw [ih, withKey, if_pos held]
    · rw [List.foldl_append, ih, List.foldl_cons, List.foldl_nil]

theorem nodup_eraseDups (keys : List String) : keys.eraseDups.Nodup := by
  induction keys using List.reverseRecOn with
  | nil => exact List.nodup_nil
  | append_singleton keys key ih =>
    rw [← withKey_eraseDups, withKey]
    split
    · exact ih
    · next fresh => exact List.concat_eq_append ▸ List.Nodup.concat fresh ih

/-- After some settings each key stands where it was set first. -/
theorem keys_setAll {s : Section} {keys : List String} (known : s.keys = keys.eraseDups)
    (settings : List (String × String)) :
    (s.setAll settings).keys = (keys ++ settings.map Prod.fst).eraseDups := by
  induction settings generalizing s keys with
  | nil => rw [List.map_nil, List.append_nil, ← known]; rfl
  | cons setting rest ih =>
    have first : (s.set setting.1 setting.2).keys = (keys ++ [setting.1]).eraseDups := by
      rw [keys_set, known, withKey_eraseDups]
    rw [setAll, List.foldl_cons, ← setAll, ih first, List.append_assoc, List.map_cons,
      List.singleton_append]

theorem keys_merge_eq (s other : Section) :
    (s.merge other).keys = other.keys.foldl withKey s.keys := by
  have taken (entries : List (String × String)) (s : Section) :
      (entries.foldl (fun merged entry => merged.setDefault entry.1 entry.2) s).keys
        = (entries.map Prod.fst).foldl withKey s.keys := by
    induction entries generalizing s with
    | nil => rfl
    | cons entry rest ih =>
      rw [List.foldl_cons, ih, keys_setDefault, List.map_cons, List.foldl_cons]
  exact taken other.entries s

/-- A merge puts the keys that were not known last. -/
theorem keys_merge {s other : Section} {keys more : List String}
    (known : s.keys = keys.eraseDups) (further : other.keys = more.eraseDups) :
    (s.merge other).keys = (keys ++ more).eraseDups := by
  rw [keys_merge_eq, further, known, foldl_withKey_eraseDups]

end Section

end DetectorSim.Config
