import Mathlib.Data.List.Nodup

/-!
# Lists with keys

What stands in a list is often chosen by a key: an owner, a place, a number.
-/

set_option autoImplicit false

namespace DetectorSim

namespace List

variable {α β γ : Type}

section Distinct

variable [DecidableEq β] {key : α → β} {items : List α}

/-- An element is the only one with its key, if no two elements share one. -/
theorem filter_key_eq_singleton {item : α} (distinct : (items.map key).Nodup)
    (among : item ∈ items) : (items.filter fun other => key other = key item) = [item] := by
  induction items with
  | nil => cases among
  | cons first rest ih =>
    obtain ⟨fresh, distinct⟩ := List.nodup_cons.mp distinct
    rcases List.mem_cons.mp among with rfl | among
    · rw [List.filter_cons_of_pos (by simp), List.filter_eq_nil_iff.mpr]
      intro other among same
      exact fresh (of_decide_eq_true same ▸ List.mem_map_of_mem among)
    · have apart : key first ≠ key item := fun same => fresh (same ▸ List.mem_map_of_mem among)
      rw [List.filter_cons_of_neg (by simpa using apart), ih distinct among]

/-- An element is found by its key, if no two elements share one. -/
theorem find?_key_eq_some_iff {item : α} {value : β} (distinct : (items.map key).Nodup) :
    (items.find? fun other => key other = value) = some item ↔
      item ∈ items ∧ key item = value := by
  constructor
  · intro found
    have named := List.find?_some (p := fun other => decide (key other = value)) found
    exact ⟨List.mem_of_find?_eq_some found, of_decide_eq_true named⟩
  · rintro ⟨among, rfl⟩
    rw [← List.head?_filter, filter_key_eq_singleton distinct among]
    rfl

/-- Erasing the first element with a key erases all of them, if no two share one. -/
theorem eraseP_key_eq_filter (distinct : (items.map key).Nodup) (value : β) :
    (items.eraseP fun item => key item = value)
      = items.filter fun item => key item ≠ value := by
  induction items with
  | nil => rfl
  | cons first rest ih =>
    obtain ⟨fresh, distinct⟩ := List.nodup_cons.mp distinct
    by_cases here : key first = value
    · subst here
      rw [List.eraseP_cons_of_pos (by simp), List.filter_cons_of_neg (by simp),
        List.filter_eq_self.mpr]
      intro item among
      exact decide_eq_true fun same => fresh (same ▸ List.mem_map_of_mem among)
    · rw [List.eraseP_cons_of_neg (by simpa using here),
        List.filter_cons_of_pos (by simpa using here), ih distinct]

end Distinct

/-- If two elements share a key, some element shares it with one before it. -/
theorem exists_split_of_not_nodup_map {key : α → β} {items : List α}
    (shared : ¬ (items.map key).Nodup) :
    ∃ front item back, items = front ++ item :: back ∧ ∃ other ∈ front, key other = key item := by
  induction items with
  | nil => exact absurd .nil shared
  | cons first rest ih =>
    by_cases again : key first ∈ rest.map key
    · obtain ⟨item, among, same⟩ := List.mem_map.mp again
      obtain ⟨front, back, rfl⟩ := List.append_of_mem among
      exact ⟨first :: front, item, back, rfl, first, List.mem_cons_self, same.symm⟩
    · have later : ¬ (rest.map key).Nodup := fun distinct =>
        shared (List.nodup_cons.mpr ⟨again, distinct⟩)
      obtain ⟨front, item, back, rfl, other, among, same⟩ := ih later
      exact ⟨first :: front, item, back, rfl, other, List.mem_cons_of_mem _ among, same⟩

/-- If some elements are not as they should be, there is a first one of them. -/
theorem exists_first_of_not_forall {p : α → Prop} {items : List α}
    (some_bad : ¬ ∀ item ∈ items, p item) :
    ∃ front item back, items = front ++ item :: back ∧ (∀ other ∈ front, p other) ∧ ¬ p item := by
  induction items with
  | nil => exact absurd (fun _ among => nomatch among) some_bad
  | cons first rest ih =>
    by_cases good : p first
    · have later : ¬ ∀ item ∈ rest, p item := fun others =>
        some_bad (List.forall_mem_cons.mpr ⟨good, others⟩)
      obtain ⟨front, item, back, rfl, before, bad⟩ := ih later
      exact ⟨first :: front, item, back, rfl, List.forall_mem_cons.mpr ⟨good, before⟩, bad⟩
    · exact ⟨[], first, rest, rfl, nofun, good⟩

/-- Erasing an element that was not asked for changes no answer. -/
theorem find?_eraseP_of_apart {p q : α → Bool} (apart : ∀ item, p item = true → q item = false)
    (items : List α) : (items.eraseP p).find? q = items.find? q := by
  induction items with
  | nil => rfl
  | cons first rest ih =>
    by_cases here : p first = true
    · rw [List.eraseP_cons_of_pos here, List.find?_cons_of_neg (by simp [apart first here])]
    · rw [List.eraseP_cons_of_neg here, List.find?_cons, List.find?_cons, ih]

section Groups

variable {key : β → γ}

/-- Elements that share their key are chosen together. -/
theorem filter_of_key_eq {items : List β} {value : γ}
    (shared : ∀ item ∈ items, key item = value) (chosen : γ → Bool) :
    (items.filter fun item => chosen (key item)) = if chosen value then items else [] := by
  split
  · next so =>
    refine List.filter_eq_self.mpr fun item among => ?_
    rwa [shared item among]
  · next other =>
    refine List.filter_eq_nil_iff.mpr fun item among => ?_
    rwa [shared item among]

/-- Where each group has a key of its own, choosing elements by their key is
choosing groups. -/
theorem filter_flatMap_key {group : α → List β} {name : α → γ}
    (shared : ∀ a, ∀ item ∈ group a, key item = name a) (chosen : γ → Bool)
    (groups : List α) :
    ((groups.flatMap group).filter fun item => chosen (key item))
      = (groups.filter fun a => chosen (name a)).flatMap group := by
  induction groups with
  | nil => rfl
  | cons a rest ih =>
    rw [List.flatMap_cons, List.filter_append, ih, filter_of_key_eq (shared a),
      List.filter_cons]
    split <;> rfl

end Groups

/-- Elements that are listed key by key, for each key once, are listed once. -/
theorem flatMap_filter_key_perm [DecidableEq β] {key : α → β} {keys : List β} {items : List α}
    (distinct : keys.Nodup) (covered : ∀ item ∈ items, key item ∈ keys) :
    (keys.flatMap fun value => items.filter fun item => key item = value).Perm items := by
  induction keys generalizing items with
  | nil =>
    have none_there : items = [] :=
      List.eq_nil_iff_forall_not_mem.mpr fun item among => nomatch covered item among
    rw [none_there]
    rfl
  | cons value rest ih =>
    obtain ⟨fresh, distinct⟩ := List.nodup_cons.mp distinct
    have later : ∀ item ∈ items.filter (fun item => !decide (key item = value)),
        key item ∈ rest := by
      intro item among
      obtain ⟨among, apart⟩ := List.mem_filter.mp among
      exact (List.mem_cons.mp (covered item among)).resolve_left (by simpa using apart)
    -- What has the first key plays no part for the others.
    have others : (rest.flatMap fun other => items.filter fun item => key item = other)
        = rest.flatMap fun other =>
            (items.filter fun item => !decide (key item = value)).filter
              fun item => key item = other := by
      refine List.flatMap_congr fun other among => ?_
      rw [List.filter_filter]
      refine List.filter_congr fun item _ => ?_
      by_cases here : key item = other
      · have apart : other ≠ value := fun same => fresh (same ▸ among)
        simp [here, apart]
      · simp [here]
    rw [List.flatMap_cons, others]
    exact ((ih distinct later).append_left _).trans (List.filter_append_perm _ items)

end List

end DetectorSim
