import Mathlib.Data.List.Nodup
import Mathlib.Data.String.Basic
import DetectorSim.Table

/-!
# Tables with distinct keys

A table whose keys are distinct is a list of entries that its keys choose.  A table that
is kept sorted has its keys in their order, each of them once, whatever is done to it.
-/

set_option autoImplicit false

namespace DetectorSim

/-! ## Changed entries -/

namespace Table

variable {κ β : Type} [DecidableEq κ] {key : κ}

theorem findIn_eq_none {entries : List (κ × β)} :
    findIn key entries = none ↔ key ∉ entries.map Prod.fst := by
  induction entries with
  | nil => simp [findIn]
  | cons entry rest ih =>
    obtain ⟨first, value⟩ := entry
    by_cases here : first = key
    · simp [findIn, here]
    · simp [findIn, here, ih, Ne.symm here]

/-- An entry of a table with distinct keys is found by its key. -/
theorem mem_iff_findIn {value : β} {entries : List (κ × β)}
    (distinct : (entries.map Prod.fst).Nodup) :
    (key, value) ∈ entries ↔ findIn key entries = some value := by
  induction entries with
  | nil => simp [findIn]
  | cons entry rest ih =>
    obtain ⟨first, held⟩ := entry
    obtain ⟨fresh, distinct⟩ := List.nodup_cons.mp distinct
    rw [List.mem_cons, Prod.mk.injEq, findIn]
    by_cases here : first = key
    · subst here
      have later : (first, value) ∉ rest := fun among =>
        fresh (List.mem_map.mpr ⟨_, among, rfl⟩)
      simp [later, eq_comm]
    · simp [here, Ne.symm here, ih distinct]

/-- A change that leaves the value of its key as it is changes nothing. -/
theorem change_eq_self {table : Table κ β} {f : β → β}
    (fixed : ∀ value, table.find? key = some value → f value = value) :
    table.change key f = table := by
  obtain ⟨entries⟩ := table
  unfold change
  congr 1
  change ∀ value, findIn key entries = some value → f value = value at fixed
  induction entries with
  | nil => rfl
  | cons entry rest ih =>
    obtain ⟨first, held⟩ := entry
    unfold changeIn
    unfold findIn at fixed
    by_cases here : first = key
    · rw [if_pos here] at fixed ⊢
      rw [fixed held rfl]
    · rw [if_neg here] at fixed ⊢
      rw [ih fixed]

/-- Where a key is missing, it is missed when the key is left out. -/
theorem filter_ne_of_notMem {entries : List (κ × β)} (missing : key ∉ entries.map Prod.fst) :
    entries.filter (fun entry => entry.1 ≠ key) = entries := by
  refine List.filter_eq_self.mpr fun entry among => decide_eq_true fun same => ?_
  exact missing (same ▸ List.mem_map_of_mem among)

theorem changeIn_perm {value : β} {entries : List (κ × β)}
    (distinct : (entries.map Prod.fst).Nodup) (found : key ∈ entries.map Prod.fst) :
    (changeIn key (fun _ => value) entries).Perm
      ((key, value) :: entries.filter fun entry => entry.1 ≠ key) := by
  induction entries with
  | nil => cases found
  | cons entry rest ih =>
    obtain ⟨first, held⟩ := entry
    obtain ⟨fresh, distinct⟩ := List.nodup_cons.mp distinct
    unfold changeIn
    by_cases here : first = key
    · subst here
      rw [if_pos rfl, List.filter_cons_of_neg (by simp), filter_ne_of_notMem fresh]
    · rw [if_neg here, List.filter_cons_of_pos (by simpa using here)]
      have later : key ∈ rest.map Prod.fst := by
        rcases List.mem_cons.mp found with same | later
        · exact absurd same.symm here
        · exact later
      exact ((ih distinct later).cons _).trans (.swap _ _ _)

omit [DecidableEq κ] in
theorem placeIn_perm (less : κ → κ → Bool) (key : κ) (value : β) (entries : List (κ × β)) :
    (placeIn less key value entries).Perm ((key, value) :: entries) := by
  induction entries with
  | nil => exact .refl _
  | cons entry rest ih =>
    obtain ⟨first, held⟩ := entry
    unfold placeIn
    split
    · exact .refl _
    · exact (ih.cons _).trans (.swap _ _ _)

/-- A table gets a new entry for a key and keeps those for other keys. -/
theorem insertSorted_perm {table : Table κ β} (distinct : table.keys.Nodup)
    (less : κ → κ → Bool) (key : κ) (value : β) :
    (table.insertSorted less key value).entries.Perm
      ((key, value) :: table.entries.filter fun entry => entry.1 ≠ key) := by
  unfold insertSorted alterSorted
  split
  · next known =>
    apply changeIn_perm distinct
    by_contra missing
    rw [contains, find?, findIn_eq_none.mpr missing] at known
    cases known
  · next unknown =>
    have missing : key ∉ table.entries.map Prod.fst :=
      findIn_eq_none.mp (Option.not_isSome_iff_eq_none.mp unknown)
    rw [filter_ne_of_notMem missing]
    exact placeIn_perm less key value table.entries

theorem map_fst_changeIn (f : β → β) (entries : List (κ × β)) :
    (changeIn key f entries).map Prod.fst = entries.map Prod.fst := by
  induction entries with
  | nil => rfl
  | cons entry rest ih =>
    obtain ⟨first, held⟩ := entry
    unfold changeIn
    split
    · rfl
    · rw [List.map_cons, List.map_cons, ih]

/-- A key stands in a table if it has a value there. -/
theorem mem_keys_iff {table : Table κ β} : key ∈ table.keys ↔ table.find? key ≠ none := by
  rw [find?, Ne, findIn_eq_none, not_not, keys]

/-- A table with distinct keys is what its keys have as values. -/
theorem entries_eq_map {table : Table κ β} {value : κ → β} (distinct : table.keys.Nodup)
    (values : ∀ key ∈ table.keys, table.find? key = some (value key)) :
    table.entries = table.keys.map fun key => (key, value key) := by
  refine (List.map_id _).symm.trans (Eq.trans ?_ List.map_map.symm)
  refine List.map_congr_left fun ⟨key, held⟩ among => ?_
  have found := (mem_iff_findIn distinct).mp among
  have same := (values key (List.mem_map_of_mem among)).symm.trans found
  rw [Function.comp_apply, Option.some.inj same]
  rfl

/-! ## Sorted tables -/

/-- A test that says which of two different keys comes first. -/
structure Orders (less : κ → κ → Bool) : Prop where
  trans : ∀ a b c, less a b = true → less b c = true → less a c = true
  total : ∀ a b, ¬ less a b = true → b ≠ a → less b a = true

variable {less : κ → κ → Bool}

omit [DecidableEq κ] in
theorem pairwise_placeIn (orders : Orders less) {value : β} {entries : List (κ × β)}
    (ascending : (entries.map Prod.fst).Pairwise fun a b => less a b = true)
    (missing : key ∉ entries.map Prod.fst) :
    ((placeIn less key value entries).map Prod.fst).Pairwise fun a b => less a b = true := by
  induction entries with
  | nil => exact List.pairwise_singleton _ _
  | cons entry rest ih =>
    obtain ⟨first, held⟩ := entry
    obtain ⟨least, ordered⟩ := List.pairwise_cons.mp ascending
    obtain ⟨apart, later⟩ := not_or.mp fun among => missing (List.mem_cons.mpr among)
    unfold placeIn
    split
    · next before =>
      refine List.pairwise_cons.mpr ⟨fun other among => ?_, ascending⟩
      rcases List.mem_cons.mp among with rfl | among
      · exact before
      · exact orders.trans _ _ _ before (least other among)
    · next after =>
      refine List.pairwise_cons.mpr ⟨fun other among => ?_, ih ordered later⟩
      have perm := (placeIn_perm less key value rest).map Prod.fst
      rcases List.mem_cons.mp (perm.mem_iff.mp among) with rfl | among
      · exact orders.total _ _ after (Ne.symm apart)
      · exact least other among

/-- A table that is kept sorted stays so. -/
theorem pairwise_alterSorted (orders : Orders less) {table : Table κ β}
    (ascending : table.keys.Pairwise fun a b => less a b = true) (key : κ) (initial : β)
    (f : β → β) :
    (table.alterSorted less key initial f).keys.Pairwise fun a b => less a b = true := by
  unfold alterSorted
  split
  · rw [keys, change, map_fst_changeIn]
    exact ascending
  · next unknown =>
    exact pairwise_placeIn orders ascending
      (findIn_eq_none.mp (Option.not_isSome_iff_eq_none.mp unknown))

end Table

theorem orders_textBefore : Table.Orders textBefore where
  trans _ _ _ first second :=
    decide_eq_true (lt_trans (of_decide_eq_true first) (of_decide_eq_true second))
  total _ _ after apart :=
    decide_eq_true (lt_of_le_of_ne (not_lt.mp fun less => after (decide_eq_true less)) apart)

/-- The keys of a table stand in their order, and none stands twice. -/
def Table.Ascending {β : Type} (table : Table String β) : Prop :=
  table.keys.Pairwise fun a b => textBefore a b = true

namespace Table.Ascending

variable {β : Type} {table : Table String β} {key : String}

theorem empty : (Table.empty : Table String β).Ascending :=
  .nil

theorem nodup (ascending : table.Ascending) : table.keys.Nodup := by
  refine ascending.imp fun {a b} before same => ?_
  rw [same] at before
  exact lt_irrefl b (of_decide_eq_true before)

theorem change (ascending : table.Ascending) (key : String) (f : β → β) :
    (table.change key f).Ascending := by
  rw [Table.Ascending, keys, Table.change, map_fst_changeIn]
  exact ascending

theorem alterSorted (ascending : table.Ascending) (key : String) (initial : β) (f : β → β) :
    (table.alterSorted textBefore key initial f).Ascending :=
  pairwise_alterSorted orders_textBefore ascending key initial f

theorem insertSorted (ascending : table.Ascending) (key : String) (value : β) :
    (table.insertSorted textBefore key value).Ascending :=
  ascending.alterSorted key value fun _ => value

end Table.Ascending

end DetectorSim
