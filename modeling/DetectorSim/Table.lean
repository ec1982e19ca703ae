/-!
# Tables

A table assigns values to keys and lists them in an order that can be told: a
new key goes to the end, or, in a table that is kept sorted, to its place in
the order of the keys.  Changing the value of a key never moves it.
-/

set_option autoImplicit false

namespace DetectorSim

/-- Keys with their values, in order. -/
structure Table (κ β : Type) where
  entries : List (κ × β)
  deriving Inhabited

namespace Table

variable {κ β γ : Type}

/-- The table without keys. -/
def empty : Table κ β :=
  ⟨[]⟩

/-- The keys, in order. -/
def keys (table : Table κ β) : List κ :=
  table.entries.map Prod.fst

/-- The values, in the order of their keys. -/
def values (table : Table κ β) : List β :=
  table.entries.map Prod.snd

variable [DecidableEq κ]

/-- The value of a key in a list of entries. -/
def findIn (key : κ) : List (κ × β) → Option β
  | [] => none
  | (other, value) :: rest => if other = key then some value else findIn key rest

/-- The value of a key. -/
def find? (table : Table κ β) (key : κ) : Option β :=
  findIn key table.entries

/-- Whether a key has a value. -/
def contains (table : Table κ β) (key : κ) : Bool :=
  (table.find? key).isSome

/-- Change the value of a key that is there. -/
def changeIn (key : κ) (f : β → β) : List (κ × β) → List (κ × β)
  | [] => []
  | (other, value) :: rest =>
      if other = key then (other, f value) :: rest else (other, value) :: changeIn key f rest

/-- Change the value of a key; nothing happens if the key has none. -/
def change (table : Table κ β) (key : κ) (f : β → β) : Table κ β :=
  ⟨changeIn key f table.entries⟩

/-- Give a key a value.  A new key goes to the end. -/
def insert (table : Table κ β) (key : κ) (value : β) : Table κ β :=
  if table.contains key then table.change key fun _ => value
  else ⟨table.entries ++ [(key, value)]⟩

/-- Change the value of a key, starting from `initial` if it has none. -/
def alter (table : Table κ β) (key : κ) (initial : β) (f : β → β) : Table κ β :=
  if table.contains key then table.change key f
  else ⟨table.entries ++ [(key, f initial)]⟩

/-- Put a new entry in front of the first entry with a larger key. -/
def placeIn (less : κ → κ → Bool) (key : κ) (value : β) : List (κ × β) → List (κ × β)
  | [] => [(key, value)]
  | (other, held) :: rest =>
      if less key other then (key, value) :: (other, held) :: rest
      else (other, held) :: placeIn less key value rest

/-- Change the value of a key, starting from `initial` if it has none, in a
table sorted by its keys. -/
def alterSorted (table : Table κ β) (less : κ → κ → Bool) (key : κ) (initial : β)
    (f : β → β) : Table κ β :=
  if table.contains key then table.change key f
  else ⟨placeIn less key (f initial) table.entries⟩

/-- Give a key a value in a table sorted by its keys. -/
def insertSorted (table : Table κ β) (less : κ → κ → Bool) (key : κ) (value : β) :
    Table κ β :=
  table.alterSorted less key value fun _ => value

/-- Take a key out. -/
def erase (table : Table κ β) (key : κ) : Table κ β :=
  ⟨table.entries.filter fun entry => decide (entry.1 ≠ key)⟩

/-! ## Finding what was changed -/

theorem findIn_changeIn (key other : κ) (f : β → β) (entries : List (κ × β)) :
    findIn other (changeIn key f entries)
      = if key = other then (findIn other entries).map f else findIn other entries := by
  induction entries with
  | nil => simp [changeIn, findIn]
  | cons entry rest ih =>
    obtain ⟨first, value⟩ := entry
    unfold changeIn
    by_cases here : first = key
    · subst here
      by_cases same : first = other <;> simp [findIn, same]
    · by_cases same : first = other
      · subst same
        simp [findIn, here, Ne.symm here]
      · simp only [findIn, if_neg here, if_neg same, ih]

theorem find?_change (table : Table κ β) (key other : κ) (f : β → β) :
    (table.change key f).find? other
      = if key = other then (table.find? other).map f else table.find? other :=
  findIn_changeIn key other f table.entries

theorem findIn_append (key : κ) (entries rest : List (κ × β)) :
    findIn key (entries ++ rest) = (findIn key entries).or (findIn key rest) := by
  induction entries with
  | nil => rfl
  | cons entry entries ih =>
    obtain ⟨first, value⟩ := entry
    by_cases here : first = key <;> simp [findIn, here, ih]

theorem find?_alter (table : Table κ β) (key other : κ) (initial : β) (f : β → β) :
    (table.alter key initial f).find? other
      = if key = other then some (f ((table.find? other).getD initial))
        else table.find? other := by
  unfold alter
  split
  · next known =>
    rw [find?_change]
    split
    · next same =>
      subst same
      obtain ⟨value, held⟩ := Option.isSome_iff_exists.mp known
      rw [held]
      rfl
    · rfl
  · next unknown =>
    have missing : table.find? key = none := Option.not_isSome_iff_eq_none.mp unknown
    unfold find? at missing ⊢
    rw [findIn_append]
    by_cases same : key = other
    · subst same
      simp [missing, findIn]
    · simp [findIn, same]

theorem find?_insert (table : Table κ β) (key other : κ) (value : β) :
    (table.insert key value).find? other = if key = other then some value else table.find? other :=
  table.find?_alter key other value fun _ => value

theorem findIn_placeIn (less : κ → κ → Bool) (key other : κ) (value : β)
    (entries : List (κ × β)) (missing : findIn key entries = none) :
    findIn other (placeIn less key value entries)
      = if key = other then some value else findIn other entries := by
  induction entries with
  | nil => simp [placeIn, findIn]
  | cons entry rest ih =>
    obtain ⟨first, held⟩ := entry
    have apart : first ≠ key := by
      rintro rfl
      simp [findIn] at missing
    simp only [findIn, if_neg apart] at missing
    unfold placeIn
    split
    · simp [findIn]
    · by_cases same : first = other
      · subst same
        simp [findIn, Ne.symm apart]
      · simp only [findIn, if_neg same, ih missing]

theorem find?_alterSorted (table : Table κ β) (less : κ → κ → Bool) (key other : κ)
    (initial : β) (f : β → β) :
    (table.alterSorted less key initial f).find? other
      = if key = other then some (f ((table.find? other).getD initial))
        else table.find? other := by
  unfold alterSorted
  split
  · next known =>
    rw [find?_change]
    split
    · next same =>
      subst same
      obtain ⟨value, held⟩ := Option.isSome_iff_exists.mp known
      rw [held]
      rfl
    · rfl
  · next unknown =>
    have missing : table.find? key = none := Option.not_isSome_iff_eq_none.mp unknown
    unfold find? at missing ⊢
    rw [findIn_placeIn less key other _ _ missing]
    split
    · next same =>
      subst same
      rw [missing]
      rfl
    · rfl

theorem find?_erase (table : Table κ β) (key other : κ) :
    (table.erase key).find? other = if key = other then none else table.find? other := by
  unfold erase find?
  simp only
  induction table.entries with
  | nil => simp [findIn]
  | cons entry rest ih =>
    obtain ⟨first, value⟩ := entry
    by_cases here : first = key
    · subst here
      rw [List.filter_cons_of_neg (by simp), ih]
      by_cases same : first = other <;> simp [findIn, same]
    · rw [List.filter_cons_of_pos (by simpa using here)]
      by_cases same : first = other
      · subst same
        simp [findIn, Ne.symm here]
      · simp only [findIn, if_neg same, ih]

theorem findIn_map (g : β → γ) (key : κ) (entries : List (κ × β)) :
    findIn key (entries.map fun entry => (entry.1, g entry.2)) = (findIn key entries).map g := by
  induction entries with
  | nil => rfl
  | cons entry rest ih =>
    obtain ⟨first, value⟩ := entry
    by_cases here : first = key <;> simp [findIn, here, ih]

/-! ## Collecting what the values hold -/

section Collecting

variable {g : β → List γ} {f : β → β} {key : κ}

/-- What all values hold changes as much as what the changed one holds. -/
theorem flatMap_changeIn_perm (gone more : List γ) {entries : List (κ × β)} {value : β}
    (found : findIn key entries = some value)
    (changed : (gone ++ g (f value)).Perm (more ++ g value)) :
    (gone ++ (changeIn key f entries).flatMap fun entry => g entry.2).Perm
      (more ++ entries.flatMap fun entry => g entry.2) := by
  induction entries with
  | nil => cases found
  | cons entry rest ih =>
    obtain ⟨first, held⟩ := entry
    unfold changeIn
    by_cases here : first = key
    · simp only [findIn, if_pos here, Option.some.injEq] at found
      subst found
      simp only [if_pos here, List.flatMap_cons, ← List.append_assoc]
      exact changed.append_right _
    · simp only [findIn, if_neg here] at found
      simp only [if_neg here, List.flatMap_cons]
      exact (List.perm_append_comm_assoc _ _ _).trans
        (((ih found).append_left _).trans (List.perm_append_comm_assoc _ _ _))

omit [DecidableEq κ] in
theorem flatMap_placeIn_perm (less : κ → κ → Bool) (value : β) (entries : List (κ × β)) :
    ((placeIn less key value entries).flatMap fun entry => g entry.2).Perm
      (g value ++ entries.flatMap fun entry => g entry.2) := by
  induction entries with
  | nil => simp [placeIn]
  | cons entry rest ih =>
    obtain ⟨first, held⟩ := entry
    unfold placeIn
    split
    · rfl
    · exact (ih.append_left _).trans (List.perm_append_comm_assoc _ _ _)

theorem flatMap_alter_perm (more : List γ) {initial : β} (table : Table κ β)
    (hollow : g initial = [])
    (changed : ∀ value, (g (f value)).Perm (more ++ g value)) :
    ((table.alter key initial f).entries.flatMap fun entry => g entry.2).Perm
      (more ++ table.entries.flatMap fun entry => g entry.2) := by
  unfold alter
  split
  · next known =>
    obtain ⟨value, held⟩ := Option.isSome_iff_exists.mp known
    exact flatMap_changeIn_perm [] more held (changed value)
  · have grown := changed initial
    rw [hollow, List.append_nil] at grown
    simp only [List.flatMap_append, List.flatMap_singleton]
    exact List.perm_append_comm.trans (grown.append_right _)

theorem flatMap_alterSorted_perm (more : List γ) {initial : β} (table : Table κ β)
    (less : κ → κ → Bool) (hollow : g initial = [])
    (changed : ∀ value, (g (f value)).Perm (more ++ g value)) :
    ((table.alterSorted less key initial f).entries.flatMap fun entry => g entry.2).Perm
      (more ++ table.entries.flatMap fun entry => g entry.2) := by
  unfold alterSorted
  split
  · next known =>
    obtain ⟨value, held⟩ := Option.isSome_iff_exists.mp known
    exact flatMap_changeIn_perm [] more held (changed value)
  · have grown := changed initial
    rw [hollow, List.append_nil] at grown
    exact (flatMap_placeIn_perm less _ _).trans (grown.append_right _)

end Collecting

end Table

/-- The order of texts by their code points. -/
def textBefore (a b : String) : Bool :=
  decide (a < b)

end DetectorSim
