import Mathlib.Data.List.Nodup
import Hotplug.Table
/-!
# Tables with distinct keys

What the operations on a table do to its keys, and to everything that its values hold.

## Main definitions

* `Hotplug.Table.view`: the keys with what a function shows of their values.

## Main statements

* `Hotplug.Table.erase_insert`, `Hotplug.Table.update_update`: what is taken back leaves nothing behind.
* `Hotplug.Table.insert_insert`: of two values under one key the later counts.
* `Hotplug.Table.count_insert`, `Hotplug.Table.count_erase`: how often something is held by the values
  of a table, before and after.
-/

namespace Hotplug.Table

/-! ### Views -/

section View

variable {κ α β : Type}

/-- The keys with what a function shows of their values. -/
def view (table : Table κ α) (f : α → β) : List (κ × β) :=
  table.entries.map fun entry => (entry.1, f entry.2)

theorem keys_congr {table other : Table κ α} {f : α → β} (h : table.view f = other.view f) :
    table.keys = other.keys := by
  have hkeys (table : Table κ α) : (table.view f).map (·.1) = table.keys := by
    rw [view, List.map_map]
    rfl
  rw [← hkeys, h, hkeys]

/-- What the values hold is the same if it shows in a view. -/
theorem flatMap_values_congr {γ : Type} {table other : Table κ α} {f : α → β}
    (h : table.view f = other.view f) (g : β → List γ) :
    table.values.flatMap (fun value => g (f value)) =
      other.values.flatMap fun value => g (f value) := by
  have hvalues (table : Table κ α) : (table.view f).flatMap (fun entry => g entry.2) =
      table.values.flatMap fun value => g (f value) := by
    rw [view, values, List.flatMap_map, List.flatMap_map]
  rw [← hvalues, h, hvalues]

/-- A change that does not show leaves the view as it is. -/
theorem view_update [DecidableEq κ] (table : Table κ α) (key : κ) {change : α → α} {f : α → β}
    (h : ∀ value, f (change value) = f value) : (table.update key change).view f = table.view f := by
  rw [view, update, List.map_map]
  refine List.map_congr_left fun entry _ => ?_
  by_cases heq : entry.1 = key
  · simp [heq, h]
  · simp [heq]

theorem view_map (table : Table κ α) {change : α → α} {f : α → β}
    (h : ∀ value, f (change value) = f value) : (table.map change).view f = table.view f := by
  rw [view, map, List.map_map]
  exact List.map_congr_left fun entry _ => by simp [h]

end View

variable {κ α β : Type} [DecidableEq κ] [DecidableEq β]

theorem mem_keys_put {key other : κ} {value : α} {entries : List (κ × α)} :
    other ∈ (put key value entries).map (·.1) ↔ other = key ∨ other ∈ entries.map (·.1) := by
  induction entries with
  | nil => simp [put]
  | cons entry rest ih =>
    rw [put]
    split
    · next h => simp [h]
    · rw [List.map_cons, List.mem_cons, ih, List.map_cons, List.mem_cons, or_left_comm]

/-- Of two values under one key the later counts. -/
theorem insert_insert (table : Table κ α) (key : κ) (first second : α) :
    (table.insert key first).insert key second = table.insert key second := by
  have hput (entries : List (κ × α)) :
      put key second (put key first entries) = put key second entries := by
    induction entries with
    | nil => simp [put]
    | cons entry rest ih =>
      by_cases h : entry.1 = key
      · simp [put, h]
      · simp [put, h, ih]
  exact congrArg Table.mk (hput table.entries)

theorem nodup_keys_insert {table : Table κ α} (h : table.keys.Nodup) (key : κ) (value : α) :
    (table.insert key value).keys.Nodup := by
  obtain ⟨entries⟩ := table
  change ((put key value entries).map (·.1)).Nodup
  induction entries with
  | nil => exact List.nodup_singleton key
  | cons entry rest ih =>
    obtain ⟨hnew, hrest⟩ := List.nodup_cons.1 h
    rw [put]
    split
    · next heq =>
      subst heq
      exact h
    · next hne =>
      refine List.nodup_cons.2 ⟨fun hmem => ?_, ih hrest⟩
      rcases mem_keys_put.1 hmem with heq | hmem
      · exact hne heq
      · exact hnew hmem

theorem nodup_keys_erase {table : Table κ α} (h : table.keys.Nodup) (key : κ) :
    (table.erase key).keys.Nodup :=
  h.sublist (List.filter_sublist.map _)

theorem mem_values_of_get? {table : Table κ α} {key : κ} {value : α}
    (h : table.get? key = some value) : value ∈ table.values := by
  obtain ⟨entries⟩ := table
  change find? key entries = some value at h
  change value ∈ entries.map (·.2)
  induction entries with
  | nil => cases h
  | cons entry rest ih =>
    rw [find?] at h
    split at h
    · cases h
      exact List.mem_cons_self
    · exact List.mem_cons_of_mem _ (ih h)

theorem get?_of_mem {table : Table κ α} (h : table.keys.Nodup) {entry : κ × α}
    (hentry : entry ∈ table.entries) : table.get? entry.1 = some entry.2 := by
  obtain ⟨entries⟩ := table
  change find? entry.1 entries = some entry.2
  induction entries with
  | nil => cases hentry
  | cons first rest ih =>
    obtain ⟨hnew, hrest⟩ := List.nodup_cons.1 h
    rw [find?]
    rcases List.mem_cons.1 hentry with rfl | hentry
    · exact if_pos rfl
    · have hne : first.1 ≠ entry.1 := fun heq => hnew (List.mem_map.2 ⟨entry, hentry, heq.symm⟩)
      rw [if_neg hne]
      exact ih hrest hentry

/-! ### Keys without a value -/

theorem get?_eq_none_iff {table : Table κ α} {key : κ} : table.get? key = none ↔ key ∉ table.keys := by
  obtain ⟨entries⟩ := table
  change find? key entries = none ↔ key ∉ entries.map (·.1)
  induction entries with
  | nil => simp [find?]
  | cons entry rest ih =>
    rw [find?]
    split
    · next heq => simp [heq]
    · next hne => simp [ih, Ne.symm hne]

section Absent

variable {table : Table κ α} {key other : κ}

theorem get?_update_of_none (key : κ) (f : α → α) (h : table.get? other = none) :
    (table.update key f).get? other = none := by
  rw [get?_update, h]
  exact ite_self none

theorem get?_insert_of_none {value : α} (h : table.get? other = none) (hne : other ≠ key) :
    (table.insert key value).get? other = none := by
  rw [get?_insert, if_neg hne, h]

theorem get?_erase_of_none (key : κ) (h : table.get? other = none) :
    (table.erase key).get? other = none := by
  rw [get?_erase, h]
  exact ite_self none

/-- A new key that is taken out again leaves nothing behind. -/
theorem erase_insert (h : table.get? key = none) (value : α) :
    (table.insert key value).erase key = table := by
  obtain ⟨entries⟩ := table
  change find? key entries = none at h
  change Table.mk ((put key value entries).filter (·.1 ≠ key)) = Table.mk entries
  refine congrArg Table.mk ?_
  induction entries with
  | nil => simp [put]
  | cons entry rest ih =>
    rw [find?] at h
    split at h
    · cases h
    · next hne =>
      rw [put, if_neg hne, List.filter_cons_of_pos (by simpa using hne), ih h]

end Absent

/-- A change that is taken back leaves nothing behind. -/
theorem update_update {table : Table κ α} {f g : α → α} (key : κ) (h : ∀ value, g (f value) = value) :
    (table.update key f).update key g = table := by
  obtain ⟨entries⟩ := table
  change Table.mk ((entries.map _).map _) = Table.mk entries
  refine congrArg Table.mk ?_
  rw [List.map_map]
  refine List.map_id'' (fun entry => ?_) entries
  obtain ⟨k, v⟩ := entry
  by_cases hk : k = key
  · simp [hk, h]
  · simp [hk]

/-- What the value under a key holds; nothing if there is none. -/
def under (table : Table κ α) (key : κ) (f : α → List β) : List β :=
  ((table.get? key).map f).getD []

/-- What a new value holds takes the place of what the old one held. -/
theorem count_insert (table : Table κ α) (key : κ) (value : α) (f : α → List β) (b : β) :
    ((table.insert key value).values.flatMap f).count b + (table.under key f).count b =
      (table.values.flatMap f).count b + (f value).count b := by
  obtain ⟨entries⟩ := table
  change (((put key value entries).map (·.2)).flatMap f).count b +
    (((find? key entries).map f).getD []).count b =
      ((entries.map (·.2)).flatMap f).count b + (f value).count b
  induction entries with
  | nil => simp [put, find?]
  | cons entry rest ih =>
    rw [put, find?]
    split
    · simp only [List.map_cons, List.flatMap_cons, List.count_append, Option.map_some,
        Option.getD_some]
      omega
    · simp only [List.map_cons, List.flatMap_cons, List.count_append]
      omega

/-- Nothing more goes than what the value under the key held. -/
theorem count_erase {table : Table κ α} (h : table.keys.Nodup) (key : κ) (f : α → List β) (b : β) :
    ((table.erase key).values.flatMap f).count b + (table.under key f).count b =
      (table.values.flatMap f).count b := by
  obtain ⟨entries⟩ := table
  change (((entries.filter (·.1 ≠ key)).map (·.2)).flatMap f).count b +
    (((find? key entries).map f).getD []).count b = ((entries.map (·.2)).flatMap f).count b
  induction entries with
  | nil => rfl
  | cons entry rest ih =>
    obtain ⟨hnew, hrest⟩ := List.nodup_cons.1 h
    rw [find?]
    split
    · next heq =>
      subst heq
      -- The key does not come again.
      have hkeep : rest.filter (·.1 ≠ entry.1) = rest := by
        refine List.filter_eq_self.2 fun other hother => ?_
        have hne : other.1 ≠ entry.1 := by
          intro heq
          exact hnew (List.mem_map.2 ⟨other, hother, heq⟩)
        simpa using hne
      rw [List.filter_cons_of_neg (by simp), hkeep]
      simp only [List.map_cons, List.flatMap_cons, List.count_append, Option.map_some,
        Option.getD_some]
      omega
    · next hne =>
      rw [List.filter_cons_of_pos (by simpa using hne)]
      simp only [List.map_cons, List.flatMap_cons, List.count_append]
      have := ih hrest
      omega

end Hotplug.Table
