import Mathlib.Data.List.Nodup
import Hotplug.Wait.DescriptorSet
/-!
# Entries of a set

A set of descriptors is a map from numbers to objects that keeps the order of additions. An addition
is taken if there is room, the number is new and the object can be waited for; a removal looks for the
number and not for a place, so that it takes one entry out because no number is used twice.

## Main definitions

* `Hotplug.DescriptorSet.Orderly`: numbers are used once, there is room, and every object can be waited
  for.
* `Hotplug.DescriptorSet.Takes`: the condition under which an addition is taken.

## Main statements

* `Hotplug.DescriptorSet.add_of_takes`, `Hotplug.DescriptorSet.add_of_not_takes`
* `Hotplug.DescriptorSet.Orderly.get?_eq_some_iff`: a look-up agrees with the list of entries.
* `Hotplug.DescriptorSet.Orderly.exists_remove`: a removal takes out one entry and no other, and says so.
-/

namespace Hotplug.DescriptorSet

/-- No number is used twice, there is room for every entry, and every object can be waited for. -/
structure Orderly (set : DescriptorSet) : Prop where
  ids : set.ids.Nodup
  size_le : set.size ≤ set.capacity
  valid : ∀ target ∈ set.targets, target.isValid = true

/-- The set has room, the number is not in use, and the object can be waited for. -/
def Takes (set : DescriptorSet) (id : UInt32) (target : Waitable) : Prop :=
  set.size < set.capacity ∧ id ∉ set.ids ∧ target.isValid = true

/-- The set with one more entry, which comes last. -/
def extended (set : DescriptorSet) (id : UInt32) (target : Waitable) : DescriptorSet :=
  { set with entries := set.entries ++ [⟨id, target⟩] }

variable {set : DescriptorSet} {id : UInt32} {target : Waitable}

theorem contains_iff : set.contains id = true ↔ id ∈ set.ids := by
  simp [contains, ids]

theorem mem_ids : id ∈ set.ids ↔ ∃ target, ⟨id, target⟩ ∈ set.entries := by
  refine List.mem_map.trans ⟨?_, fun ⟨target, hentry⟩ => ⟨_, hentry, rfl⟩⟩
  rintro ⟨⟨_, target⟩, hentry, rfl⟩
  exact ⟨target, hentry⟩

theorem Refusal.code_failure (refusal : Refusal) : refusal.failure.code = .invalid := rfl

/-! ### Adding -/

theorem add_of_takes (h : set.Takes id target) : set.add id target = .ok (set.extended id target) := by
  obtain ⟨hroom, hnew, hvalid⟩ := h
  rw [add, if_neg (Nat.not_le_of_lt hroom), if_neg (mt contains_iff.1 hnew), if_neg (by simp [hvalid])]
  rfl

theorem add_of_not_takes (h : ¬set.Takes id target) :
    ∃ refusal, set.add id target = .error refusal := by
  unfold add
  split
  · exact ⟨_, rfl⟩
  next hroom =>
  split
  · exact ⟨_, rfl⟩
  next hnew =>
  split
  · exact ⟨_, rfl⟩
  next hvalid =>
  exact absurd ⟨Nat.lt_of_not_le hroom, mt contains_iff.2 hnew, by simpa using hvalid⟩ h

theorem Orderly.extended (h : set.Orderly) (htakes : set.Takes id target) :
    (set.extended id target).Orderly := by
  obtain ⟨hroom, hnew, hvalid⟩ := htakes
  refine ⟨?_, ?_, ?_⟩
  · change ((set.entries ++ [(⟨id, target⟩ : Entry)]).map Entry.id).Nodup
    rw [List.map_append]
    refine List.nodup_append.2 ⟨h.ids, List.nodup_singleton _, fun other hother new hmem heq => ?_⟩
    rw [heq, List.mem_singleton.1 hmem] at hother
    exact hnew hother
  · change (set.entries ++ [(⟨id, target⟩ : Entry)]).length ≤ set.capacity
    rw [List.length_append]
    exact hroom
  · change ∀ other ∈ (set.entries ++ [(⟨id, target⟩ : Entry)]).map Entry.target, other.isValid = true
    rw [List.map_append]
    exact List.forall_mem_append.2 ⟨h.valid, by simpa using hvalid⟩

/-! ### Taking out -/

/-- A set whose entries are among those of an orderly one. -/
theorem Orderly.sublist (h : set.Orderly) {entries : List Entry} (hsub : entries.Sublist set.entries) :
    { set with entries }.Orderly where
  ids := h.ids.sublist (hsub.map _)
  size_le := Nat.le_trans hsub.length_le h.size_le
  valid target htarget := h.valid target ((hsub.map _).subset htarget)

theorem Orderly.clear (h : set.Orderly) : set.clear.Orderly :=
  h.sublist (List.nil_sublist _)

theorem orderly_empty (capacity : Nat) (slice : Int) :
    ({ capacity, slice } : DescriptorSet).Orderly :=
  ⟨.nil, Nat.zero_le _, nofun⟩

/-- Where an entry stands, no entry before or after it has its number. -/
theorem Orderly.ne_of_split (h : set.Orderly) {before after : List Entry}
    (hsplit : set.entries = before ++ ⟨id, target⟩ :: after) :
    ∀ entry ∈ before ++ after, entry.id ≠ id := by
  have hids : (set.entries.map Entry.id).Nodup := h.ids
  rw [hsplit, List.map_append, List.map_cons, List.nodup_middle, List.nodup_cons,
    ← List.map_append] at hids
  intro entry hentry heq
  exact hids.1 (List.mem_map.2 ⟨entry, hentry, heq⟩)

theorem remove_of_not_mem (h : id ∉ set.ids) : set.remove id = (false, set) := by
  have hall : set.entries.filter (·.id != id) = set.entries := by
    refine List.filter_eq_self.2 fun entry hentry => bne_iff_ne.2 fun heq => ?_
    exact h (heq ▸ List.mem_map_of_mem hentry)
  simp [remove, hall]

/-- As numbers are used once, one entry is taken out, and those before and after it stay. -/
theorem Orderly.exists_remove (h : set.Orderly) (hmem : id ∈ set.ids) :
    ∃ before target after, set.entries = before ++ ⟨id, target⟩ :: after ∧
      set.remove id = (true, { set with entries := before ++ after }) := by
  obtain ⟨target, hentry⟩ := mem_ids.1 hmem
  obtain ⟨before, after, hsplit⟩ := List.append_of_mem hentry
  have hothers : (before ++ after).filter (·.id != id) = before ++ after :=
    List.filter_eq_self.2 fun entry hother => bne_iff_ne.2 (h.ne_of_split hsplit entry hother)
  have hleft : set.entries.filter (·.id != id) = before ++ after := by
    rw [hsplit, List.filter_append, List.filter_cons_of_neg (by simp), ← List.filter_append, hothers]
  refine ⟨before, target, after, hsplit, ?_⟩
  -- One entry less is another number of entries.
  have hfewer : ((before ++ after).length != set.entries.length) = true := by
    rw [hsplit, bne_iff_ne, List.length_append, List.length_append, List.length_cons]
    omega
  simp only [DescriptorSet.remove, hleft, hfewer]

/-! ### Looking up -/

theorem Orderly.get?_eq_some_iff (h : set.Orderly) :
    set.get? id = some target ↔ ⟨id, target⟩ ∈ set.entries := by
  constructor
  · intro hget
    obtain ⟨⟨_, _⟩, hfind, rfl⟩ := Option.map_eq_some_iff.1 hget
    have hid := List.find?_some hfind
    cases beq_iff_eq.1 hid
    exact List.mem_of_find?_eq_some hfind
  · intro hentry
    obtain ⟨before, after, hsplit⟩ := List.append_of_mem hentry
    have hbefore : before.find? (·.id == id) = none := by
      refine List.find?_eq_none.2 fun entry hother heq => ?_
      exact h.ne_of_split hsplit entry (List.mem_append_left _ hother) (beq_iff_eq.1 heq)
    rw [get?, hsplit, List.find?_append, hbefore]
    simp

end Hotplug.DescriptorSet
