import Hotplug.Proofs.Hub.Registry
/-!
# Registries in ascending order

Identities are ordered strictly, by key and then by interface. Putting an entry in and taking a device
out keep a registry in that order.

## Main definitions

* `Hotplug.Registry.Ascending`

## Main statements

* `Hotplug.Identity.before_trans`, `Hotplug.Identity.before_of_not`: the order is strict and total.
* `Hotplug.Registry.Ascending.insert`, `Hotplug.Registry.Ascending.without`
-/

namespace Hotplug

namespace Identity

variable {a b c : Identity}

theorem before_iff : a.before b = true ↔
    a.key < b.key ∨ a.key = b.key ∧ a.interface < b.interface := by
  simp [before]

theorem before_trans (h : a.before b = true) (h' : b.before c = true) : a.before c = true := by
  rw [before_iff] at h h' ⊢
  rcases h with h | ⟨hkey, h⟩
  · rcases h' with h' | ⟨hkey', -⟩
    · exact .inl (String.lt_trans h h')
    · exact .inl (hkey' ▸ h)
  · rcases h' with h' | ⟨hkey', h'⟩
    · exact .inl (hkey ▸ h')
    · exact .inr ⟨hkey.trans hkey', UInt8.lt_trans h h'⟩

/-- Of two identities one is before the other. -/
theorem before_of_not (h : ¬a.before b = true) (hne : a ≠ b) : b.before a = true := by
  rw [before_iff, not_or, not_and] at h
  obtain ⟨hkey, hinterface⟩ := h
  rw [before_iff]
  by_cases hlt : b.key < a.key
  · exact .inl hlt
  · have heq : b.key = a.key := String.le_antisymm (String.not_lt.1 hkey) (String.not_lt.1 hlt)
    have hle : b.interface ≤ a.interface := UInt8.not_lt.1 (hinterface heq.symm)
    refine .inr ⟨heq, UInt8.lt_of_le_of_ne hle fun hsame => hne ?_⟩
    cases a
    cases b
    exact congr (congrArg Identity.mk heq.symm) hsame.symm

end Identity

namespace Registry

/-- The entries are in the order of their identities, and no two have the same. -/
def Ascending (registry : Registry) : Prop :=
  registry.entries.Pairwise fun first second => first.1.before second.1 = true

theorem eq_or_mem_of_mem_put {identity : Identity} {record : RecordId}
    {entries : List (Identity × RecordId)} {entry : Identity × RecordId}
    (h : entry ∈ put identity record entries) : entry = (identity, record) ∨ entry ∈ entries := by
  induction entries with
  | nil => exact .inl (List.mem_singleton.1 h)
  | cons first rest ih =>
    rw [put] at h
    split at h
    · exact List.mem_cons.1 h
    · split at h
      · exact (List.mem_cons.1 h).imp_right (List.mem_cons_of_mem _)
      · rcases List.mem_cons.1 h with rfl | h
        · exact .inr List.mem_cons_self
        · exact (ih h).imp_right (List.mem_cons_of_mem _)

theorem Ascending.insert {registry : Registry} (h : registry.Ascending) (identity : Identity)
    (record : RecordId) : (registry.insert identity record).Ascending := by
  obtain ⟨entries⟩ := registry
  change (put identity record entries).Pairwise _
  induction entries with
  | nil => exact List.pairwise_singleton _ _
  | cons first rest ih =>
    obtain ⟨hfirst, hrest⟩ := List.pairwise_cons.1 h
    rw [put]
    split
    · next hbefore =>
      refine List.pairwise_cons.2 ⟨fun entry hentry => ?_, h⟩
      rcases List.mem_cons.1 hentry with rfl | hentry
      · exact hbefore
      · exact Identity.before_trans hbefore (hfirst entry hentry)
    · next hnot =>
      split
      · next heq =>
        subst heq
        exact List.pairwise_cons.2 ⟨hfirst, hrest⟩
      · next hne =>
        refine List.pairwise_cons.2 ⟨fun entry hentry => ?_, ih hrest⟩
        rcases eq_or_mem_of_mem_put hentry with rfl | hentry
        · exact Identity.before_of_not hnot hne
        · exact hfirst entry hentry

theorem Ascending.without {registry : Registry} (h : registry.Ascending) (key : String) :
    (registry.without key).Ascending :=
  h.sublist List.filter_sublist

end Registry

end Hotplug
