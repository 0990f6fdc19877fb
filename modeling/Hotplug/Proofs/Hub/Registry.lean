import Mathlib.Data.List.Nodup
import Mathlib.Data.List.Perm.Basic
import Hotplug.Hub.Registry
import Hotplug.Proofs.Hub.Records
/-!
# Registries that notices leave in order

Notices keep a registry in order: one record for each identity, each record under the identity of its
own device, and no record twice. The references of the registry and of the changes are accounted for.

## Main definitions

* `Hotplug.Roster.Sound`: a registry in order.
* `Hotplug.Roster.Succeeds`: what notices make of a roster, whatever they are.

## Main statements

* `Hotplug.Watch.succeeds_apply`, `Hotplug.Watch.succeeds_applyAll`: one notice, and any number.
-/

namespace Hotplug

namespace Registry

theorem find?_put (identity other : Identity) (record : RecordId)
    (entries : List (Identity × RecordId)) :
    ((put identity record entries).find? (·.1 = other)).map (·.2) =
      if other = identity then some record else (entries.find? (·.1 = other)).map (·.2) := by
  have hfirst (rest : List (Identity × RecordId)) :
      (((identity, record) :: rest).find? (·.1 = other)).map (·.2) =
        if other = identity then some record else (rest.find? (·.1 = other)).map (·.2) := by
    by_cases h : other = identity
    · simp [h]
    · rw [if_neg h, List.find?_cons_of_neg (by simpa using Ne.symm h)]
  induction entries with
  | nil => exact hfirst []
  | cons entry rest ih =>
    rw [put]
    split
    · exact hfirst _
    · split
      · next heq =>
        rw [hfirst]
        split
        · rfl
        · next hne =>
          rw [List.find?_cons_of_neg]
          simpa using fun h => hne (h.symm.trans heq.symm)
      · next hne =>
        by_cases h : entry.1 = other
        · have hother : ¬other = identity := fun heq => hne (heq.symm.trans h.symm)
          rw [if_neg hother, List.find?_cons_of_pos (by simpa using h),
            List.find?_cons_of_pos (by simpa using h)]
        · rw [List.find?_cons_of_neg (by simpa using h), ih,
            List.find?_cons_of_neg (by simpa using h)]

theorem find?_insert (registry : Registry) (identity other : Identity) (record : RecordId) :
    (registry.insert identity record).find? other =
      if other = identity then some record else registry.find? other :=
  find?_put ..

/-- Looking up among the entries whose identities are kept. -/
theorem find?_filter (keep : Identity → Bool) (identity : Identity)
    (entries : List (Identity × RecordId)) :
    ((entries.filter fun entry => keep entry.1).find? (·.1 = identity)).map (·.2) =
      if keep identity then (entries.find? (·.1 = identity)).map (·.2) else none := by
  induction entries with
  | nil => simp
  | cons entry rest ih =>
    by_cases h : entry.1 = identity
    · subst h
      by_cases hkeep : keep entry.1 = true
      · simp [hkeep]
      · rw [List.filter_cons_of_neg (by simpa using hkeep), ih, if_neg hkeep, if_neg hkeep]
    · rw [List.find?_cons_of_neg (by simpa using h), ← ih]
      by_cases hkeep : keep entry.1 = true
      · rw [List.filter_cons_of_pos (by simpa using hkeep),
          List.find?_cons_of_neg (by simpa using h)]
      · rw [List.filter_cons_of_neg (by simpa using hkeep)]

theorem find?_without (registry : Registry) (key : String) (identity : Identity) :
    (registry.without key).find? identity =
      if identity.key = key then none else registry.find? identity := by
  refine (find?_filter (fun kept => kept.key ≠ key) identity registry.entries).trans ?_
  by_cases h : identity.key = key
  · simp [h]
  · simp [h, find?]

/-- An identity that is not taken is put before, between or after the others. -/
theorem perm_put {identity : Identity} {record : RecordId} {entries : List (Identity × RecordId)}
    (h : identity ∉ entries.map (·.1)) :
    (put identity record entries).Perm ((identity, record) :: entries) := by
  induction entries with
  | nil => exact .refl _
  | cons entry rest ih =>
    have hne : identity ≠ entry.1 := fun heq => h (heq ▸ List.mem_cons_self)
    have hrest : identity ∉ rest.map (·.1) := fun hmem => h (List.mem_cons_of_mem _ hmem)
    rw [put]
    split
    · exact .refl _
    · exact ((ih hrest).cons entry).trans (.swap ..)

theorem not_mem_of_find?_isNone {registry : Registry} {identity : Identity}
    (h : (registry.find? identity).isNone = true) :
    identity ∉ registry.entries.map (·.1) := by
  intro hmem
  obtain ⟨entry, hentry, heq⟩ := List.mem_map.1 hmem
  rw [Option.isNone_iff_eq_none, find?, Option.map_eq_none_iff, List.find?_eq_none] at h
  exact h entry hentry (by simpa using heq)

theorem mem_of_find?_eq_some {registry : Registry} {identity : Identity} {record : RecordId}
    (h : registry.find? identity = some record) : (identity, record) ∈ registry.entries := by
  obtain ⟨⟨found, _⟩, hfound, rfl⟩ := Option.map_eq_some_iff.1 h
  have heq : found = identity := by simpa using List.find?_some hfound
  exact heq ▸ List.mem_of_find?_eq_some hfound

theorem find?_of_mem {registry : Registry} (hidentities : (registry.entries.map (·.1)).Nodup)
    {entry : Identity × RecordId} (h : entry ∈ registry.entries) :
    registry.find? entry.1 = some entry.2 := by
  cases hfound : registry.find? entry.1 with
  | none =>
    have hnot := not_mem_of_find?_isNone (Option.isNone_iff_eq_none.2 hfound)
    exact absurd (List.mem_map_of_mem h) hnot
  | some record =>
    have heq : (entry.1, record) = entry :=
      List.inj_on_of_nodup_map hidentities (mem_of_find?_eq_some hfound) h rfl
    exact congrArg (fun entry => some entry.2) heq

theorem perm_records_insert {registry : Registry} {identity : Identity}
    (h : (registry.find? identity).isNone = true) (record : RecordId) :
    (registry.insert identity record).records.Perm (record :: registry.records) :=
  (perm_put (not_mem_of_find?_isNone h)).map Prod.snd

/-- Taking a device out parts the records in two. -/
theorem perm_records_without (registry : Registry) (key : String) :
    (registry.ofKey key ++ (registry.without key).records).Perm registry.records := by
  have h := List.filter_append_perm (fun entry : Identity × RecordId => entry.1.key = key)
    registry.entries
  rw [ofKey, records, without, records, ← List.map_append]
  simpa using h.map (·.2)

end Registry

/-- A registry is in order: each identity has one record, each record one identity, which is that of
its device, and the device passes the filter. -/
structure Roster.Sound {ω : Type} (roster : Roster ω) (filter : Filter) : Prop where
  /-- No identity is there twice. -/
  identities : (roster.registry.entries.map (·.1)).Nodup
  /-- No record is there twice. -/
  records : roster.registry.records.Nodup
  /-- Each record is there, under the identity of its device. -/
  known : ∀ entry ∈ roster.registry.entries, ∃ info,
    roster.records.info? entry.2 = some info ∧ info.identity = entry.1 ∧
      filter.passes info = true

theorem Roster.Sound.info?_of_mem {ω : Type} {roster : Roster ω} {filter : Filter}
    (h : roster.Sound filter) {record : RecordId} (hrecord : record ∈ roster.registry.records) :
    ∃ info, roster.records.info? record = some info := by
  obtain ⟨entry, hentry, rfl⟩ := List.mem_map.1 hrecord
  obtain ⟨info, hinfo, -⟩ := h.known entry hentry
  exact ⟨info, hinfo⟩

theorem Roster.Sound.isSome_of_mem {ω : Type} {roster : Roster ω} {filter : Filter}
    (h : roster.Sound filter) {record : RecordId} (hrecord : record ∈ roster.registry.records) :
    (roster.records.get? record).isSome = true := by
  obtain ⟨info, hinfo⟩ := h.info?_of_mem hrecord
  obtain ⟨known, hknown, -⟩ := Option.map_eq_some_iff.1 hinfo
  exact Option.isSome_iff_exists.2 ⟨known, hknown⟩

theorem Roster.Sound.lt_next {ω : Type} {roster : Roster ω} {filter : Filter}
    (h : roster.Sound filter) (hfresh : roster.records.Fresh) {record : RecordId}
    (hrecord : record ∈ roster.registry.records) : record < roster.records.next := by
  obtain ⟨info, hinfo⟩ := h.info?_of_mem hrecord
  exact hfresh.lt_next hinfo

/-- The record that a change brings in, if it brings one in. -/
def Change.added? : Change → Option RecordId
  | added record => some record
  | removed _ => none

/-- The record that a change takes out, if it takes one out. -/
def Change.removed? : Change → Option RecordId
  | added _ => none
  | removed record => some record

/-- A later roster with the changes that led to it. -/
structure Roster.Succeeds {ω : Type} (filter : Filter) (roster later : Roster ω)
    (changes : List Change) : Prop where
  sound : later.Sound filter
  fresh : later.records.Fresh
  keeps : later.records.Extends roster.records
  continues : later.records.Continues roster.records
  /-- What comes in has a name that was not given before. -/
  added : ∀ record ∈ changes.filterMap Change.added?,
    roster.records.next ≤ record ∧ record < later.records.next
  /-- Nothing comes in twice. -/
  once : (changes.filterMap Change.added?).Nodup
  /-- The changes hold what they name. -/
  counts : ∀ others, roster.records.Counts (roster.registry.records ++ others) →
    later.records.Counts (changes.map Change.record ++ (later.registry.records ++ others))

/-- Names that are given from one moment to a second, and from there to a third. -/
theorem Records.named_append {first second : List RecordId} {start middle finish : RecordId}
    (hstart : start ≤ middle) (hfinish : middle ≤ finish)
    (hfirst : ∀ record ∈ first, start ≤ record ∧ record < middle)
    (hsecond : ∀ record ∈ second, middle ≤ record ∧ record < finish) :
    ∀ record ∈ first ++ second, start ≤ record ∧ record < finish := by
  intro record hrecord
  rcases List.mem_append.1 hrecord with hrecord | hrecord
  · obtain ⟨hle, hlt⟩ := hfirst record hrecord
    exact ⟨hle, Nat.lt_of_lt_of_le hlt hfinish⟩
  · obtain ⟨hle, hlt⟩ := hsecond record hrecord
    exact ⟨Nat.le_trans hstart hle, hlt⟩

theorem Records.nodup_append {first second : List RecordId} {middle : RecordId}
    (hfirst : ∀ record ∈ first, record < middle) (hsecond : ∀ record ∈ second, middle ≤ record)
    (honce : first.Nodup) (honce' : second.Nodup) : (first ++ second).Nodup :=
  List.nodup_append.2 ⟨honce, honce', fun a ha b hb =>
    Nat.ne_of_lt (Nat.lt_of_lt_of_le (hfirst a ha) (hsecond b hb))⟩

namespace Roster

variable {ω : Type} {filter : Filter} {roster later latest : Roster ω}
variable {changes more : List Change}

theorem Succeeds.refl (hsound : roster.Sound filter) (hfresh : roster.records.Fresh) :
    roster.Succeeds filter roster [] where
  sound := hsound
  fresh := hfresh
  keeps := .refl _
  continues := .refl _
  added := nofun
  once := .nil
  counts := fun _ h => h

theorem Succeeds.trans (h : roster.Succeeds filter later changes)
    (h' : later.Succeeds filter latest more) :
    roster.Succeeds filter latest (changes ++ more) where
  sound := h'.sound
  fresh := h'.fresh
  keeps := h'.keeps.trans h.keeps
  continues := h'.continues.trans h.continues
  added := by
    rw [List.filterMap_append]
    exact Records.named_append h.continues.next_le h'.continues.next_le h.added h'.added
  once := by
    rw [List.filterMap_append]
    exact Records.nodup_append (fun a ha => (h.added a ha).2) (fun b hb => (h'.added b hb).1) h.once
      h'.once
  counts := by
    intro others hcounts
    have hlater : later.records.Counts
        (later.registry.records ++ (changes.map Change.record ++ others)) := by
      refine (h.counts others hcounts).of_count_eq fun id => ?_
      simp only [List.count_append]
      omega
    refine (h'.counts _ hlater).of_count_eq fun id => ?_
    simp only [List.map_append, List.count_append]
    omega

end Roster

namespace Watch

variable {ω : Type} {watch : Watch ω} {roster : Roster ω}

/-- A device that passes and whose identity is not taken comes in under a new name. -/
theorem appear_of_absent {info : Info} (hpasses : watch.filter.passes info = true)
    (habsent : (roster.registry.find? info.identity).isNone = true) :
    watch.appear roster info =
      (⟨roster.registry.insert info.identity roster.records.next,
        (roster.records.create info watch.origin (some watch.monitor)).2.retain
          roster.records.next⟩, [.added roster.records.next]) := by
  rw [appear, if_pos ⟨hpasses, habsent⟩]
  rfl

/-- Any other appearance changes nothing. -/
theorem appear_of_not {info : Info} (h : ¬(watch.filter.passes info = true ∧
    (roster.registry.find? info.identity).isNone = true)) : watch.appear roster info = (roster, []) :=
  if_neg h

theorem succeeds_appear (hsound : roster.Sound watch.filter) (hfresh : roster.records.Fresh)
    (info : Info) :
    roster.Succeeds watch.filter (watch.appear roster info).1 (watch.appear roster info).2 := by
  by_cases h : watch.filter.passes info = true ∧
    (roster.registry.find? info.identity).isNone = true
  · obtain ⟨hpasses, habsent⟩ := h
    rw [appear_of_absent hpasses habsent]
    have hnot := Registry.not_mem_of_find?_isNone habsent
    have hperm : (roster.registry.insert info.identity roster.records.next).entries.Perm
        ((info.identity, roster.records.next) :: roster.registry.entries) := Registry.perm_put hnot
    have hrecords : (roster.registry.insert info.identity roster.records.next).records.Perm
        (roster.records.next :: roster.registry.records) := hperm.map Prod.snd
    have hnew : roster.records.next ∉ roster.registry.records := fun hmem =>
      Nat.lt_irrefl _ (hsound.lt_next hfresh hmem)
    have hkeeps := Records.extends_create hfresh info watch.origin (some watch.monitor)
    have hcreated := hfresh.create info watch.origin (some watch.monitor)
    refine ⟨⟨?_, ?_, ?_⟩, hcreated.retain _, ?_, ?_, ?_, ?_, ?_⟩
    · exact (hperm.map (·.1)).nodup_iff.2 (List.nodup_cons.2 ⟨hnot, hsound.identities⟩)
    · exact hrecords.nodup_iff.2 (List.nodup_cons.2 ⟨hnew, hsound.records⟩)
    · intro entry hentry
      rcases List.mem_cons.1 (hperm.mem_iff.1 hentry) with rfl | hold
      · refine ⟨info, ?_, rfl, hpasses⟩
        rw [Records.info?_retain, Records.info?_create, if_pos rfl]
      · obtain ⟨known, hknown, hrest⟩ := hsound.known entry hold
        refine ⟨known, ?_, hrest⟩
        rw [Records.info?_retain, hkeeps _ _ hknown]
    · intro id known hknown
      rw [Records.info?_retain, hkeeps _ _ hknown]
    · exact (Records.continues_retain ..).trans (Records.continues_create ..)
    · intro record hrecord
      rw [List.mem_singleton.1 hrecord]
      exact ⟨Nat.le_refl _, Nat.lt_succ_self _⟩
    · exact List.nodup_singleton _
    · intro others hcounts
      have hcreated := hcounts.create hfresh info watch.origin (some watch.monitor)
      refine (hcreated.retain (hcreated.isSome_of_mem List.mem_cons_self)).of_count_eq fun id => ?_
      have hcount := hrecords.count_eq id
      rw [List.count_cons] at hcount
      simp only [List.map_cons, List.map_nil, Change.record, List.count_append, List.count_cons,
        List.count_nil]
      omega
  · rw [appear_of_not h]
    exact .refl hsound hfresh

theorem succeeds_vanish {filter : Filter} (hsound : roster.Sound filter)
    (hfresh : roster.records.Fresh) (key : String) :
    roster.Succeeds filter (vanish roster key).1 (vanish roster key).2 := by
  have hsublist : (roster.registry.without key).entries.Sublist roster.registry.entries :=
    List.filter_sublist
  have hnone : (vanish roster key).2.filterMap Change.added? = [] := by
    change ((roster.registry.ofKey key).map Change.removed).filterMap Change.added? = []
    simp [List.filterMap_map, Change.added?, Function.comp_def]
  refine ⟨⟨hsound.identities.sublist (hsublist.map _), hsound.records.sublist (hsublist.map _), ?_⟩,
    hfresh.foldl_disconnect _, ?_, ?_, ?_, ?_, ?_⟩
  · intro entry hentry
    obtain ⟨info, hinfo, hrest⟩ := hsound.known entry (hsublist.subset hentry)
    exact ⟨info, (Records.info?_foldl_disconnect ..).trans hinfo, hrest⟩
  · exact fun id info hinfo => (Records.info?_foldl_disconnect ..).trans hinfo
  · exact Records.continues_foldl_disconnect ..
  · intro record hrecord
    rw [hnone] at hrecord
    cases hrecord
  · rw [hnone]
    exact .nil
  · intro others hcounts
    refine (hcounts.foldl_disconnect (roster.registry.ofKey key)).of_count_eq fun id => ?_
    have hcount := (Registry.perm_records_without roster.registry key).count_eq id
    have hheld : ((roster.registry.ofKey key).map Change.removed).map Change.record =
        roster.registry.ofKey key := by
      simp [Change.record, Function.comp_def]
    change List.count id (((roster.registry.ofKey key).map Change.removed).map Change.record ++
      ((roster.registry.without key).records ++ others)) = _
    rw [hheld]
    simp only [List.count_append] at hcount ⊢
    omega

/-- Whatever a notice says, the registry stays in order. -/
theorem succeeds_apply (hsound : roster.Sound watch.filter) (hfresh : roster.records.Fresh)
    (notice : Notice) :
    roster.Succeeds watch.filter (watch.apply roster notice).1 (watch.apply roster notice).2 := by
  cases notice with
  | added info => exact succeeds_appear hsound hfresh info
  | removed key => exact succeeds_vanish hsound hfresh key

theorem succeeds_applyAll (hsound : roster.Sound watch.filter) (hfresh : roster.records.Fresh)
    (notices : List Notice) :
    roster.Succeeds watch.filter (watch.applyAll roster notices).1
      (watch.applyAll roster notices).2 := by
  induction notices generalizing roster with
  | nil => exact .refl hsound hfresh
  | cons notice rest ih =>
    have h := succeeds_apply hsound hfresh notice
    exact h.trans (ih h.sound h.fresh)

end Watch

end Hotplug
