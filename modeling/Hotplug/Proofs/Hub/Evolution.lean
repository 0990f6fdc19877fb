import Hotplug.Proofs.Hub.Ascending
import Hotplug.Proofs.Hub.Replay
/-!
# How records change

Between two moments a record changes its references, and it is disconnected if a removal took it out;
everything else about it stays. Whoever is new comes in online. Only a monitor takes a record out, and
only one that it made itself.

## Main definitions

* `Hotplug.Records.Evolves`: how the records of one moment go with those of a later one.
* `Hotplug.Roster.Tended`: a roster as its monitor keeps it.

## Main statements

* `Hotplug.Records.Evolves.trans`: one time after the other.
* `Hotplug.Watch.evolves_applyAll`: what notices do to all records and to those of their monitor.
-/

namespace Hotplug

namespace Records

variable {ω : Type}

/-- The later records come from the earlier ones. Some were taken out in between, by monitors among
some agents. -/
structure Evolves (records later : Records ω) (gone : List RecordId) (agents : MonitorId → Prop) :
    Prop where
  next_le : records.next ≤ later.next
  /-- What was taken out had come in. -/
  known : ∀ id ∈ gone, id < later.next
  /-- What was there before changed its references, and its status if it was taken out. -/
  old : ∀ id < records.next, ∀ after, later.get? id = some after →
    ∃ before, records.get? id = some before ∧ after = { before with
      refs := after.refs
      status := if id ∈ gone then .disconnected else before.status }
  /-- What is new came in online. -/
  new : ∀ id, records.next ≤ id → ∀ after, later.get? id = some after →
    after.status = (if id ∈ gone then .disconnected else .online) ∧
      ∀ monitor, after.monitor = some monitor → agents monitor
  /-- What was taken out had been made by an agent. -/
  taken : ∀ id ∈ gone, ∀ after, later.get? id = some after →
    ∃ monitor, after.monitor = some monitor ∧ agents monitor

namespace Evolves

variable {records middle later : Records ω} {gone more : List RecordId}
variable {agents others : MonitorId → Prop}

theorem mono (h : records.Evolves later gone agents)
    (hagents : ∀ monitor, agents monitor → others monitor) : records.Evolves later gone others where
  next_le := h.next_le
  known := h.known
  old := h.old
  new := fun id hid after hafter =>
    ⟨(h.new id hid after hafter).1, fun monitor hmonitor =>
      hagents monitor ((h.new id hid after hafter).2 monitor hmonitor)⟩
  taken := fun id hid after hafter => by
    obtain ⟨monitor, hmonitor, hagent⟩ := h.taken id hid after hafter
    exact ⟨monitor, hmonitor, hagents monitor hagent⟩

theorem trans (h : records.Evolves middle gone agents) (h' : middle.Evolves later more agents) :
    records.Evolves later (gone ++ more) agents where
  next_le := Nat.le_trans h.next_le h'.next_le
  known := by
    intro id hid
    rcases List.mem_append.1 hid with hid | hid
    · exact Nat.lt_of_lt_of_le (h.known id hid) h'.next_le
    · exact h'.known id hid
  old := by
    intro id hid after hafter
    obtain ⟨between, hbetween, hlast⟩ := h'.old id (Nat.lt_of_lt_of_le hid h.next_le) after hafter
    obtain ⟨before, hbefore, hfirst⟩ := h.old id hid between hbetween
    refine ⟨before, hbefore, ?_⟩
    rw [hlast, hfirst]
    by_cases hmore : id ∈ more
    · simp [hmore]
    · simp [hmore]
  new := by
    intro id hid after hafter
    by_cases hmiddle : id < middle.next
    · obtain ⟨between, hbetween, hlast⟩ := h'.old id hmiddle after hafter
      obtain ⟨hstatus, hmonitor⟩ := h.new id hid between hbetween
      rw [hlast]
      refine ⟨?_, hmonitor⟩
      by_cases hmore : id ∈ more
      · simp [hmore]
      · simp [hmore, hstatus]
    · -- The name was not given yet when the first records were taken out.
      have hnot : id ∉ gone := fun hgone => hmiddle (h.known id hgone)
      obtain ⟨hstatus, hmonitor⟩ := h'.new id (Nat.le_of_not_lt hmiddle) after hafter
      exact ⟨by simpa [hnot] using hstatus, hmonitor⟩
  taken := by
    intro id hid after hafter
    rcases List.mem_append.1 hid with hid | hid
    · obtain ⟨between, hbetween, hlast⟩ := h'.old id (h.known id hid) after hafter
      rw [hlast]
      exact h.taken id hid between hbetween
    · exact h'.taken id hid after hafter

/-- Only references changed, and no record came in. -/
theorem of_refs (hfresh : records.Fresh) (hnext : later.next = records.next)
    (hrefs : ∀ id after, later.get? id = some after →
      ∃ before, records.get? id = some before ∧ after = { before with refs := after.refs }) :
    records.Evolves later [] agents where
  next_le := Nat.le_of_eq hnext.symm
  known := nofun
  old := fun id _ after hafter => by simpa using hrefs id after hafter
  new := by
    intro id hid after hafter
    obtain ⟨before, hbefore, -⟩ := hrefs id after hafter
    rw [hfresh id hid] at hbefore
    cases hbefore
  taken := nofun

protected theorem refl (hfresh : records.Fresh) : records.Evolves records [] agents :=
  .of_refs hfresh rfl fun _ after hafter => ⟨after, hafter, rfl⟩

theorem retain (hfresh : records.Fresh) (held : RecordId) :
    records.Evolves (records.retain held) [] agents := by
  refine .of_refs hfresh rfl fun id after hafter => ?_
  rw [get?_retain] at hafter
  split at hafter
  · obtain ⟨before, hbefore, rfl⟩ := Option.map_eq_some_iff.1 hafter
    exact ⟨before, hbefore, rfl⟩
  · exact ⟨after, hafter, rfl⟩

theorem release (hfresh : records.Fresh) (held : RecordId) :
    records.Evolves (records.release held) [] agents := by
  refine .of_refs hfresh (next_release ..) fun id after hafter => ?_
  rw [get?_release] at hafter
  split at hafter
  · obtain ⟨before, hbefore, hsome⟩ := Option.bind_eq_some_iff.1 hafter
    split at hsome
    · cases hsome
    · cases hsome
      exact ⟨before, hbefore, rfl⟩
  · exact ⟨after, hafter, rfl⟩

theorem releaseAll (hfresh : records.Fresh) (ids : List RecordId) :
    records.Evolves (records.releaseAll ids) [] agents := by
  induction ids generalizing records with
  | nil => exact .refl hfresh
  | cons id rest ih => exact (release hfresh id).trans (ih (hfresh.release id))

theorem create (hfresh : records.Fresh) (info : Info) (origin : ω) (monitor : Option MonitorId)
    (hagents : ∀ id, monitor = some id → agents id) :
    records.Evolves (records.create info origin monitor).2 [] agents where
  next_le := Nat.le_succ _
  known := nofun
  old := by
    intro id hid after hafter
    rw [get?_create, if_neg (Nat.ne_of_lt hid)] at hafter
    exact ⟨after, hafter, by simp⟩
  new := by
    intro id hid after hafter
    rw [get?_create] at hafter
    split at hafter
    · cases hafter
      exact ⟨rfl, hagents⟩
    · rw [hfresh id hid] at hafter
      cases hafter
  taken := nofun

theorem createAll (hfresh : records.Fresh) (origin : ω) (infos : List Info) :
    records.Evolves (records.createAll origin none infos).2 [] agents := by
  induction infos generalizing records with
  | nil => exact .refl hfresh
  | cons info rest ih =>
    exact (create hfresh info origin none nofun).trans (ih (hfresh.create info origin none))

/-- Records that an agent made are taken out. -/
theorem disconnect (hfresh : records.Fresh)
    (hgone : ∀ id ∈ gone, id < records.next)
    (htaken : ∀ id ∈ gone, ∀ record, records.get? id = some record →
      ∃ monitor, record.monitor = some monitor ∧ agents monitor) :
    records.Evolves (gone.foldl Records.disconnect records) gone agents where
  next_le := Nat.le_of_eq (next_foldl_disconnect ..).symm
  known := fun id hid => by
    rw [next_foldl_disconnect]
    exact hgone id hid
  old := by
    intro id _ after hafter
    rw [get?_foldl_disconnect] at hafter
    split at hafter
    · next hid =>
      obtain ⟨before, hbefore, rfl⟩ := Option.map_eq_some_iff.1 hafter
      exact ⟨before, hbefore, by simp [hid]⟩
    · next hid => exact ⟨after, hafter, by simp [hid]⟩
  new := by
    intro id hid after hafter
    rw [get?_foldl_disconnect, hfresh id hid] at hafter
    simp at hafter
  taken := by
    intro id hid after hafter
    rw [get?_foldl_disconnect, if_pos hid] at hafter
    obtain ⟨before, hbefore, rfl⟩ := Option.map_eq_some_iff.1 hafter
    exact htaken id hid before hbefore

end Evolves

end Records

/-- A roster as its monitor keeps it: in the order of identities, with records that the monitor made
and that are online. -/
structure Roster.Tended {ω : Type} (roster : Roster ω) (owner : MonitorId) : Prop where
  ascending : roster.registry.Ascending
  listed : ∀ id ∈ roster.registry.records, ∃ record, roster.records.get? id = some record ∧
    record.status = .online ∧ record.monitor = some owner

namespace Roster.Tended

variable {ω : Type} {registry : Registry} {records later : Records ω} {owner : MonitorId}

theorem empty (records : Records ω) (owner : MonitorId) : Roster.Tended ⟨{}, records⟩ owner :=
  ⟨.nil, nofun⟩

/-- Nobody else takes the records of a monitor out. -/
theorem evolve {gone : List RecordId} {agents : MonitorId → Prop}
    (h : Roster.Tended ⟨registry, records⟩ owner) (hfresh : records.Fresh)
    (hevolves : records.Evolves later gone agents) (howner : ¬agents owner)
    (hthere : ∀ id ∈ registry.records, (later.get? id).isSome = true) :
    Roster.Tended ⟨registry, later⟩ owner := by
  refine ⟨h.ascending, fun id hid => ?_⟩
  obtain ⟨before, hbefore, hstatus, hmonitor⟩ := h.listed id hid
  obtain ⟨after, hafter⟩ := Option.isSome_iff_exists.1 (hthere id hid)
  obtain ⟨same, hsame, heq⟩ := hevolves.old id (hfresh.lt_next_of_get? hbefore) after hafter
  cases hbefore.symm.trans hsame
  have hkept : after.monitor = some owner := by
    rw [heq]
    exact hmonitor
  -- Whoever takes a record out made it, and the owner takes nothing out here.
  have hnot : id ∉ gone := by
    intro hgone
    obtain ⟨monitor, htaken, hagent⟩ := hevolves.taken id hgone after hafter
    cases hkept.symm.trans htaken
    exact howner hagent
  refine ⟨after, hafter, ?_, hkept⟩
  rw [heq]
  simpa [hnot] using hstatus

/-- References that are given back do not matter, as long as the records stay. -/
theorem released (h : Roster.Tended ⟨registry, records⟩ owner) (hfresh : records.Fresh)
    (ids : List RecordId)
    (hthere : ∀ id ∈ registry.records, ((records.releaseAll ids).get? id).isSome = true) :
    Roster.Tended ⟨registry, records.releaseAll ids⟩ owner := by
  have hevolves : records.Evolves (records.releaseAll ids) [] fun _ => False :=
    .releaseAll hfresh ids
  exact h.evolve hfresh hevolves not_false hthere

end Roster.Tended

namespace Watch

variable {ω : Type} {watch : Watch ω} {roster : Roster ω}

theorem evolves_appear (hsound : roster.Sound watch.filter) (hfresh : roster.records.Fresh)
    (htended : roster.Tended watch.monitor) (info : Info) :
    roster.records.Evolves (watch.appear roster info).1.records
        ((watch.appear roster info).2.filterMap Change.removed?) (· = watch.monitor) ∧
      (watch.appear roster info).1.Tended watch.monitor := by
  by_cases h : watch.filter.passes info = true ∧
    (roster.registry.find? info.identity).isNone = true
  · obtain ⟨hpasses, habsent⟩ := h
    rw [appear_of_absent hpasses habsent]
    have hcreated : roster.records.Evolves
        (roster.records.create info watch.origin (some watch.monitor)).2 [] (· = watch.monitor) :=
      .create hfresh info watch.origin _ fun _ heq => (Option.some.inj heq).symm
    refine ⟨hcreated.trans (.retain (hfresh.create _ _ _) _), htended.ascending.insert _ _,
      fun id hid => ?_⟩
    have hperm := Registry.perm_records_insert habsent roster.records.next
    change ∃ record, ((roster.records.create info watch.origin (some watch.monitor)).2.retain
      roster.records.next).get? id = some record ∧ _
    rw [Records.get?_retain, Records.get?_create]
    -- The new record is online and the monitor's own; the others are as they were.
    rcases List.mem_cons.1 (hperm.mem_iff.1 hid) with rfl | hold
    · rw [if_pos rfl, if_pos rfl]
      exact ⟨_, rfl, rfl, rfl⟩
    · have hne : id ≠ roster.records.next := Nat.ne_of_lt (hsound.lt_next hfresh hold)
      rw [if_neg hne, if_neg hne]
      exact htended.listed id hold
  · rw [appear_of_not h]
    exact ⟨.refl hfresh, htended⟩

theorem evolves_vanish {filter : Filter} {owner : MonitorId} (hsound : roster.Sound filter)
    (hfresh : roster.records.Fresh) (htended : roster.Tended owner) (key : String) :
    roster.records.Evolves (vanish roster key).1.records
        ((vanish roster key).2.filterMap Change.removed?) (· = owner) ∧
      (vanish roster key).1.Tended owner := by
  have hperm := Registry.perm_records_without roster.registry key
  have hgone : (vanish roster key).2.filterMap Change.removed? = roster.registry.ofKey key := by
    change ((roster.registry.ofKey key).map Change.removed).filterMap Change.removed? = _
    simp [List.filterMap_map, Change.removed?, Function.comp_def]
  have hlisted : ∀ id ∈ roster.registry.ofKey key, id ∈ roster.registry.records := fun id hid =>
    hperm.subset (List.mem_append_left _ hid)
  rw [hgone]
  refine ⟨.disconnect hfresh (fun id hid => hsound.lt_next hfresh (hlisted id hid)) ?_,
    htended.ascending.without key, fun id hid => ?_⟩
  · intro id hid record hrecord
    obtain ⟨same, hsame, -, hmonitor⟩ := htended.listed id (hlisted id hid)
    cases hrecord.symm.trans hsame
    exact ⟨owner, hmonitor, rfl⟩
  · -- No record is both taken out and left.
    have hnot : id ∉ roster.registry.ofKey key := fun hmem =>
      (List.nodup_append.1 (hperm.nodup_iff.2 hsound.records)).2.2 id hmem id hid rfl
    change ∃ record, ((roster.registry.ofKey key).foldl Records.disconnect
      roster.records).get? id = some record ∧ _
    rw [Records.get?_foldl_disconnect, if_neg hnot]
    exact htended.listed id (hperm.subset (List.mem_append_right _ hid))

/-- Whatever a notice says, its monitor takes nothing out but its own records. -/
theorem evolves_apply (hsound : roster.Sound watch.filter) (hfresh : roster.records.Fresh)
    (htended : roster.Tended watch.monitor) (notice : Notice) :
    roster.records.Evolves (watch.apply roster notice).1.records
        ((watch.apply roster notice).2.filterMap Change.removed?) (· = watch.monitor) ∧
      (watch.apply roster notice).1.Tended watch.monitor := by
  cases notice with
  | added info => exact evolves_appear hsound hfresh htended info
  | removed key => exact evolves_vanish hsound hfresh htended key

theorem evolves_applyAll (hsound : roster.Sound watch.filter) (hfresh : roster.records.Fresh)
    (htended : roster.Tended watch.monitor) (notices : List Notice) :
    roster.records.Evolves (watch.applyAll roster notices).1.records
        ((watch.applyAll roster notices).2.filterMap Change.removed?) (· = watch.monitor) ∧
      (watch.applyAll roster notices).1.Tended watch.monitor := by
  induction notices generalizing roster with
  | nil => exact ⟨.refl hfresh, htended⟩
  | cons notice rest ih =>
    -- The roster after one notice is sound, fresh and tended again.
    have hsucceeds := succeeds_apply hsound hfresh notice
    obtain ⟨hfirst, hkept⟩ := evolves_apply hsound hfresh htended notice
    obtain ⟨hrest, hlast⟩ := ih hsucceeds.sound hsucceeds.fresh hkept
    refine ⟨?_, hlast⟩
    change roster.records.Evolves _ (((watch.apply roster notice).2 ++ _).filterMap _) _
    rw [List.filterMap_append]
    exact hfirst.trans hrest

/-- Appearances take nothing out. -/
theorem removed?_applyAll_added (watch : Watch ω) (roster : Roster ω) (found : List Info) :
    (watch.applyAll roster (found.map .added)).2.filterMap Change.removed? = [] := by
  induction found generalizing roster with
  | nil => rfl
  | cons info rest ih =>
    change ((watch.appear roster info).2 ++ _).filterMap _ = _
    rw [List.filterMap_append, ih, List.append_nil, appear]
    split <;> rfl

end Watch

end Hotplug
