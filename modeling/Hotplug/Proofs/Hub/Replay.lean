import Hotplug.Backend.Memory
import Hotplug.Proofs.Hub.Scene
/-!
# What the changes of refreshes tell

Whoever follows a monitor by the changes that its refreshes return has its registry at any time. The
changes are played over the registry that he began with: what comes in has an identity that is not
taken, and what goes out is the very record under its identity.

## Main definitions

* `Hotplug.Sighting`: a change as its recipient sees it.
* `Hotplug.Registry.replay`: changes played over a registry.
* `Hotplug.Scene.shown`, `Hotplug.Scene.stream`: what one refresh of a monitor shows, and what all
  refreshes in a run show.
* `Hotplug.Scene.Tells`: what the changes of one refresh say of the records and the notices.

## Main statements

* `Hotplug.Scene.stream_determines_registry`
-/

namespace Hotplug

/-- A change as its recipient sees it: with the identity of the device, if its record is there. -/
structure Sighting where
  change : Change
  /-- The identity of the device. -/
  identity : Option Identity
  deriving DecidableEq, Repr

/-- A change seen among some records. -/
def Records.sight {ω : Type} (records : Records ω) (change : Change) : Sighting :=
  ⟨change, (records.info? change.record).map Info.identity⟩

namespace Sighting

/-- The record that comes in, if one does. -/
def added? (sighting : Sighting) : Option RecordId :=
  sighting.change.added?

/-- The record that goes out, if one does. -/
def removed? (sighting : Sighting) : Option RecordId :=
  sighting.change.removed?

/-- An entry of a registry that goes out. -/
def departure (entry : Identity × RecordId) : Sighting :=
  ⟨.removed entry.2, some entry.1⟩

end Sighting

theorem Records.added?_map_sight {ω : Type} (records : Records ω) (changes : List Change) :
    (changes.map records.sight).filterMap Sighting.added? = changes.filterMap Change.added? := by
  rw [List.filterMap_map]
  rfl

namespace Registry

/-- The registry without an identity. -/
def drop (registry : Registry) (identity : Identity) : Registry :=
  ⟨registry.entries.filter (·.1 ≠ identity)⟩

/-- Plays one change. What comes in has to find its identity free, and what goes out has to be there
under its own. -/
def play (registry : Registry) : Sighting → Option Registry
  | ⟨.added record, some identity⟩ =>
    if registry.find? identity = none then some (registry.insert identity record) else none
  | ⟨.removed record, some identity⟩ =>
    if registry.find? identity = some record then some (registry.drop identity) else none
  | ⟨_, none⟩ => none

/-- Plays changes, in order. -/
def replay (registry : Registry) (sightings : List Sighting) : Option Registry :=
  sightings.foldlM play registry

theorem replay_append {registry middle : Registry} {first : List Sighting}
    (h : registry.replay first = some middle) (second : List Sighting) :
    registry.replay (first ++ second) = middle.replay second := by
  rw [replay, List.foldlM_append]
  change (registry.replay first).bind _ = _
  rw [h]
  rfl

theorem exists_of_replay_append {registry later : Registry} {first second : List Sighting}
    (h : registry.replay (first ++ second) = some later) :
    ∃ middle, registry.replay first = some middle ∧ middle.replay second = some later := by
  rw [replay, List.foldlM_append] at h
  exact Option.bind_eq_some_iff.1 h

theorem replay_cons {registry : Registry} {sighting : Sighting} (rest : List Sighting) :
    registry.replay (sighting :: rest) = (registry.play sighting).bind (·.replay rest) :=
  rfl

theorem find?_drop (registry : Registry) (gone identity : Identity) :
    (registry.drop gone).find? identity =
      if identity = gone then none else registry.find? identity := by
  refine (find?_filter (fun kept => kept ≠ gone) identity registry.entries).trans ?_
  by_cases h : identity = gone
  · simp [h]
  · simp [h, find?]

/-- What goes out was there, and is not there any more. -/
theorem mem_records_of_find? {registry : Registry} {identity : Identity} {record : RecordId}
    (h : registry.find? identity = some record) : record ∈ registry.records :=
  List.mem_map.2 ⟨_, mem_of_find?_eq_some h, rfl⟩

theorem not_mem_records_drop {registry : Registry} (hrecords : registry.records.Nodup)
    {identity : Identity} {record : RecordId} (h : registry.find? identity = some record) :
    record ∉ (registry.drop identity).records := by
  intro hmem
  obtain ⟨entry, hentry, rfl⟩ := List.mem_map.1 hmem
  obtain ⟨hentry, hne⟩ := List.mem_filter.1 hentry
  -- Two entries with the same record would be one.
  have heq : entry = (identity, entry.2) :=
    List.inj_on_of_nodup_map hrecords hentry (mem_of_find?_eq_some h) rfl
  rw [heq] at hne
  simp at hne

/-- No record goes out twice, and what goes out was there at first or came in. -/
theorem nodup_removed_of_replay {registry later : Registry} {sightings : List Sighting}
    (h : registry.replay sightings = some later)
    (hnodup : (registry.records ++ sightings.filterMap Sighting.added?).Nodup) :
    (sightings.filterMap Sighting.removed?).Nodup ∧
      ∀ record ∈ sightings.filterMap Sighting.removed?,
        record ∈ registry.records ++ sightings.filterMap Sighting.added? := by
  -- What goes out first leaves the registry, and cannot come in again as names are new.
  induction sightings generalizing registry with
  | nil => exact ⟨.nil, nofun⟩
  | cons sighting rest ih =>
    obtain ⟨next, hnext, hrest⟩ := Option.bind_eq_some_iff.1 h
    match sighting, hnext with
    | ⟨.added record, some identity⟩, hnext =>
      rw [play] at hnext
      split at hnext
      · next hfree =>
        cases hnext
        have hperm := perm_records_insert (Option.isNone_iff_eq_none.2 hfree) record
        have hall : (registry.records ++
            (⟨.added record, some identity⟩ :: rest).filterMap Sighting.added?).Perm
              ((registry.insert identity record).records ++ rest.filterMap Sighting.added?) :=
          List.perm_middle.trans ((hperm.append_right _).symm)
        obtain ⟨honce, hmem⟩ := ih hrest (hall.nodup_iff.1 hnodup)
        exact ⟨honce, fun gone hgone => hall.mem_iff.2 (hmem gone hgone)⟩
      · cases hnext
    | ⟨.removed record, some identity⟩, hnext =>
      rw [play] at hnext
      split at hnext
      · next hfound =>
        cases hnext
        change (registry.records ++ rest.filterMap Sighting.added?).Nodup at hnodup
        have hsublist : (registry.drop identity).records.Sublist registry.records :=
          List.filter_sublist.map _
        obtain ⟨honce, hmem⟩ := ih hrest (hnodup.sublist (hsublist.append_right _))
        have hthere := mem_records_of_find? hfound
        have hnew : record ∉ rest.filterMap Sighting.removed? := by
          intro hagain
          rcases List.mem_append.1 (hmem record hagain) with hleft | hback
          · exact not_mem_records_drop (List.nodup_append.1 hnodup).1 hfound hleft
          · exact (List.nodup_append.1 hnodup).2.2 record hthere record hback rfl
        refine ⟨List.nodup_cons.2 ⟨hnew, honce⟩, fun gone hgone => ?_⟩
        change gone ∈ registry.records ++ rest.filterMap Sighting.added?
        rcases List.mem_cons.1 hgone with rfl | hgone
        · exact List.mem_append_left _ hthere
        · exact (hsublist.append_right _).subset (hmem gone hgone)
      · cases hnext

/-- Entries that go out one after the other leave the others as they are. -/
theorem replay_departures {registry : Registry} {gone : List (Identity × RecordId)}
    (hidentities : (gone.map (·.1)).Nodup)
    (hfound : ∀ entry ∈ gone, registry.find? entry.1 = some entry.2) :
    registry.replay (gone.map Sighting.departure) =
      some ⟨registry.entries.filter fun entry => entry.1 ∉ gone.map (·.1)⟩ := by
  -- Each departure leaves the entries that go later where they are.
  induction gone generalizing registry with
  | nil => simp [replay]
  | cons entry rest ih =>
    obtain ⟨hnew, hrest⟩ := List.nodup_cons.1 hidentities
    have hplay : registry.play (Sighting.departure entry) = some (registry.drop entry.1) :=
      if_pos (hfound entry List.mem_cons_self)
    have hlater : ∀ other ∈ rest, (registry.drop entry.1).find? other.1 = some other.2 := by
      intro other hother
      have hne : other.1 ≠ entry.1 := fun heq => hnew (List.mem_map.2 ⟨other, hother, heq⟩)
      rw [find?_drop, if_neg hne]
      exact hfound other (List.mem_cons_of_mem _ hother)
    rw [List.map_cons, replay_cons, hplay, Option.bind_some, ih hrest hlater, drop,
      List.filter_filter]
    congr 3
    funext other
    simp only [decide_not, List.map_cons, List.mem_cons, Bool.decide_or, Bool.not_or]
    exact Bool.and_comm ..

/-- Taking a device out is the departure of its entries. -/
theorem replay_without {registry : Registry} (hidentities : (registry.entries.map (·.1)).Nodup)
    (key : String) :
    registry.replay ((registry.entries.filter (·.1.key = key)).map Sighting.departure) =
      some (registry.without key) := by
  have hsublist : (registry.entries.filter (·.1.key = key)).Sublist registry.entries :=
    List.filter_sublist
  rw [replay_departures (hidentities.sublist (hsublist.map _))]
  · congr 2
    refine List.filter_congr fun entry hentry => decide_eq_decide.2 (not_congr ?_)
    constructor
    · intro hmem
      obtain ⟨other, hother, heq⟩ := List.mem_map.1 hmem
      have hkey : other.1.key = key := by simpa using (List.mem_filter.1 hother).2
      exact heq ▸ hkey
    · intro hkey
      exact List.mem_map_of_mem (List.mem_filter.2 ⟨hentry, by simpa using hkey⟩)
  · exact fun entry hentry => find?_of_mem hidentities (hsublist.subset hentry)

end Registry

/-! ### What notices tell -/

/-- New records are none of those that the registry has. -/
theorem Roster.Sound.nodup_append {ω : Type} {roster : Roster ω} {filter : Filter}
    (h : roster.Sound filter) (hfresh : roster.records.Fresh) {added : List RecordId}
    (hnew : ∀ record ∈ added, roster.records.next ≤ record) (honce : added.Nodup) :
    (roster.registry.records ++ added).Nodup := by
  refine List.nodup_append.2 ⟨h.records, honce, fun old hold record hrecord => ?_⟩
  exact Nat.ne_of_lt (Nat.lt_of_lt_of_le (h.lt_next hfresh hold) (hnew record hrecord))

namespace Watch

variable {ω : Type} {watch : Watch ω} {roster : Roster ω}

/-- The changes of a removal are the departures of the entries of the device. -/
theorem sights_vanish {filter : Filter} (hsound : roster.Sound filter) {final : Records ω}
    (hfinal : final.Extends roster.records) (key : String) :
    (vanish roster key).2.map final.sight =
      (roster.registry.entries.filter (·.1.key = key)).map Sighting.departure := by
  change (((roster.registry.entries.filter (·.1.key = key)).map (·.2)).map Change.removed).map
    final.sight = _
  rw [List.map_map, List.map_map]
  refine List.map_congr_left fun entry hentry => ?_
  obtain ⟨info, hinfo, hidentity, -⟩ := hsound.known entry (List.mem_filter.1 hentry).1
  change (⟨.removed entry.2, (final.info? entry.2).map Info.identity⟩ : Sighting) = _
  rw [hfinal _ _ hinfo, Option.map_some, hidentity]
  rfl

/-- The changes of one notice, played over the registry, give the new one. -/
theorem replay_apply (hsound : roster.Sound watch.filter) {final : Records ω} (notice : Notice)
    (hfinal : final.Extends (watch.apply roster notice).1.records)
    (hkeeps : final.Extends roster.records) :
    roster.registry.replay ((watch.apply roster notice).2.map final.sight) =
      some (watch.apply roster notice).1.registry := by
  cases notice with
  | added info =>
    change final.Extends (watch.appear roster info).1.records at hfinal
    change roster.registry.replay ((watch.appear roster info).2.map final.sight) =
      some (watch.appear roster info).1.registry
    by_cases h : watch.filter.passes info = true ∧
      (roster.registry.find? info.identity).isNone = true
    · rw [appear_of_absent h.1 h.2] at hfinal ⊢
      have hinfo : final.info? roster.records.next = some info := by
        refine hfinal _ _ ?_
        rw [Records.info?_retain, Records.info?_create, if_pos rfl]
      have hsight : final.sight (.added roster.records.next) =
          ⟨.added roster.records.next, some info.identity⟩ := by
        change (⟨_, (final.info? roster.records.next).map Info.identity⟩ : Sighting) = _
        rw [hinfo]
        rfl
      have hplay : roster.registry.play ⟨.added roster.records.next, some info.identity⟩ =
          some (roster.registry.insert info.identity roster.records.next) :=
        if_pos (Option.isNone_iff_eq_none.1 h.2)
      rw [List.map_cons, List.map_nil, hsight, Registry.replay_cons, hplay]
      rfl
    · rw [appear_of_not h]
      rfl
  | removed key =>
    change roster.registry.replay ((vanish roster key).2.map final.sight) = _
    rw [sights_vanish hsound hkeeps key]
    exact Registry.replay_without hsound.identities key

theorem replay_applyAll (hsound : roster.Sound watch.filter) (hfresh : roster.records.Fresh)
    {final : Records ω} (notices : List Notice)
    (hfinal : final.Extends (watch.applyAll roster notices).1.records) :
    roster.registry.replay ((watch.applyAll roster notices).2.map final.sight) =
      some (watch.applyAll roster notices).1.registry := by
  induction notices generalizing roster with
  | nil => rfl
  | cons notice rest ih =>
    have hstep := succeeds_apply hsound hfresh notice
    have hrest := succeeds_applyAll hstep.sound hstep.fresh rest
    have hmiddle := hfinal.trans hrest.keeps
    change roster.registry.replay (((watch.apply roster notice).2 ++
      (watch.applyAll (watch.apply roster notice).1 rest).2).map final.sight) = _
    rw [List.map_append,
      Registry.replay_append (replay_apply hsound notice hmiddle (hmiddle.trans hstep.keeps))]
    exact ih hstep.sound hstep.fresh hfinal

theorem applyAll_append (watch : Watch ω) (roster : Roster ω) (first second : List Notice) :
    watch.applyAll roster (first ++ second) =
      ((watch.applyAll (watch.applyAll roster first).1 second).1,
        (watch.applyAll roster first).2 ++
          (watch.applyAll (watch.applyAll roster first).1 second).2) := by
  induction first generalizing roster with
  | nil => rfl
  | cons notice rest ih =>
    change ((watch.applyAll (watch.apply roster notice).1 (rest ++ second)).1, _ ++
      (watch.applyAll (watch.apply roster notice).1 (rest ++ second)).2) = _
    rw [ih, ← List.append_assoc]
    rfl

/-- What a notice takes out was in the registry. -/
theorem mem_records_of_removed {notice : Notice} {id : RecordId}
    (h : .removed id ∈ (watch.apply roster notice).2) : id ∈ roster.registry.records := by
  cases notice with
  | added info =>
    change .removed id ∈ (watch.appear roster info).2 at h
    rw [appear] at h
    split at h
    · simp at h
    · cases h
  | removed key =>
    obtain ⟨gone, hgone, heq⟩ := List.mem_map.1 (show _ ∈ (_ : List Change) from h)
    cases heq
    exact (Registry.perm_records_without roster.registry key).subset
      (List.mem_append_left _ hgone)

/-- What comes in is online, what goes out is disconnected, and nothing else changes. -/
theorem status?_apply (hsound : roster.Sound watch.filter) (notice : Notice) (id : RecordId) :
    (watch.apply roster notice).1.records.status? id =
      if .removed id ∈ (watch.apply roster notice).2 then some .disconnected
      else if .added id ∈ (watch.apply roster notice).2 then some .online
      else roster.records.status? id := by
  cases notice with
  | added info =>
    change (watch.appear roster info).1.records.status? id =
      if .removed id ∈ (watch.appear roster info).2 then some .disconnected
      else if .added id ∈ (watch.appear roster info).2 then some .online
      else roster.records.status? id
    by_cases h : watch.filter.passes info = true ∧
      (roster.registry.find? info.identity).isNone = true
    · rw [appear_of_absent h.1 h.2, Records.status?_retain, Records.status?_create]
      simp
    · rw [appear_of_not h]
      simp
  | removed key =>
    have hmem : .removed id ∈ (watch.apply roster (.removed key)).2 ↔
        id ∈ roster.registry.ofKey key := by
      change .removed id ∈ (roster.registry.ofKey key).map Change.removed ↔ _
      simp
    have hadded : .added id ∉ (watch.apply roster (.removed key)).2 := by
      change .added id ∉ (roster.registry.ofKey key).map Change.removed
      simp
    change ((roster.registry.ofKey key).foldl Records.disconnect roster.records).status? id = _
    rw [Records.status?_foldl_disconnect, if_neg hadded]
    split
    · next hgone =>
      rw [if_pos (hmem.2 hgone)]
      obtain ⟨info, hinfo⟩ := hsound.info?_of_mem (mem_records_of_removed (hmem.2 hgone))
      obtain ⟨status, hstatus⟩ :=
        Option.isSome_iff_exists.1 (Records.isSome_status?_of_info? hinfo)
      rw [hstatus]
      rfl
    · next hkept => rw [if_neg fun hgone => hkept (hmem.1 hgone)]

theorem status?_applyAll (hsound : roster.Sound watch.filter) (hfresh : roster.records.Fresh)
    (notices : List Notice) (id : RecordId) :
    (watch.applyAll roster notices).1.records.status? id =
      if .removed id ∈ (watch.applyAll roster notices).2 then some .disconnected
      else if .added id ∈ (watch.applyAll roster notices).2 then some .online
      else roster.records.status? id := by
  induction notices generalizing roster with
  | nil => rfl
  | cons notice rest ih =>
    have hstep := succeeds_apply hsound hfresh notice
    have hrest := succeeds_applyAll hstep.sound hstep.fresh rest
    have hmem (change : Change) : change ∈ (watch.applyAll roster (notice :: rest)).2 ↔
        change ∈ (watch.apply roster notice).2 ∨
          change ∈ (watch.applyAll (watch.apply roster notice).1 rest).2 :=
      List.mem_append
    change (watch.applyAll (watch.apply roster notice).1 rest).1.records.status? id = _
    rw [ih hstep.sound hstep.fresh, status?_apply hsound]
    simp only [hmem]
    by_cases hremoved : .removed id ∈ (watch.applyAll (watch.apply roster notice).1 rest).2
    · simp [hremoved]
    · by_cases hadded : .added id ∈ (watch.applyAll (watch.apply roster notice).1 rest).2
      · -- It has a name that was not given when the first notice was applied.
        have hnew := (hrest.added id (List.mem_filterMap.2 ⟨_, hadded, rfl⟩)).1
        have hnot : .removed id ∉ (watch.apply roster notice).2 := fun hgone =>
          Nat.lt_irrefl _ (Nat.lt_of_lt_of_le (hsound.lt_next hfresh (mem_records_of_removed hgone))
            (Nat.le_trans hstep.continues.next_le hnew))
        simp [hremoved, hadded, hnot]
      · simp [hremoved, hadded]

/-- What comes in is online in the end, unless it goes out afterwards. -/
theorem status?_of_added (hsound : roster.Sound watch.filter) (hfresh : roster.records.Fresh)
    {notices : List Notice} {before after : List Change} {record : RecordId}
    (h : (watch.applyAll roster notices).2 = before ++ .added record :: after) :
    (watch.applyAll roster notices).1.records.status? record = some .online ↔
      .removed record ∉ after := by
  have hsucceeds := succeeds_applyAll hsound hfresh notices
  have hreplay := replay_applyAll hsound hfresh notices (.refl _)
  rw [h, List.map_append] at hreplay
  obtain ⟨middle, hbefore, -⟩ := Registry.exists_of_replay_append hreplay
  have hnodup := hsound.nodup_append hfresh (fun record hrecord => (hsucceeds.added record hrecord).1)
    hsucceeds.once
  rw [h, List.filterMap_append, ← List.append_assoc] at hnodup
  obtain ⟨hleft, -, hapart⟩ := List.nodup_append.1 hnodup
  -- Nothing that went out before has the name of the record, which was new when it came in.
  have hsooner : .removed record ∉ before := by
    intro hgone
    rw [← Records.added?_map_sight] at hleft
    have hmem := (Registry.nodup_removed_of_replay hbefore hleft).2 record
      (List.mem_filterMap.2 ⟨_, List.mem_map_of_mem hgone, rfl⟩)
    rw [Records.added?_map_sight] at hmem
    exact hapart record hmem record (List.mem_filterMap.2 ⟨_, List.mem_cons_self, rfl⟩) rfl
  rw [status?_applyAll hsound hfresh, h]
  simp [hsooner]

/-- A removal among other notices shows the departure of what the registry has of the device then. -/
theorem sights_of_removed (hsound : roster.Sound watch.filter) (hfresh : roster.records.Fresh)
    (sooner : List Notice) (key : String) (later : List Notice) :
    let result := watch.applyAll roster (sooner ++ .removed key :: later)
    ∃ before registry after,
      result.2.map result.1.records.sight = before ++
        ((registry.entries.filter (·.1.key = key)).map Sighting.departure ++ after) ∧
      roster.registry.replay before = some registry ∧
      registry.replay ((registry.entries.filter (·.1.key = key)).map Sighting.departure) =
        some (registry.without key) := by
  intro result
  have hall : result = _ := applyAll_append watch roster sooner (.removed key :: later)
  have hsooner := succeeds_applyAll hsound hfresh sooner
  have hgone := succeeds_vanish hsooner.sound hsooner.fresh key
  have hlater := succeeds_applyAll hgone.sound hgone.fresh later
  have hkeeps : result.1.records.Extends (watch.applyAll roster sooner).1.records := by
    rw [hall]
    exact hlater.keeps.trans hgone.keeps
  have hchanges : result.2 = (watch.applyAll roster sooner).2 ++
      ((vanish (watch.applyAll roster sooner).1 key).2 ++
        (watch.applyAll (vanish (watch.applyAll roster sooner).1 key).1 later).2) := by
    rw [hall]
    rfl
  refine ⟨(watch.applyAll roster sooner).2.map result.1.records.sight,
    (watch.applyAll roster sooner).1.registry,
    (watch.applyAll (vanish (watch.applyAll roster sooner).1 key).1 later).2.map
      result.1.records.sight, ?_, replay_applyAll hsound hfresh sooner hkeeps,
    Registry.replay_without hsooner.sound.identities key⟩
  rw [hchanges, List.map_append, List.map_append, sights_vanish hsooner.sound hkeeps key]

end Watch

/-! ### What refreshes tell -/

variable {σ : Type} [Platform σ]

namespace Scene

/-- The changes that a refresh returns; none if it fails. -/
def changes (scene : Scene σ) (id : MonitorId) : List Change :=
  (((Hub.refresh id).run scene.hub).ending.value?).getD []

/-- The same as whoever asked for the refresh sees them when it returns. -/
def shown (scene : Scene σ) (id : MonitorId) : List Sighting :=
  (scene.changes id).map ((Deed.refresh id).act scene).hub.records.sight

end Scene

/-- What a deed shows of a monitor. -/
def Deed.shows (scene : Scene σ) (id : MonitorId) : Deed σ → List Sighting
  | refresh other => if other = id then scene.shown id else []
  | _ => []

namespace Scene

/-- What the refreshes of a monitor show in a run. -/
def stream (id : MonitorId) : Scene σ → List (Deed σ) → List Sighting
  | _, [] => []
  | scene, deed :: rest => deed.shows scene id ++ (deed.act scene).stream id rest

/-- A later scene, and what was shown of a monitor on the way there. -/
structure Follows (scene later : Scene σ) (id : MonitorId) (first last : Monitor σ)
    (sightings : List Sighting) : Prop where
  there : later.hub.monitors.get? id = some last
  replay : first.registry.replay sightings = some last.registry
  continues : later.hub.records.Continues scene.hub.records
  /-- What came in has a name that was not given before. -/
  added : ∀ record ∈ sightings.filterMap Sighting.added?,
    scene.hub.records.next ≤ record ∧ record < later.hub.records.next
  once : (sightings.filterMap Sighting.added?).Nodup

variable {scene middle later : Scene σ} {id : MonitorId} {first second last : Monitor σ}
variable {sightings more : List Sighting}

theorem Follows.trans (h : scene.Follows middle id first second sightings)
    (h' : middle.Follows later id second last more) :
    scene.Follows later id first last (sightings ++ more) where
  there := h'.there
  replay := (Registry.replay_append h.replay more).trans h'.replay
  continues := h'.continues.trans h.continues
  added := by
    rw [List.filterMap_append]
    exact Records.named_append h.continues.next_le h'.continues.next_le h.added h'.added
  once := by
    rw [List.filterMap_append]
    exact Records.nodup_append (fun a ha => (h.added a ha).2) (fun b hb => (h'.added b hb).1) h.once
      h'.once

theorem changes_eq {ending : Ending (List Change)} {hub : Hub σ}
    (hends : (Hub.refresh id).Ends scene.hub ending hub) :
    scene.changes id = ending.value?.getD [] := by
  rw [changes, hends.1]

theorem hub_refresh {ending : Ending (List Change)} {hub : Hub σ}
    (hends : (Hub.refresh id).Ends scene.hub ending hub) :
    ((Deed.refresh id).act scene).hub = hub :=
  hends.2

/-- What the result of one refresh says of the records and of the notices that were delivered. -/
structure Tells (scene : Scene σ) (id : MonitorId) : Prop where
  /-- A record that came in is online when the refresh returns, unless a later change of the same
  result takes it out. -/
  online : ∀ before record after, scene.changes id = before ++ .added record :: after →
    (((Deed.refresh id).act scene).hub.records.status? record = some .online ↔
      .removed record ∉ after)
  /-- A record that went out is disconnected. -/
  gone : ∀ record, .removed record ∈ scene.changes id →
    ((Deed.refresh id).act scene).hub.records.status? record = some .disconnected
  /-- The removal of a device shows the departure of its entries, as they are at that point, and
  leaves those of other devices. -/
  removal : ∀ monitor drained, scene.hub.monitors.get? id = some monitor →
    ((Platform.drain monitor.source).run scene.hub.platform).ending = .returned drained →
    ∀ sooner key later, drained.notices = sooner ++ .removed key :: later →
    ∃ before registry after,
      scene.shown id = before ++
        ((registry.entries.filter (·.1.key = key)).map Sighting.departure ++ after) ∧
      monitor.registry.replay before = some registry ∧
      registry.replay ((registry.entries.filter (·.1.key = key)).map Sighting.departure) =
        some (registry.without key)

theorem tells_of_nil (h : scene.changes id = [])
    (hnone : ∀ monitor drained, scene.hub.monitors.get? id = some monitor →
      ((Platform.drain monitor.source).run scene.hub.platform).ending = .returned drained →
      drained.notices = []) : scene.Tells id where
  online := by
    intro before record after heq
    simp [h] at heq
  gone := by
    intro record hgone
    simp [h] at hgone
  removal := by
    intro monitor drained hmonitor hdrained sooner key later heq
    simp [hnone monitor drained hmonitor hdrained] at heq

theorem tells (h : scene.Sound) (id : MonitorId) : scene.Tells id := by
  cases Hub.refresh_cases id scene.hub with
  | absent failure hnone hends =>
    refine tells_of_nil (changes_eq hends) fun monitor drained hmonitor _ => ?_
    rw [hnone] at hmonitor
    cases hmonitor
  | nothing monitor ending hmonitor hending hdrained hends =>
    refine tells_of_nil ?_ fun other drained hother => ?_
    · rw [changes_eq hends, hending]
      rfl
    · cases hmonitor.symm.trans hother
      exact fun hreturned => (hdrained drained hreturned).2
  | delivered monitor drained hmonitor hdrained _ hends =>
    have hsound : (scene.hub.roster monitor).Sound (monitor.watch id).filter :=
      h.registries id monitor hmonitor
    have hfresh : (scene.hub.roster monitor).records.Fresh := h.fresh
    have hchanges : scene.changes id =
        ((monitor.watch id).applyAll (scene.hub.roster monitor) drained.notices).2 :=
      changes_eq hends
    have hhub := hub_refresh hends
    refine ⟨fun before record after heq => ?_, fun record hgone => ?_, ?_⟩
    · rw [hhub]
      exact Watch.status?_of_added hsound hfresh (hchanges.symm.trans heq)
    · rw [hchanges] at hgone
      rw [hhub]
      exact (Watch.status?_applyAll hsound hfresh drained.notices record).trans (if_pos hgone)
    · intro other delivered hother hdelivered sooner key later heq
      cases hmonitor.symm.trans hother
      cases hdrained.symm.trans hdelivered
      rw [shown, hhub, hchanges, heq]
      exact Watch.sights_of_removed hsound hfresh sooner key later

end Scene

end Hotplug
