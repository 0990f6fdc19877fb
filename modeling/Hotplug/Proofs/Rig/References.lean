import Mathlib.Data.List.Nodup
import Hotplug.Proofs.Hub.Tending
import Hotplug.Rig.Basic
/-!
# Accounting for references

The references to a record are those that are held outside, one for each open handle on its device, and
one if a monitor lists it. A record is there as long as there are any.

## Main definitions

* `Hotplug.Hub.lists`, `Hotplug.Hub.owed`: who has references to a record.
* `Hotplug.Stage`, `Hotplug.Move`: a rig, the records held outside of it, and what can happen.

## Main statements

* `Hotplug.Stage.run_eq`: whatever happens to a rig, deeds do to its hub.
* `Hotplug.Stage.references`
-/

namespace Hotplug

variable {σ α : Type} [Platform σ]

namespace Hub

/-- Whether a running monitor lists a record. -/
def lists (hub : Hub σ) (id : RecordId) : Bool :=
  hub.monitors.values.any fun monitor => monitor.registry.records.contains id

/-- How many references there should be to a record, if some are held outside: those, one for each open
handle, and one if a monitor lists it. -/
def owed (hub : Hub σ) (held : List RecordId) (id : RecordId) : Nat :=
  held.count id + hub.handles.values.countP (·.record = id) + (hub.lists id).toNat

theorem lists_iff (hub : Hub σ) (id : RecordId) : hub.lists id = true ↔ id ∈ hub.watched := by
  simp [lists, watched]

theorem count_handled (hub : Hub σ) (id : RecordId) :
    hub.handled.count id = hub.handles.values.countP (·.record = id) := by
  rw [handled, ← List.map_eq_flatMap, List.count, List.countP_map]
  rfl

end Hub

namespace Scene

variable {scene : Scene σ}

/-- Nothing is listed twice, be it by one monitor or by two. -/
theorem nodup_watched (h : scene.Sound) (htended : scene.Tended) : scene.hub.watched.Nodup := by
  have hruns : ∀ entry ∈ scene.hub.monitors.entries,
      scene.hub.monitors.get? entry.1 = some entry.2 := fun entry hentry =>
    Table.get?_of_mem h.monitorKeys hentry
  refine List.nodup_flatMap.2 ⟨fun monitor hmonitor => ?_, ?_⟩
  · obtain ⟨entry, hentry, rfl⟩ := List.mem_map.1 hmonitor
    exact (h.registries entry.1 entry.2 (hruns entry hentry)).records
  · refine List.pairwise_map.2 ((List.pairwise_map.1 h.monitorKeys).imp_of_mem ?_)
    intro first second hfirst hsecond hne record hrecord hagain
    exact hne (eq_of_listed htended (hruns first hfirst) (hruns second hsecond) hrecord hagain)

/-- Every reference is accounted for. -/
theorem refsOf_eq (h : scene.Sound) (htended : scene.Tended) (id : RecordId) :
    scene.hub.records.refsOf id = scene.hub.owed scene.held id := by
  -- As nothing is listed twice, counting the lists comes to one or none.
  have hlisted : scene.hub.watched.count id = (scene.hub.lists id).toNat := by
    rw [(nodup_watched h htended).count]
    split
    · next hmem => rw [(scene.hub.lists_iff id).2 hmem, Bool.toNat_true]
    · next hnot =>
      rw [Bool.eq_false_iff.2 fun hlists => hnot ((scene.hub.lists_iff id).1 hlists),
        Bool.toNat_false]
  rw [← h.counts.count id, Hub.holders, List.count_append, List.count_append, Hub.count_handled,
    hlisted, Hub.owed, Nat.add_assoc]

/-- A record is there as long as it is referred to. -/
theorem isSome_iff (h : scene.Sound) (htended : scene.Tended) (id : RecordId) :
    (scene.hub.records.get? id).isSome = true ↔ 0 < scene.hub.owed scene.held id := by
  rw [← refsOf_eq h htended, Records.refsOf]
  cases hrecord : scene.hub.records.get? id with
  | none => simp
  | some record => simpa using h.counts.pos id record hrecord

end Scene

/-- A rig, and the records held outside of it, each as often as it is held. -/
structure Stage (σ : Type) [Platform σ] where
  rig : Rig σ
  /-- The records held outside. -/
  held : List RecordId := []

/-- One thing that can happen to a rig. -/
inductive Move (σ : Type) [Platform σ]
  /-- Something happens to its hub. -/
  | deed (deed : Deed σ)
  /-- A device is opened and its handle is to be added to the set. -/
  | openRegistered (record : RecordId) (id : UInt32)
  /-- The set is changed. -/
  | arrange (set : DescriptorSet)

namespace Stage

/-- The hub of the rig, with what is held outside. -/
def scene (stage : Stage σ) : Scene σ :=
  ⟨stage.rig.hub, stage.held⟩

end Stage

/-- What a move makes of a stage. -/
def Move.act : Move σ → Stage σ → Stage σ
  | deed done, stage =>
    let scene := done.act stage.scene
    ⟨{ stage.rig with hub := scene.hub }, scene.held⟩
  | openRegistered record id, stage =>
    ⟨((Rig.openRegistered record id).run stage.rig).state, stage.held⟩
  | arrange set, stage => ⟨{ stage.rig with set }, stage.held⟩

/-- Some deeds lead from a scene to the hub of a rig, and bring nothing. -/
def Scene.LeadsTo (scene : Scene σ) (rig : Rig σ) : Prop :=
  ∃ deeds, scene.run deeds = ⟨rig.hub, scene.held⟩

namespace Rig

variable {scene : Scene σ}

/-- A part that is one deed, which brings nothing. -/
theorem leads_onHub {action : Action (Hub σ) α} (deed : Deed σ)
    (h : ∀ scene, deed.act scene = scene.after action fun _ => []) :
    (onHub action).Hoare scene.LeadsTo fun _ => scene.LeadsTo := by
  rintro rig ⟨deeds, hdeeds⟩
  refine ⟨deeds ++ [deed], ?_⟩
  rw [Scene.run_append, hdeeds]
  exact (h _).trans (Scene.after_eq_of_nil (action.ends_run rig.hub))

theorem state_handle (id : HandleId) (hub : Hub σ) : ((Hub.handle id).run hub).state = hub := by
  cases hhandle : hub.handles.get? id with
  | none => exact (Hub.ends_handle_of_none hhandle).2
  | some handle => exact (Hub.ends_handle hhandle).2

theorem ends_onHub {action : Action (Hub σ) α} {rig : Rig σ} {ending : Ending α} {hub : Hub σ}
    (h : action.Ends rig.hub ending hub) : (onHub action).Ends rig ending { rig with hub } :=
  ⟨h.1, congrArg (fun hub => { rig with hub }) h.2⟩

/-- Opening a device and adding its handle is an opening, and a closing if the handle is not added. -/
theorem hoare_openRegistered {property : Rig σ → Prop} {record : RecordId} {id : UInt32}
    (hset : ∀ rig set, property rig → property { rig with set })
    (hopen : (onHub (Hub.open_ record)).Hoare property fun _ => property)
    (hclose : ∀ handle, (onHub (Hub.close handle)).Hoare property fun _ => property) :
    (openRegistered record id).Hoare property fun _ => property := by
  refine .bind_keep hopen fun handle => ?_
  refine .bind_keep (fun rig h => ?_) fun opened => ?_
  · change property { rig with hub := ((Hub.handle handle).run rig.hub).state }
    rw [state_handle]
    exact h
  refine .bind_keep (.get fun _ h => h) fun rig => ?_
  split
  · exact .bind_keep (.modify fun rig h => hset rig _ h) fun _ => .pure fun _ h => h
  · -- The handle is not added, and it is closed again.
    refine .bind_keep (.say fun _ h => h) fun _ => ?_
    refine .bind_keep (.get fun _ h => h) fun _ => ?_
    exact .bind_keep (hclose handle) fun _ => .pure fun _ h => h

theorem leads_openRegistered (record : RecordId) (id : UInt32) :
    (openRegistered record id).Hoare scene.LeadsTo fun _ => scene.LeadsTo :=
  hoare_openRegistered (fun _ _ h => h) (leads_onHub (.open_ record) fun _ => rfl) fun handle =>
    leads_onHub (.close handle) fun _ => rfl

end Rig

namespace Stage

/-- Nothing has happened yet. The rig may say that any monitor is its own. -/
def initial (platform : σ) (monitor : MonitorId) (set : DescriptorSet) (entry : UInt32) : Stage σ :=
  ⟨⟨{ platform }, monitor, set, entry⟩, []⟩

/-- What moves make of a stage, in order. -/
def run (stage : Stage σ) (moves : List (Move σ)) : Stage σ :=
  moves.foldl (fun stage move => move.act stage) stage

/-- Whatever is done to a rig, deeds do to its hub. -/
theorem act_eq (stage : Stage σ) (move : Move σ) :
    ∃ deeds, (move.act stage).scene = stage.scene.run deeds := by
  cases move with
  | deed done => exact ⟨[done], rfl⟩
  | openRegistered record id =>
    obtain ⟨deeds, hdeeds⟩ := @Rig.leads_openRegistered σ _ stage.scene record id stage.rig ⟨[], rfl⟩
    exact ⟨deeds, hdeeds.symm⟩
  | arrange set => exact ⟨[], rfl⟩

theorem run_eq (stage : Stage σ) (moves : List (Move σ)) :
    ∃ deeds, (stage.run moves).scene = stage.scene.run deeds := by
  induction moves generalizing stage with
  | nil => exact ⟨[], rfl⟩
  | cons move rest ih =>
    obtain ⟨first, hfirst⟩ := act_eq stage move
    obtain ⟨deeds, hdeeds⟩ := ih (move.act stage)
    refine ⟨first ++ deeds, ?_⟩
    rw [Scene.run_append, ← hfirst]
    exact hdeeds

/-- Whatever happens, the references to each record are accounted for, a record is there exactly as
long as there are any, and once it is gone it is gone for good. -/
theorem references (platform : σ) (monitor : MonitorId) (set : DescriptorSet) (entry : UInt32)
    (moves : List (Move σ)) :
    let stage := (initial platform monitor set entry).run moves
    let hub := stage.rig.hub
    (∀ id, hub.records.refsOf id = hub.owed stage.held id) ∧
    (∀ id, (hub.records.get? id).isSome = true ↔ 0 < hub.owed stage.held id) ∧
    ∀ id < hub.records.next, hub.records.get? id = none → ∀ more,
      (stage.run more).rig.hub.records.get? id = none := by
  intro stage hub
  obtain ⟨deeds, hdeeds⟩ := run_eq (initial platform monitor set entry) moves
  have hinitial : (initial platform monitor set entry).scene = Scene.initial platform := rfl
  rw [hinitial] at hdeeds
  have hsound : stage.scene.Sound :=
    hdeeds.symm ▸ Scene.sound_run (Scene.sound_initial platform) deeds
  have htended : stage.scene.Tended := hdeeds.symm ▸
    (Scene.evolves_run (Scene.sound_initial platform) (Scene.tended_initial platform) deeds).2
  refine ⟨Scene.refsOf_eq hsound htended, Scene.isSome_iff hsound htended,
    fun id hid hnone more => ?_⟩
  -- What is there later under a name given before was there before.
  obtain ⟨further, hfurther⟩ := run_eq stage more
  obtain ⟨hevolves, -⟩ := Scene.evolves_run hsound htended further
  rw [← hfurther] at hevolves
  refine Option.eq_none_iff_forall_ne_some.2 fun after hafter => ?_
  obtain ⟨before, hbefore, -⟩ := hevolves.records.old id hid after hafter
  rw [show stage.scene.hub.records.get? id = none from hnone] at hbefore
  cases hbefore

end Stage

end Hotplug
