import Hotplug.Proofs.Hoare
import Hotplug.Proofs.Wait.Entries
import Hotplug.Session.Sets
/-!
# Editing a set

The set in a slot of a desk is changed by commands. Whatever the commands, and whether they are refused
or not, the set lists what was added and has survived, in the order of the additions.

## Main definitions

* `Hotplug.DescriptorSet.Edit`, `Hotplug.DescriptorSet.Edit.command`: a change to a set.
* `Hotplug.DescriptorSet.survivors`: what was added in a history and not taken out later in it.
* `Hotplug.DescriptorSet.Edit.Comes`: what a change has to come to.
* `Hotplug.Editing`: a desk with the history of one of its sets.

## Main statements

* `Hotplug.DescriptorSet.Edit.ends_command`: one change.
* `Hotplug.Editing.run_holds`: any number of changes.
* `Hotplug.Editing.ordered_map`
-/

namespace Hotplug

namespace DescriptorSet

/-- A change to a set. -/
inductive Edit
  /-- Add an object under a number. -/
  | add (id : UInt32) (target : Waitable)
  /-- Take the entry with a number out. -/
  | remove (id : UInt32)
  /-- Take every entry out. -/
  | clear
  deriving DecidableEq, Repr

/-- A change, and how it ended. -/
structure Edited where
  edit : Edit
  ending : Ending Answer

/-- The command that makes the change to the set in a slot. -/
def Edit.command (slot : String) : Edit → SetCommand
  | .add id (.fd number) => .add slot id (.fd number)
  | .add id (.handle number) => .add slot id (.handle number)
  | .remove id => .remove slot id
  | .clear => .clear slot

/-- Whether the change asks for the entry with a number to go. -/
def Edit.ousts : Edit → UInt32 → Bool
  | .add .., _ => false
  | .remove id, other => other == id
  | .clear, _ => true

/-- The entry that an addition brought, unless it was refused. -/
def Edited.brought : Edited → List Entry
  | ⟨.add id target, .returned _⟩ => [⟨id, target⟩]
  | _ => []

/-- The entries that were brought and that nothing later asked to go, in the order in which they
came. -/
def survivors : List Edited → List Entry
  | [] => []
  | edited :: later =>
    (edited.brought.filter fun entry => later.all fun next => !next.edit.ousts entry.id) ++
      survivors later

/-- What a change of a set has to come to: how it ends, and the entries that it leaves. -/
inductive Edit.Comes (set : DescriptorSet) : Edit → Ending Answer → List Entry → Prop
  | added {id : UInt32} {target : Waitable} (htakes : set.Takes id target) :
    Comes set (.add id target) (.returned (.count (set.size + 1))) (set.entries ++ [⟨id, target⟩])
  | refused {id : UInt32} {target : Waitable} {failure : Failure} (hrefused : ¬set.Takes id target)
    (hcode : failure.code = .invalid) : Comes set (.add id target) (.failed failure) set.entries
  | removed {before after : List Entry} {id : UInt32} {target : Waitable}
    (hsplit : set.entries = before ++ ⟨id, target⟩ :: after) :
    Comes set (.remove id) (.returned (.flag true)) (before ++ after)
  | absent {id : UInt32} (hnone : id ∉ set.ids) :
    Comes set (.remove id) (.returned (.flag false)) set.entries
  | cleared : Comes set .clear (.returned .nothing) []

/-- The latest change decides what stays of the earlier ones, and brings its own entry last. -/
theorem survivors_concat (history : List Edited) (edited : Edited) :
    survivors (history ++ [edited]) =
      (survivors history).filter (fun entry => !edited.edit.ousts entry.id) ++ edited.brought := by
  induction history with
  | nil => simp [survivors]
  | cons first later ih =>
    rw [List.cons_append, survivors, ih, survivors, List.filter_append, List.filter_filter,
      List.append_assoc]
    simp [Bool.and_comm]

variable {set : DescriptorSet} {edit : Edit} {ending : Ending Answer} {entries : List Entry}

/-- The entries that a change leaves, as the history accounts for them. -/
theorem Edit.Comes.entries_eq (h : edit.Comes set ending entries) (horderly : set.Orderly) :
    entries = set.entries.filter (fun entry => !edit.ousts entry.id) ++
      Edited.brought ⟨edit, ending⟩ := by
  cases h with
  | added htakes => simp [ousts, Edited.brought]
  | refused hrefused hcode => simp [ousts, Edited.brought]
  | @removed before after id target hsplit =>
    have hothers : (before ++ after).filter (fun entry => !(entry.id == id)) = before ++ after := by
      refine List.filter_eq_self.2 fun entry hentry => ?_
      simpa using horderly.ne_of_split hsplit entry hentry
    rw [hsplit, List.filter_append, List.filter_cons_of_neg (by simp [ousts]), ← List.filter_append]
    simpa [Edited.brought, ousts] using hothers.symm
  | @absent id hnone =>
    have hothers : set.entries.filter (fun entry => !(entry.id == id)) = set.entries := by
      refine List.filter_eq_self.2 fun entry hentry => ?_
      simpa using fun heq => hnone (List.mem_map.2 ⟨entry, hentry, heq⟩)
    simpa [Edited.brought, ousts] using hothers.symm
  | cleared => simp [ousts, Edited.brought]

theorem Edit.Comes.orderly (h : edit.Comes set ending entries) (horderly : set.Orderly) :
    { set with entries }.Orderly := by
  cases h with
  | added htakes => exact horderly.extended htakes
  | refused hrefused hcode => exact horderly
  | removed hsplit =>
    refine horderly.sublist ?_
    rw [hsplit]
    exact (List.sublist_cons_self _ _).append_left _
  | absent hnone => exact horderly
  | cleared => exact horderly.clear

end DescriptorSet

namespace Desk

/-- The later desk has another set in a slot, and nothing else is changed. -/
structure Refilled (slot : String) (set : DescriptorSet) (desk later : Desk) : Prop where
  others : later = { desk with sets := later.sets }
  filled : later.sets.get? slot = some set
  stays : ∀ other ≠ slot, later.sets.get? other = desk.sets.get? other

variable {slot : String} {set : DescriptorSet} {desk : Desk}

theorem Refilled.refl (h : desk.sets.get? slot = some set) : Refilled slot set desk desk :=
  ⟨rfl, h, fun _ _ => rfl⟩

theorem ends_fillSet (slot : String) (set : DescriptorSet) (desk : Desk) :
    ∃ later, (fillSet slot set).Ends desk (.returned ()) later ∧ Refilled slot set desk later := by
  refine ⟨_, ⟨rfl, rfl⟩, rfl, (Table.get?_insert ..).trans (if_pos rfl), fun other hother => ?_⟩
  exact (Table.get?_insert ..).trans (if_neg hother)

theorem ends_withSlot (h : desk.sets.get? slot = some set) {next : DescriptorSet → Action Desk Answer}
    {ending : Ending Answer} {later : Desk} (hnext : (next set).Ends desk ending later) :
    (withSlot sets slot next).Ends desk ending later := by
  refine .bind ⟨rfl, rfl⟩ ?_
  rw [h]
  exact hnext

end Desk

namespace DescriptorSet

variable {slot : String} {set : DescriptorSet} {desk : Desk}

theorem run_command_add (slot : String) (id : UInt32) (target : Waitable) :
    ((Edit.add id target).command slot).run = Desk.withSlot Desk.sets slot fun set => do
      return .count (← SetCommand.addTo slot set id target).size := by
  cases target <;> rfl

theorem ends_add_of_takes (h : desk.sets.get? slot = some set) {id : UInt32} {target : Waitable}
    (htakes : set.Takes id target) :
    ∃ later, ((Edit.add id target).command slot).run.Ends desk (.returned (.count (set.size + 1)))
      later ∧ Desk.Refilled slot (set.extended id target) desk later := by
  obtain ⟨later, hfill, hrefilled⟩ := Desk.ends_fillSet slot (set.extended id target) desk
  refine ⟨later, ?_, hrefilled⟩
  have hadded : (SetCommand.addTo slot set id target).Ends desk
      (.returned (set.extended id target)) later := by
    unfold SetCommand.addTo
    rw [add_of_takes htakes]
    exact .bind ⟨rfl, rfl⟩ (.bind hfill ⟨rfl, rfl⟩)
  have hsize : (set.extended id target).size = set.size + 1 := List.length_append
  rw [run_command_add, ← hsize]
  exact Desk.ends_withSlot h (.bind hadded ⟨rfl, rfl⟩)

theorem ends_add_of_not_takes (h : desk.sets.get? slot = some set) {id : UInt32} {target : Waitable}
    (hrefused : ¬set.Takes id target) :
    ∃ refusal : Refusal, ((Edit.add id target).command slot).run.Ends desk
      (.failed refusal.failure) desk := by
  obtain ⟨refusal, hadd⟩ := add_of_not_takes hrefused
  refine ⟨refusal, ?_⟩
  have hfailed : (SetCommand.addTo slot set id target).Ends desk (.failed refusal.failure) desk := by
    unfold SetCommand.addTo
    rw [hadd]
    exact .bind_failed ⟨rfl, rfl⟩
  rw [run_command_add]
  exact Desk.ends_withSlot h (.bind_failed hfailed)

/-- Every change comes to what it has to, and touches no other set and nothing else of the desk. -/
theorem Edit.ends_command (edit : Edit) (h : desk.sets.get? slot = some set) (horderly : set.Orderly) :
    ∃ ending entries later, edit.Comes set ending entries ∧
      (edit.command slot).run.Ends desk ending later ∧
      Desk.Refilled slot { set with entries } desk later := by
  cases edit with
  | add id target =>
    by_cases htakes : set.Takes id target
    · obtain ⟨later, hends, hrefilled⟩ := ends_add_of_takes h htakes
      exact ⟨_, _, later, .added htakes, hends, hrefilled⟩
    · obtain ⟨refusal, hends⟩ := ends_add_of_not_takes h htakes
      exact ⟨_, _, desk, .refused htakes refusal.code_failure, hends, .refl h⟩
  | remove id =>
    obtain ⟨later, hfill, hrefilled⟩ := Desk.ends_fillSet slot (set.remove id).2 desk
    have hends : ((Edit.remove id).command slot).run.Ends desk
        (.returned (.flag (set.remove id).1)) later := Desk.ends_withSlot h (.bind hfill ⟨rfl, rfl⟩)
    by_cases hmem : id ∈ set.ids
    · obtain ⟨before, target, after, hsplit, hremove⟩ := horderly.exists_remove hmem
      rw [hremove] at hends hrefilled
      exact ⟨_, _, later, .removed hsplit, hends, hrefilled⟩
    · rw [remove_of_not_mem hmem] at hends hrefilled
      exact ⟨_, _, later, .absent hmem, hends, hrefilled⟩
  | clear =>
    obtain ⟨later, hfill, hrefilled⟩ := Desk.ends_fillSet slot set.clear desk
    exact ⟨_, _, later, .cleared, Desk.ends_withSlot h (.bind hfill ⟨rfl, rfl⟩), hrefilled⟩

end DescriptorSet

open DescriptorSet

/-- A desk, and what was done to the set in one of its slots, oldest first. -/
structure Editing where
  desk : Desk
  history : List Edited := []

namespace Editing

/-- A new set is laid into a slot. -/
def start (desk : Desk) (slot : String) (capacity : Nat) (slice : Int) : Editing :=
  ⟨((SetCommand.make slot capacity slice).run.run desk).state, []⟩

/-- The set in the slot is changed. -/
def after (slot : String) (editing : Editing) (edit : Edit) : Editing :=
  let out := (edit.command slot).run.run editing.desk
  ⟨out.state, editing.history ++ [⟨edit, out.ending⟩]⟩

/-- The set in the slot is changed again and again. -/
def run (slot : String) (editing : Editing) (edits : List Edit) : Editing :=
  edits.foldl (after slot) editing

/-- The set in the slot has the capacity and the slice that it was made with, is in order, and lists
the survivors of the history. -/
structure Holds (slot : String) (capacity : Nat) (slice : Int) (editing : Editing)
    (set : DescriptorSet) : Prop where
  filled : editing.desk.sets.get? slot = some set
  capacity : set.capacity = capacity
  slice : set.slice = slice
  orderly : set.Orderly
  survivors : set.entries = survivors editing.history

variable {slot : String} {capacity : Nat} {slice : Int} {editing : Editing} {set : DescriptorSet}

theorem start_holds (desk : Desk) (slot : String) (capacity : Nat) (slice : Int) :
    (start desk slot capacity slice).Holds slot capacity slice { capacity, slice } := by
  obtain ⟨later, hfill, hrefilled⟩ := Desk.ends_fillSet slot { capacity, slice } desk
  have hmake : (SetCommand.make slot capacity slice).run.Ends desk
      (.returned (.madeSet capacity true)) later := .bind hfill ⟨rfl, rfl⟩
  refine ⟨?_, rfl, rfl, orderly_empty capacity slice, rfl⟩
  rw [start, hmake.2]
  exact hrefilled.filled

theorem Holds.after (h : editing.Holds slot capacity slice set) (edit : Edit) :
    ∃ later, (editing.after slot edit).Holds slot capacity slice later := by
  obtain ⟨ending, entries, later, hcomes, hends, hrefilled⟩ := edit.ends_command h.filled h.orderly
  refine ⟨{ set with entries }, ?_, h.capacity, h.slice, hcomes.orderly h.orderly, ?_⟩
  · rw [Editing.after, hends.2]
    exact hrefilled.filled
  · rw [Editing.after, hends.1, survivors_concat, ← h.survivors]
    exact hcomes.entries_eq h.orderly

theorem run_holds (h : editing.Holds slot capacity slice set) (edits : List Edit) :
    ∃ later, (editing.run slot edits).Holds slot capacity slice later := by
  induction edits generalizing editing set with
  | nil => exact ⟨set, h⟩
  | cons edit rest ih =>
    obtain ⟨later, hlater⟩ := h.after edit
    exact ih hlater

theorem map_history_run (slot : String) (editing : Editing) (edits : List Edit) :
    (editing.run slot edits).history.map Edited.edit = editing.history.map Edited.edit ++ edits := by
  induction edits generalizing editing with
  | nil => exact (List.append_nil _).symm
  | cons edit rest ih =>
    refine (ih (editing.after slot edit)).trans ?_
    simp [after]

/-- After any changes, a set is a map in the order of insertion: numbers are used once, there is room
for all entries, every object can be waited for, and the entries are what was added and has survived, in
the order of the additions. Look-ups agree with the entries. Each further change comes to what it has
to: an addition is taken exactly if there is room, the number is new and the object can be waited for,
and is otherwise refused as invalid; a removal says whether there was an entry, and takes out that one. -/
theorem ordered_map (desk : Desk) (slot : String) (capacity : Nat) (slice : Int)
    (edits : List Edit) :
    let editing := (start desk slot capacity slice).run slot edits
    ∃ set, editing.desk.sets.get? slot = some set ∧ set.capacity = capacity ∧
      set.ids.Nodup ∧ set.size ≤ capacity ∧ (∀ target ∈ set.targets, target.isValid = true) ∧
      editing.history.map Edited.edit = edits ∧ set.entries = survivors editing.history ∧
      (∀ id target, set.get? id = some target ↔ ⟨id, target⟩ ∈ set.entries) ∧
      (∀ id, set.contains id = true ↔ ∃ target, ⟨id, target⟩ ∈ set.entries) ∧
      ∀ edit : Edit, ∃ ending entries later, edit.Comes set ending entries ∧
        (edit.command slot).run.Ends editing.desk ending later ∧
        Desk.Refilled slot { set with entries } editing.desk later := by
  intro editing
  obtain ⟨set, h⟩ := run_holds (start_holds desk slot capacity slice) edits
  exact ⟨set, h.filled, h.capacity, h.orderly.ids, h.capacity ▸ h.orderly.size_le, h.orderly.valid,
    map_history_run slot _ edits, h.survivors, fun id target => h.orderly.get?_eq_some_iff,
    fun id => contains_iff.trans mem_ids, fun edit => edit.ends_command h.filled h.orderly⟩

end Editing

end Hotplug
