import Mathlib.Data.List.Sort
import Hotplug.Proofs.FileTree.Reordering
import Hotplug.Proofs.Sysfs.Identity
/-!
# Devices in the order of their entries

Listing the devices of a family makes one check, that its class directory can be listed if it is there, and
then looks at its entries in ascending order. A filter is applied twice: a family that it keeps out is not
looked at, and of the devices found those that do not pass are left out. What it lets pass is the same as if
everything were looked at.

## Main definitions

* `Hotplug.Sysfs.listing`: the devices that pass a filter, or why they cannot be listed.
* `Hotplug.Sysfs.Entries`, `Hotplug.Sysfs.entryDevice?`: the entries of a class directory, and the device of
  one.

## Main statements

* `Hotplug.Sysfs.ends_enumerate`: looking for devices returns the listing and changes nothing.
* `Hotplug.Sysfs.mapM_passing`: families that a filter keeps out have nothing that passes it.
* `Hotplug.Sysfs.listing_of_reordered`: the order in which directories list their names does not matter.
* `Hotplug.Sysfs.enumerate_in_order`
-/

namespace Hotplug

namespace Sysfs

variable {sysfs : Sysfs} {tree other : FileTree} {family : Family} {filter : Filter}

/-! ### Checks one after another -/

theorem eq_ok_of_map {ε α β : Type} {check : Except ε α} {f : α → β} {result : β}
    (h : check.map f = .ok result) : ∃ value, check = .ok value ∧ f value = result := by
  cases check with
  | error reason => cases h
  | ok value => exact ⟨value, rfl, Except.ok.inj h⟩

theorem eq_ok_of_mapM_cons {ε α β : Type} {check : α → Except ε β} {item : α} {items : List α}
    {values : List β} (h : (item :: items).mapM check = .ok values) :
    ∃ value rest, check item = .ok value ∧ items.mapM check = .ok rest ∧ values = value :: rest := by
  rw [List.mapM_cons] at h
  cases hitem : check item with
  | error reason =>
    rw [hitem] at h
    cases h
  | ok value =>
    cases hitems : items.mapM check with
    | error reason =>
      rw [hitem, hitems] at h
      cases h
    | ok rest =>
      rw [hitem, hitems] at h
      exact ⟨value, rest, rfl, rfl, (Except.ok.inj h).symm⟩

/-! ### What is listed -/

/-- The devices of a family, in the order of their entries. -/
def devices (sysfs : Sysfs) (tree : FileTree) (family : Family) : Except Failure (List Info) :=
  (sysfs.classEntries tree family).map fun paths =>
    paths.filterMap fun path => (sysfs.inspect tree path family).toOption

/-- The devices of a family that pass a filter. -/
def passing (sysfs : Sysfs) (tree : FileTree) (filter : Filter) (family : Family) :
    Except Failure (List Info) :=
  (sysfs.devices tree family).map (·.filter filter.passes)

theorem ends_enumerateFamily (filter : Filter) (family : Family) :
    (sysfs.enumerateFamily filter family).Ends tree (.ofCheck (sysfs.passing tree filter family)) tree := by
  have hread (paths : List String) : (paths.mapM (sysfs.read · family)).Ends tree
      (.ofCheck (paths.mapM fun path => .ok (sysfs.inspect tree path family).toOption)) tree :=
    Action.ends_mapM fun _ => ends_read
  have hmap (paths : List String) :
      (paths.mapM fun path => (.ok (sysfs.inspect tree path family).toOption : Except Failure _)) =
        .ok (paths.map fun path => (sysfs.inspect tree path family).toOption) := List.mapM_pure
  have hget : (Action.get : Action FileTree FileTree).Ends tree (.returned tree) tree := ⟨rfl, rfl⟩
  refine hget.bind ?_
  rw [passing, devices]
  cases sysfs.classEntries tree family with
  | error failure => exact (Action.ends_require _ _).bind_failed
  | ok paths =>
    refine (Action.ends_require (.ok paths) tree).bind (.bind (hmap paths ▸ hread paths) ?_)
    refine ⟨congrArg Ending.returned ?_, rfl⟩
    rw [List.filterMap_map]
    rfl

/-- The devices that pass a filter. -/
def listing (sysfs : Sysfs) (tree : FileTree) (filter : Filter) : Except Failure (List Info) :=
  ((Family.all.filter filter.admits).mapM (sysfs.passing tree filter)).map List.flatten

theorem ends_enumerate (sysfs : Sysfs) (tree : FileTree) (filter : Filter) :
    (sysfs.enumerate filter).Ends tree (.ofCheck (sysfs.listing tree filter)) tree := by
  have hfamilies : ((Family.all.filter filter.admits).mapM (sysfs.enumerateFamily filter)).Ends tree
      (.ofCheck ((Family.all.filter filter.admits).mapM (sysfs.passing tree filter))) tree :=
    Action.ends_mapM (ends_enumerateFamily filter)
  exact hfamilies.bind_check fun found => ⟨rfl, rfl⟩

/-- Where the filter names a family, that one alone is looked at. -/
theorem listing_of_family (h : filter.family = some family) :
    sysfs.listing tree filter = sysfs.passing tree filter family := by
  have hone : Family.all.filter filter.admits = [family] := by
    cases family <;> simp [Family.all, Filter.admits, h]
  rw [listing, hone, List.mapM_cons, List.mapM_nil]
  cases sysfs.passing tree filter family with
  | error failure => rfl
  | ok found => exact congrArg Except.ok (List.append_nil found)

/-! ### Which entries there are -/

theorem mergeSort_eq_of_perm {names sorted : List String} (hperm : names.Perm sorted)
    (hascending : sorted.Pairwise (· ≤ ·)) : names.mergeSort (· ≤ ·) = sorted :=
  List.Perm.eq_of_pairwise' (List.pairwise_mergeSort' (· ≤ ·) _) hascending
    ((List.mergeSort_perm _ _).trans hperm)

/-- The names of the entries of a class directory, in ascending order. A missing directory has none. -/
inductive Entries (sysfs : Sysfs) (tree : FileTree) (family : Family) : List String → Prop
  | missing (hlist : tree.list (sysfs.classPath family) = .error (.number .noEntry)) :
    Entries sysfs tree family []
  | sorted {listed names : List String} (hlist : tree.list (sysfs.classPath family) = .ok listed)
    (hperm : names.Perm listed) (hascending : names.Pairwise (· ≤ ·)) : Entries sysfs tree family names

/-- The device of an entry of a class directory, if it is not passed over. -/
def entryDevice? (sysfs : Sysfs) (tree : FileTree) (family : Family) (name : String) : Option Info :=
  (sysfs.inspect tree (Path.join (sysfs.classPath family) name) family).toOption

theorem devices_eq_ok {found : List Info} (h : sysfs.devices tree family = .ok found) :
    ∃ names, sysfs.Entries tree family names ∧
      found = names.filterMap (sysfs.entryDevice? tree family) := by
  rw [devices, classEntries] at h
  cases hlist : tree.list (sysfs.classPath family) with
  | ok listed =>
    simp only [hlist] at h
    cases h
    exact ⟨listed.mergeSort (· ≤ ·), .sorted hlist (List.mergeSort_perm _ _)
      (List.pairwise_mergeSort' (· ≤ ·) _), List.filterMap_map⟩
  | error error =>
    cases error with
    | kind kind text =>
      simp only [hlist] at h
      cases h
    | number errno =>
      simp only [hlist] at h
      split at h
      · next hmissing =>
        cases h
        exact ⟨[], .missing (hmissing ▸ hlist), rfl⟩
      · cases h

/-- A family cannot be listed if its class directory is there and cannot be listed. -/
theorem devices_fails_iff : (∃ failure, sysfs.devices tree family = .error failure) ↔
    ∃ error, tree.list (sysfs.classPath family) = .error error ∧ error ≠ .number .noEntry := by
  rw [devices, classEntries]
  cases hlist : tree.list (sysfs.classPath family) with
  | ok listed =>
    exact iff_of_false (by rintro ⟨_, h⟩; cases h) (by rintro ⟨_, h, -⟩; cases h)
  | error error =>
    cases error with
    | kind kind text => exact iff_of_true ⟨_, rfl⟩ ⟨_, rfl, by simp⟩
    | number errno =>
      dsimp only
      split
      · next hmissing =>
        refine iff_of_false (by rintro ⟨_, h⟩; cases h) ?_
        rintro ⟨_, h, hother⟩
        cases h
        exact hother (hmissing ▸ rfl)
      · next hother =>
        refine iff_of_true ⟨_, rfl⟩ ⟨_, rfl, ?_⟩
        simpa using hother

/-! ### Filters -/

theorem family_of_devices {found : List Info} (h : sysfs.devices tree family = .ok found) {info : Info}
    (hinfo : info ∈ found) : info.family = family := by
  obtain ⟨names, -, rfl⟩ := devices_eq_ok h
  obtain ⟨name, -, hdevice⟩ := List.mem_filterMap.1 hinfo
  obtain ⟨-, -, -, -, -, -, -, -, hfamily, -⟩ := inspect_eq_ok (eq_ok_of_toOption hdevice)
  exact hfamily

/-- Leaving out the families that a filter keeps out leaves out what does not pass. -/
theorem mapM_passing {families : List Family} {founds : List (List Info)}
    (h : families.mapM (sysfs.devices tree) = .ok founds) (filter : Filter) :
    ((families.filter filter.admits).mapM (sysfs.passing tree filter)).map List.flatten =
      .ok (founds.flatten.filter filter.passes) := by
  induction families generalizing founds with
  | nil =>
    cases h
    rfl
  | cons family families ih =>
    obtain ⟨found, rest, hfound, hrest, rfl⟩ := eq_ok_of_mapM_cons h
    obtain ⟨kept, hkept, hflat⟩ := eq_ok_of_map (ih hrest)
    rw [List.flatten_cons, List.filter_append, ← hflat]
    by_cases hadmits : filter.admits family = true
    · rw [List.filter_cons_of_pos hadmits, List.mapM_cons, passing, hfound, hkept]
      rfl
    · -- What the filter keeps out has devices of its own, but none of them passes.
      have hnone : found.filter filter.passes = [] := by
        refine List.filter_eq_nil_iff.2 fun info hinfo hpasses => hadmits ?_
        exact family_of_devices hfound hinfo ▸ Filter.admits_of_passes hpasses
      rw [List.filter_cons_of_neg hadmits, hkept, hnone]
      rfl

theorem listing_any : sysfs.listing tree .any = (Family.all.mapM (sysfs.devices tree)).map List.flatten := by
  have hall : sysfs.passing tree .any = sysfs.devices tree := by
    funext family
    rw [passing]
    cases sysfs.devices tree family with
    | error failure => rfl
    | ok found => exact congrArg Except.ok (List.filter_eq_self.2 fun _ _ => rfl)
  have hadmits : Family.all.filter Filter.any.admits = Family.all := rfl
  rw [listing, hall, hadmits]

/-- What passes a filter is what is listed without one, less what does not pass. -/
theorem listing_of_any {found : List Info} (h : sysfs.listing tree .any = .ok found) (filter : Filter) :
    sysfs.listing tree filter = .ok (found.filter filter.passes) := by
  rw [listing_any] at h
  obtain ⟨founds, hfounds, rfl⟩ := eq_ok_of_map h
  exact mapM_passing hfounds filter

/-- Human interface devices come first, and each family in the order of its entries. -/
theorem entries_of_any {found : List Info} (h : sysfs.listing tree .any = .ok found) :
    ∃ hid serial, sysfs.Entries tree .hid hid ∧ sysfs.Entries tree .serial serial ∧
      found = hid.filterMap (sysfs.entryDevice? tree .hid) ++
        serial.filterMap (sysfs.entryDevice? tree .serial) := by
  rw [listing_any] at h
  obtain ⟨founds, hfounds, rfl⟩ := eq_ok_of_map h
  obtain ⟨first, others, hhid, hothers, rfl⟩ := eq_ok_of_mapM_cons hfounds
  obtain ⟨second, none, hserial, hnone, rfl⟩ := eq_ok_of_mapM_cons hothers
  cases hnone
  obtain ⟨hid, hentries, rfl⟩ := devices_eq_ok hhid
  obtain ⟨serial, hentries', rfl⟩ := devices_eq_ok hserial
  exact ⟨hid, serial, hentries, hentries', by simp⟩

theorem listing_any_of_classEntries {hids serials : List String}
    (hhid : sysfs.classEntries tree .hid = .ok hids)
    (hserial : sysfs.classEntries tree .serial = .ok serials) : sysfs.listing tree .any =
      .ok (hids.filterMap (fun path => (sysfs.inspect tree path .hid).toOption) ++
        serials.filterMap fun path => (sysfs.inspect tree path .serial).toOption) := by
  rw [listing_any, Family.all, List.mapM_cons, List.mapM_cons, List.mapM_nil, devices, devices, hhid,
    hserial]
  exact congrArg (Except.ok <| _ ++ ·) (List.append_nil _)

/-- With a family to look for, its own class directory alone can make the listing fail. -/
theorem listing_fails_iff (h : filter.family = some family) :
    (∃ failure, sysfs.listing tree filter = .error failure) ↔
      ∃ error, tree.list (sysfs.classPath family) = .error error ∧ error ≠ .number .noEntry := by
  rw [listing_of_family h, ← devices_fails_iff, passing]
  cases sysfs.devices tree family with
  | ok found => exact iff_of_false (by rintro ⟨_, h⟩; cases h) (by rintro ⟨_, h⟩; cases h)
  | error failure => exact iff_of_true ⟨failure, rfl⟩ ⟨failure, rfl⟩

/-! ### Directories in another order -/

section Reordered

variable (h : FileTree.Reordered tree other)

include h

theorem inspect_of_reordered (path : String) (family : Family) :
    sysfs.inspect tree path family = sysfs.inspect other path family := by
  simp only [inspect, nearestWith?, nodeName?, identify, hexAttribute, requiredAttribute, attribute?,
    interfaceNumber?, h.follow, h.isThere, h.isFile, h.readText]

theorem classEntries_of_reordered (family : Family) :
    sysfs.classEntries tree family = sysfs.classEntries other family := by
  rcases h.list (sysfs.classPath family) with hlist | ⟨names, names', hlist, hlist', hperm⟩
  · rw [classEntries, classEntries, hlist]
  · -- There is one way to put the names into ascending order.
    have hsorted : names.mergeSort (· ≤ ·) = names'.mergeSort (· ≤ ·) :=
      mergeSort_eq_of_perm (hperm.trans (List.mergeSort_perm _ _).symm)
        (List.pairwise_mergeSort' (· ≤ ·) _)
    simp only [classEntries, hlist, hlist', hsorted]

/-- The order in which directories list their names does not matter. -/
theorem listing_of_reordered (filter : Filter) : sysfs.listing tree filter = sysfs.listing other filter := by
  have hpassing : sysfs.passing tree filter = sysfs.passing other filter := by
    funext family
    simp only [passing, devices, classEntries_of_reordered h, inspect_of_reordered h]
  rw [listing, listing, hpassing]

end Reordered

/-- Looking for devices returns or fails. If it returns without a filter, then with each filter it
returns those devices that pass, in the same order: human interface devices first, and each family in
ascending order of the names of its entries. Neither what it returns nor how it fails depends on the order
in which directories list their names. With a family to look for it fails exactly if the class directory
of that family is there and cannot be listed. -/
theorem enumerate_in_order (sysfs : Sysfs) (tree : FileTree) :
    (∀ filter, ((sysfs.enumerate filter).run tree).ending ≠ .unending) ∧
    (∀ found, ((sysfs.enumerate .any).run tree).ending = .returned found →
      (∀ filter, ((sysfs.enumerate filter).run tree).ending = .returned (found.filter filter.passes)) ∧
      ∃ hid serial, sysfs.Entries tree .hid hid ∧ sysfs.Entries tree .serial serial ∧
        found = hid.filterMap (sysfs.entryDevice? tree .hid) ++
          serial.filterMap (sysfs.entryDevice? tree .serial)) ∧
    (∀ other, FileTree.Reordered tree other → ∀ filter,
      ((sysfs.enumerate filter).run other).ending = ((sysfs.enumerate filter).run tree).ending) ∧
    ∀ filter family, filter.family = some family →
      ((∃ failure, ((sysfs.enumerate filter).run tree).ending = .failed failure) ↔
        ∃ error, tree.list (sysfs.classPath family) = .error error ∧ error ≠ .number .noEntry) := by
  have hends (filter : Filter) : ((sysfs.enumerate filter).run tree).ending =
      .ofCheck (sysfs.listing tree filter) := (sysfs.ends_enumerate tree filter).1
  refine ⟨fun filter => ?_, fun found hfound => ?_, fun other h filter => ?_, fun filter family h => ?_⟩
  · rw [hends]
    exact Ending.ofCheck_ne_unending _
  · rw [hends, Ending.ofCheck_eq_returned_iff] at hfound
    refine ⟨fun filter => ?_, entries_of_any hfound⟩
    rw [hends, Ending.ofCheck_eq_returned_iff]
    exact listing_of_any hfound filter
  · rw [hends, (sysfs.ends_enumerate other filter).1, listing_of_reordered h]
  · simp only [hends, Ending.ofCheck_eq_failed_iff]
    exact listing_fails_iff h

/-- The port with two more entries in its class directory: one leads nowhere, the other to the port. -/
def crowdedTree : FileTree where
  nodes := portTree.nodes ++ [
    (["mnt", "class", "tty", "console"], .link "../../nowhere"),
    (["mnt", "class", "tty", "ACM"], .link "../../devices/1-1/1-1:1.0/ttyACM0")]

theorem list_crowded :
    crowdedTree.list (portRoots.classPath .hid) = .error (.number .noEntry) ∧
    crowdedTree.list (portRoots.classPath .serial) = .ok ["ttyACM0", "console", "ACM"] := by
  simp only [FileTree.list, FileTree.resolve, FileTree.follow, FileTree.walk_eq_walkLinks]
  decide +kernel

theorem mergeSort_crowded :
    ["ttyACM0", "console", "ACM"].mergeSort (· ≤ ·) = ["ACM", "console", "ttyACM0"] :=
  mergeSort_eq_of_perm (by decide) (by decide)

theorem inspect_crowded :
    portRoots.inspect crowdedTree "/sys/class/tty/ACM" .serial = .ok port ∧
    portRoots.inspect crowdedTree "/sys/class/tty/console" .serial = .error .notThere ∧
    portRoots.inspect crowdedTree "/sys/class/tty/ttyACM0" .serial = .ok port := by
  simp only [inspect, nearestWith?, nodeName?, identify, hexAttribute, requiredAttribute, attribute?,
    interfaceNumber?, FileTree.isFile, FileTree.isThere, FileTree.readText, FileTree.read,
    FileTree.resolve, FileTree.follow, FileTree.walk_eq_walkLinks]
  decide +kernel

theorem classEntries_crowded : portRoots.classEntries crowdedTree .hid = .ok [] ∧
    portRoots.classEntries crowdedTree .serial =
      .ok ["/sys/class/tty/ACM", "/sys/class/tty/console", "/sys/class/tty/ttyACM0"] := by
  simp only [classEntries, list_crowded, mergeSort_crowded]
  decide

theorem listing_crowded : portRoots.listing crowdedTree .any = .ok [port, port] := by
  obtain ⟨hfirst, hsecond, hthird⟩ := inspect_crowded
  rw [listing_any_of_classEntries classEntries_crowded.1 classEntries_crowded.2]
  simp only [List.filterMap_cons, List.filterMap_nil, hfirst, hsecond, hthird]
  rfl

/-- Without a filter, with one that nothing passes, with the directories the other way round, and for a
family whose class directory is missing. -/
theorem enumerate_in_order_crowded :
    let reversed : FileTree := { crowdedTree with nodes := crowdedTree.nodes.reverse }
    ((portRoots.enumerate .any).run crowdedTree).ending = .returned [port, port] ∧
      ((portRoots.enumerate { vid := some 1 }).run crowdedTree).ending = .returned [] ∧
      FileTree.Reordered crowdedTree reversed ∧
      ((portRoots.enumerate .any).run reversed).ending = .returned [port, port] ∧
      ¬∃ failure, ((portRoots.enumerate { family := some .hid }).run crowdedTree).ending =
        .failed failure := by
  intro reversed
  obtain ⟨-, hany, horder, hfails⟩ := enumerate_in_order portRoots crowdedTree
  have hfound : ((portRoots.enumerate .any).run crowdedTree).ending = .returned [port, port] := by
    rw [(portRoots.ends_enumerate crowdedTree .any).1, listing_crowded, Ending.ofCheck]
  have hreordered : FileTree.Reordered crowdedTree reversed :=
    .of_perm rfl (List.reverse_perm _).symm (by decide)
  refine ⟨hfound, ((hany _ hfound).1 _).trans (by decide), hreordered,
    (horder reversed hreordered .any).trans hfound, fun h => ?_⟩
  obtain ⟨error, herror, hother⟩ := (hfails _ .hid rfl).1 h
  rw [list_crowded.1] at herror
  cases herror
  exact hother rfl

end Sysfs

end Hotplug
