import Mathlib.Data.List.Infix
import Hotplug.Proofs.FileTree.Walking
import Hotplug.Proofs.Hoare
import Hotplug.Proofs.Hub.Replay
import Hotplug.Uevent.Source
/-!
# Devices keep their identity

A device is found in three ways: through its entry in a class directory, by the path that an event
names, and not at all, when an event says that it is gone. Its key is the same in all of them.

## Main statements

* `Hotplug.Sysfs.provenance_of_inspect`: where everything that is known of a device comes from.
* `Hotplug.Sysfs.inspect_key`: the key of a device leads back to it.
* `Hotplug.Sysfs.key_of_inspect`: a path without links is the key of the device that it leads to.
* `Hotplug.Sysfs.identity_agrees`
-/

namespace Hotplug

namespace Sysfs

variable {sysfs : Sysfs} {tree : FileTree} {path : String} {family : Family} {info : Info}
  {root place inner : FileTree.Place}

/-! ### One device -/

theorem eq_ok_of_bind {ε α β : Type} {first : Except ε α} {next : α → Except ε β} {result : β}
    (h : (first >>= next) = .ok result) : ∃ value, first = .ok value ∧ next value = .ok result := by
  cases first with
  | error _ => cases h
  | ok value => exact ⟨value, rfl, h⟩

theorem orSkip_eq_ok {α : Type} {skip : Skip} {value? : Option α} {value : α}
    (h : orSkip skip value? = .ok value) : value? = some value := by
  cases value? with
  | none => cases h
  | some _ => exact congrArg some (Except.ok.inj h)

theorem orSkip_bind_eq_ok {α β : Type} {skip : Skip} {value? : Option α} {next : α → Except Skip β}
    {result : β} (h : (orSkip skip value? >>= next) = .ok result) :
    ∃ value, value? = some value ∧ next value = .ok result := by
  obtain ⟨value, hvalue, hnext⟩ := eq_ok_of_bind h
  exact ⟨value, orSkip_eq_ok hvalue, hnext⟩

theorem eq_ok_of_toOption {ε α : Type} {result : Except ε α} {value : α}
    (h : result.toOption = some value) : result = .ok value := by
  cases result with
  | error _ => cases h
  | ok _ =>
    cases h
    rfl

/-- Where everything that is known of a device comes from: the place that its path leads to, the directories
of its interface and of the device that it is a part of, and the name of its node. -/
structure Provenance (sysfs : Sysfs) (tree : FileTree) (path : String) (info : Info)
    (root directory interface device : FileTree.Place) (name : String) : Prop where
  unbroken : '\x00' ∉ path.toList
  follow_path : tree.follow path = .ok directory
  follow_root : tree.follow sysfs.root = .ok root
  inside : root <+: directory
  nearest_interface : nearestWith? tree root directory ["bInterfaceNumber"] = some interface
  nearest_device : nearestWith? tree root directory ["idVendor", "busnum"] = some device
  node_name : (nodeName? tree directory <|> directory.getLast?) = some name
  key : info.key = "/" ++ String.intercalate "/" (directory.drop root.length)
  node_path : info.path = Path.join sysfs.devRoot name
  there : tree.isThere info.path = true
  identity : identify tree device = .ok (info.vid, info.pid, info.location)
  number : interfaceNumber? tree interface = some info.interface
  manufacturer : info.manufacturer = attribute? tree device "manufacturer"
  product : info.product = attribute? tree device "product"
  serialNumber : info.serialNumber = attribute? tree device "serial"

theorem provenance_of_inspect (h : sysfs.inspect tree path family = .ok info) :
    info.family = family ∧ ∃ root directory interface device name,
      sysfs.Provenance tree path info root directory interface device name := by
  unfold inspect at h
  split at h
  · cases h
  · next hzero =>
    dsimp only at h
    obtain ⟨directory, hdirectory, h⟩ := orSkip_bind_eq_ok h
    obtain ⟨root, hroot, h⟩ := orSkip_bind_eq_ok h
    split at h
    · cases h
    · next hinside =>
      obtain ⟨interface, hinterface, h⟩ := orSkip_bind_eq_ok h
      obtain ⟨device, hdevice, h⟩ := orSkip_bind_eq_ok h
      obtain ⟨name, hname, h⟩ := orSkip_bind_eq_ok h
      split at h
      · cases h
      · next hthere =>
        cases hidentity : identify tree device with
        | error reason =>
          rw [hidentity] at h
          cases h
        | ok identity =>
          rw [hidentity] at h
          obtain ⟨number, hnumber, h⟩ := orSkip_bind_eq_ok h
          cases h
          refine ⟨rfl, root, directory, interface, device, name, ?_⟩
          exact {
            unbroken := by simpa using hzero
            follow_path := eq_ok_of_toOption hdirectory
            follow_root := eq_ok_of_toOption hroot
            inside := by simpa using hinside
            nearest_interface := hinterface
            nearest_device := hdevice
            node_name := hname
            key := rfl
            node_path := rfl
            there := by simpa using hthere
            identity := hidentity
            number := hnumber
            manufacturer := rfl
            product := rfl
            serialNumber := rfl }

/-- What is known of a device comes from its directory, which is below the root. -/
theorem inspect_eq_ok (h : sysfs.inspect tree path family = .ok info) :
    ∃ directory root interface, '\x00' ∉ path.toList ∧ tree.follow path = .ok directory ∧
      tree.follow sysfs.root = .ok root ∧ root <+: directory ∧
      nearestWith? tree root directory ["bInterfaceNumber"] = some interface ∧
      info.family = family ∧
      info.key = "/" ++ String.intercalate "/" (directory.drop root.length) := by
  obtain ⟨hfamily, root, directory, interface, _, _, known⟩ := provenance_of_inspect h
  exact ⟨directory, root, interface, known.unbroken, known.follow_path, known.follow_root,
    known.inside, known.nearest_interface, hfamily, known.key⟩

/-- What is known of a device depends on the place alone that its path leads to. -/
theorem inspect_congr {other : String} (hzero : '\x00' ∉ path.toList)
    (hother : '\x00' ∉ other.toList) (h : tree.follow other = tree.follow path) :
    sysfs.inspect tree other family = sysfs.inspect tree path family := by
  have hpath : path.toList.contains '\x00' = false := by simpa using hzero
  have hpath' : other.toList.contains '\x00' = false := by simpa using hother
  unfold inspect
  rw [hpath, hpath', h]

/-- A place is strictly between two others. -/
structure Between (root place inner : FileTree.Place) : Prop where
  below : root <+: inner
  ne_root : inner ≠ root
  above : inner <+: place
  ne_place : inner ≠ place

theorem between_of_mem_above (h : inner ∈ above root place) : Between root place inner := by
  fun_induction above root place with
  | case1 => cases h
  | case2 name rest parent hinside ih =>
    have hroot := List.isPrefixOf_iff_prefix.1 hinside.1
    have hparent : parent <+: name :: rest := List.dropLast_prefix _
    have hnot : ¬name :: rest <+: parent := by
      intro hprefix
      have hlength : rest.length + 1 ≤ (name :: rest).dropLast.length := hprefix.length_le
      rw [List.length_dropLast, List.length_cons] at hlength
      omega
    rcases List.mem_cons.1 h with rfl | hmem
    · exact ⟨hroot, hinside.2, hparent, fun heq => hnot (heq ▸ List.prefix_refl _)⟩
    · have hbetween := ih hmem
      exact ⟨hbetween.below, hbetween.ne_root, hbetween.above.trans hparent,
        fun heq => hnot (heq ▸ hbetween.above)⟩
  | case3 => cases h

theorem Between.ne (h : Between root place inner) : place ≠ root := by
  rintro rfl
  exact h.ne_place (h.above.sublist.antisymm h.below.sublist)

theorem between_of_nearestWith? {files : List String}
    (h : nearestWith? tree root place files = some inner) : Between root place inner :=
  between_of_mem_above (List.mem_of_find?_eq_some h)

/-- The key of a device leads back to it. -/
theorem inspect_key (hwell : tree.WellFormed) (hzero : '\x00' ∉ sysfs.root.toList)
    (h : sysfs.inspect tree path family = .ok info) :
    sysfs.inspect tree (Path.join sysfs.root (Path.relative info.key)) family = .ok info := by
  obtain ⟨directory, root, interface, hpath, hdirectory, hroot, hinside, hinterface, -, hkey⟩ :=
    inspect_eq_ok h
  obtain ⟨names, rfl⟩ := hinside
  have hreal := hwell.real_of_follow hdirectory
  have hnamed : ∀ name ∈ names, Path.IsName name ∧ '\x00' ∉ name.toList := fun name hname =>
    hwell.named_of_real hreal name (List.mem_append_right root hname)
  have hnames : ∀ name ∈ names, Path.IsName name := fun name hname => (hnamed name hname).1
  have hne : names ≠ [] := by
    rintro rfl
    exact (between_of_nearestWith? hinterface).ne (List.append_nil root)
  rw [List.drop_left] at hkey
  have hback := FileTree.follow_below hroot hreal hnames hne
  rw [hkey, Path.relative_intercalate hnames, ← h]
  refine inspect_congr hpath ?_ (hback.trans hdirectory.symm)
  exact Path.not_mem_join (by decide) hzero fun name hname => (hnamed name hname).2

/-- From the place of the root on, none of the names is that of a link. -/
def Linkless (sysfs : Sysfs) (tree : FileTree) (names : List String) : Prop :=
  ∀ root, tree.follow sysfs.root = .ok root → ∀ before name target, before ++ [name] <+: names →
    tree.node? (root ++ before ++ [name]) ≠ some (.link target)

/-- A path below the root, of names none of which is that of a link, is the key of the device that it
leads to. -/
theorem key_of_inspect {names : List String} (hnames : ∀ name ∈ names, Path.IsName name)
    (hlinks : sysfs.Linkless tree names)
    (h : sysfs.inspect tree (Path.join sysfs.root (String.intercalate "/" names)) family = .ok info) :
    info.key = "/" ++ String.intercalate "/" names := by
  obtain ⟨directory, root, interface, -, hdirectory, hroot, -, -, -, hkey⟩ := inspect_eq_ok h
  have hplace := FileTree.eq_of_follow_below hroot hdirectory hnames (hlinks root hroot)
  rw [hkey, hplace, List.drop_left]

/-! ### All devices -/

theorem run_read (h : sysfs.inspect tree path family = .ok info) :
    (sysfs.read path family).run tree = ⟨.returned (some info), tree, []⟩ := by
  have hget : (Action.get : Action FileTree FileTree).run tree = ⟨.returned tree, tree, []⟩ := rfl
  rw [read, Action.run_bind_returned hget, h]
  rfl

theorem ends_read_of_skip {skip : Skip} (h : sysfs.inspect tree path family = .error skip) :
    (sysfs.read path family).Ends tree (.returned none) tree := by
  refine .bind ⟨rfl, rfl⟩ ?_
  rw [h]
  exact .bind (Action.ends_forIn_say skip.diagnostics Report.diagnostic tree) ⟨rfl, rfl⟩

/-- Looking at a path changes nothing, and returns what is known of the device there. -/
theorem ends_read : (sysfs.read path family).Ends tree
    (.returned (sysfs.inspect tree path family).toOption) tree := by
  cases h : sysfs.inspect tree path family with
  | error skip => exact ends_read_of_skip h
  | ok info =>
    rw [Action.Ends, run_read h]
    exact ⟨rfl, rfl⟩

theorem hoare_read : (sysfs.read path family).Hoare (· = tree) fun ending state =>
    state = tree ∧ ∀ found, ending = .returned found →
      ∀ info, found = some info → sysfs.inspect tree path family = .ok info := by
  rintro state rfl
  have hread : (sysfs.read path family).Ends state _ state := ends_read
  refine ⟨hread.2, fun found hfound info hinfo => eq_ok_of_toOption ?_⟩
  rw [← hinfo]
  exact Ending.returned.inj (hread.1.symm.trans hfound)

theorem inspect_of_read
    (h : ((sysfs.read path family).run tree).ending = .returned (some info)) :
    sysfs.inspect tree path family = .ok info :=
  (hoare_read tree rfl).2 _ h info rfl

/-- What an event says of a device that it names by a path without links. -/
theorem key_of_deviceAt {names : List String} (hnames : ∀ name ∈ names, Path.IsName name)
    (hlinks : sysfs.Linkless tree names)
    (h : ((sysfs.deviceAt (FileTree.placePath names) family).run tree).ending =
      .returned (some info)) : info.key = FileTree.placePath names := by
  rw [deviceAt, FileTree.placePath, Path.relative_intercalate hnames] at h
  exact key_of_inspect hnames hlinks (inspect_of_read h)

/-- The device is in the tree, at a path that is taken apart as it stands. -/
def Finds (sysfs : Sysfs) (tree : FileTree) (info : Info) : Prop :=
  '\x00' ∉ sysfs.root.toList ∧ ∃ path, sysfs.inspect tree path info.family = .ok info

/-- No class directory is read whose path holds a zero character. -/
theorem not_mem_root_of_classEntries {paths : List String}
    (h : sysfs.classEntries tree family = .ok paths) : '\x00' ∉ sysfs.root.toList := by
  intro hmem
  have hclass : '\x00' ∈ (sysfs.classPath family).toList :=
    Path.mem_join_left (by cases family <;> rfl) (Path.mem_join_left rfl hmem)
  have hlist : tree.list (sysfs.classPath family) = .error FileTree.zeroInPath := by
    rw [FileTree.list, if_pos (by simpa using hclass)]
  rw [classEntries] at h
  simp only [hlist, FileTree.zeroInPath] at h
  cases h

theorem hoare_enumerateFamily (filter : Filter) :
    (sysfs.enumerateFamily filter family).Hoare (· = tree) fun ending state =>
      state = tree ∧ ∀ found, ending = .returned found → ∀ info ∈ found, sysfs.Finds tree info := by
  have hget : (Action.get : Action FileTree FileTree).Hoare (· = tree) fun ending state =>
      ∃ known, ending = .returned known ∧ known = tree ∧ state = tree :=
    .get fun state hstate => ⟨state, rfl, hstate, hstate⟩
  refine .bind_returned hget fun known => .given (fun _ h => h.1) ?_
  rintro rfl
  cases hpaths : sysfs.classEntries known family with
  | error failure => exact fun state hstate => ⟨hstate.2, nofun⟩
  | ok paths =>
    have hzero := not_mem_root_of_classEntries hpaths
    have hread : (paths.mapM (sysfs.read · family)).Hoare (· = known) fun ending state =>
        state = known ∧ ∀ infos, ending = .returned infos →
          ∀ found ∈ infos, ∀ info, found = some info → sysfs.Finds known info := by
      refine .mapM fun path => hoare_read.weaken fun ending state h => ⟨h.1, ?_⟩
      intro found hfound info hinfo
      have hinspect := h.2 found hfound info hinfo
      obtain ⟨-, -, -, -, -, -, -, -, hfamily, -⟩ := inspect_eq_ok hinspect
      exact ⟨hzero, path, hfamily ▸ hinspect⟩
    have hrequire : (Action.require (.ok paths) : Action FileTree _) = pure paths := rfl
    rw [hrequire, pure_bind]
    refine .bind (hread.strengthen fun _ h => h.2) (fun infos => ?_) (fun _ _ h => ⟨h.1, nofun⟩)
      fun _ h => ⟨h.1, nofun⟩
    refine .pure fun state h => ⟨h.1, fun found hfound info hinfo => ?_⟩
    cases hfound
    obtain ⟨some?, hmem, hsome⟩ := List.mem_filterMap.1 (List.mem_filter.1 hinfo).1
    exact h.2 infos rfl some? hmem info hsome

/-- Every device that is listed is in the tree. -/
theorem hoare_enumerate (filter : Filter) :
    (sysfs.enumerate filter).Hoare (· = tree) fun ending state =>
      state = tree ∧ ∀ found, ending = .returned found → ∀ info ∈ found, sysfs.Finds tree info := by
  have hfamilies : ((Family.all.filter filter.admits).mapM (sysfs.enumerateFamily filter)).Hoare
      (· = tree) fun ending state => state = tree ∧ ∀ founds, ending = .returned founds →
        ∀ found ∈ founds, ∀ info ∈ found, sysfs.Finds tree info :=
    .mapM fun _ => hoare_enumerateFamily filter
  refine .bind hfamilies (fun founds => ?_) (fun _ _ h => ⟨h.1, nofun⟩) fun _ h => ⟨h.1, nofun⟩
  refine .pure fun state h => ⟨h.1, fun found hfound info hinfo => ?_⟩
  cases hfound
  obtain ⟨part, hpart, hmem⟩ := List.mem_flatten.1 hinfo
  exact h.2 founds rfl part hpart info hmem

end Sysfs

/-! ### Events -/

theorem Family.ofSubsystem?_subsystem (family : Family) :
    Family.ofSubsystem? family.subsystem = some family := by
  cases family <;> decide

namespace UeventSocket

variable {socket : UeventSocket} {devpath subsystem : String} {family : Family}

/-- An event that says that a device is gone tells its key. -/
theorem run_translate_remove (hsubsystem : Family.ofSubsystem? subsystem = some family)
    (hadmits : socket.filter.admits family = true) (devname : Option String) (kernel : Kernel) :
    (socket.translate ⟨.remove, devpath, subsystem, devname⟩).run kernel =
      ⟨.returned (some (.removed devpath)), kernel, []⟩ := by
  rw [translate, hsubsystem]
  simp [hadmits]

theorem run_translate_add {info : Info} {kernel : Kernel}
    (hsubsystem : Family.ofSubsystem? subsystem = some info.family)
    (hpasses : socket.filter.passes info = true) (devname : Option String)
    (hdevice : (socket.sysfs.deviceAt devpath info.family).run kernel.tree =
      ⟨.returned (some info), kernel.tree, []⟩) :
    (socket.translate ⟨.add, devpath, subsystem, devname⟩).run kernel =
      ⟨.returned (some (.added info)), kernel, []⟩ := by
  have hon : ((socket.sysfs.deviceAt devpath info.family).on Kernel.tree
      fun tree kernel => { kernel with tree }).run kernel = ⟨.returned (some info), kernel, []⟩ := by
    rw [Action.run_on, hdevice]
  rw [translate, hsubsystem]
  simp only [Filter.admits_of_passes hpasses, Bool.not_true, Bool.false_eq_true, if_false]
  rw [Action.run_bind_returned hon]
  simp [hpasses]

/-- An event that brings a device in is one of a family of interest, and tells what is in the tree at
the path of the event. -/
theorem translate_add_cases {devname : Option String} {kernel : Kernel} {info : Info}
    (h : ((socket.translate ⟨.add, devpath, subsystem, devname⟩).run kernel).ending =
      .returned (some (.added info))) :
    ∃ family, Family.ofSubsystem? subsystem = some family ∧ socket.filter.admits family = true ∧
      ((socket.sysfs.deviceAt devpath family).run kernel.tree).ending = .returned (some info) := by
  rw [translate] at h
  cases hsubsystem : Family.ofSubsystem? subsystem with
  | none =>
    rw [hsubsystem] at h
    cases h
  | some family =>
    simp only [hsubsystem] at h
    by_cases hadmits : socket.filter.admits family = true
    · refine ⟨family, rfl, hadmits, ?_⟩
      rw [if_neg (by simpa using hadmits)] at h
      generalize hout : (socket.sysfs.deviceAt devpath family).run kernel.tree = out
      rw [Action.run_bind, Action.run_on, hout] at h
      obtain ⟨ending, tree, reports⟩ := out
      cases ending with
      | failed failure => cases h
      | unending => cases h
      | returned found =>
        have hnotice : (found.filter socket.filter.passes).map Notice.added = some (.added info) :=
          Ending.returned.inj h
        obtain ⟨known, hknown, heq⟩ := Option.map_eq_some_iff.1 hnotice
        cases heq
        rw [(Option.filter_eq_some_iff.1 hknown).1]
    · rw [if_pos (by simpa using hadmits)] at h
      cases h

end UeventSocket

namespace Watch

variable {ω : Type} {watch : Watch ω} {roster : Roster ω} {identity : Identity} {id : RecordId}

theorem find?_apply {notice : Notice} (hfound : roster.registry.find? identity = some id)
    (hkept : notice ≠ .removed identity.key) :
    (watch.apply roster notice).1.registry.find? identity = some id := by
  cases notice with
  | added info =>
    by_cases h : watch.filter.passes info = true ∧
      (roster.registry.find? info.identity).isNone = true
    · have hother : identity ≠ info.identity := by
        rintro rfl
        simp [hfound] at h
      rw [apply, appear_of_absent h.1 h.2]
      change (roster.registry.insert info.identity _).find? identity = _
      rw [Registry.find?_insert, if_neg hother, hfound]
    · rw [apply, appear_of_not h, hfound]
  | removed key =>
    have hother : identity.key ≠ key := fun heq => hkept (heq ▸ rfl)
    change (roster.registry.without key).find? identity = _
    rw [Registry.find?_without, if_neg hother, hfound]

/-- A record stays in the registry until its device is removed. -/
theorem find?_applyAll {notices : List Notice} (hfound : roster.registry.find? identity = some id)
    (hkept : .removed identity.key ∉ notices) :
    (watch.applyAll roster notices).1.registry.find? identity = some id := by
  induction notices generalizing roster with
  | nil => exact hfound
  | cons notice rest ih =>
    obtain ⟨hnotice, hrest⟩ := List.ne_and_not_mem_of_not_mem_cons hkept
    exact ih (find?_apply hfound hnotice.symm) hrest

/-- A removal hits the record that an appearance under the same key made. -/
theorem removed_of_added {info : Info} {between : List Notice}
    (h : .added id ∈ (watch.apply roster (.added info)).2) (hkept : .removed info.key ∉ between) :
    .removed id ∈ (watch.applyAll (watch.apply roster (.added info)).1
      (between ++ [.removed info.key])).2 := by
  have hfound : (watch.apply roster (.added info)).1.registry.find? info.identity = some id := by
    by_cases hcase : watch.filter.passes info = true ∧
      (roster.registry.find? info.identity).isNone = true
    · rw [apply, appear_of_absent hcase.1 hcase.2] at h ⊢
      obtain rfl : id = roster.records.next := by simpa using h
      change (roster.registry.insert info.identity _).find? info.identity = _
      rw [Registry.find?_insert, if_pos rfl]
    · rw [apply, appear_of_not hcase] at h
      cases h
  have hstays : (watch.applyAll (watch.apply roster (.added info)).1 between).1.registry.find?
      info.identity = some id := find?_applyAll hfound hkept
  have hmem := Registry.mem_of_find?_eq_some hstays
  rw [applyAll_append]
  refine List.mem_append_right _ ?_
  change Change.removed id ∈ (Registry.ofKey _ info.key).map Change.removed ++ []
  rw [List.append_nil]
  refine List.mem_map_of_mem (List.mem_map.2 ⟨_, List.mem_filter.2 ⟨hmem, ?_⟩, rfl⟩)
  simp [Info.identity]

end Watch

/-- A device has one key, however it is found.

* A device that is listed is found again under its key, the very same, and an event that says that it
  is gone tells its key.
* A device that an event names by a path without links has that path as its key.
* An event that says that it is gone, by that path, takes out the record that was made for it, unless
  that was taken out before.
-/
theorem Sysfs.identity_agrees :
    (∀ (sysfs : Sysfs) (tree : FileTree) (filter : Filter) (found : List Info) (info : Info),
      tree.WellFormed → ((sysfs.enumerate filter).run tree).ending = .returned found →
        info ∈ found →
          (sysfs.deviceAt info.key info.family).run tree = ⟨.returned (some info), tree, []⟩ ∧
          ∀ (socket : UeventSocket) (devname : Option String) (kernel : Kernel),
            socket.filter.admits info.family = true →
              (socket.translate ⟨.remove, info.key, info.family.subsystem, devname⟩).run kernel =
                ⟨.returned (some (.removed info.key)), kernel, []⟩) ∧
    (∀ (sysfs : Sysfs) (tree : FileTree) (names : List String) (family : Family) (info : Info),
      (∀ name ∈ names, Path.IsName name) → sysfs.Linkless tree names →
        ((sysfs.deviceAt (FileTree.placePath names) family).run tree).ending =
          .returned (some info) → info.key = FileTree.placePath names) ∧
    (∀ (socket : UeventSocket) (kernel later : Kernel) (names : List String) (subsystem : String)
      (devname devname' : Option String) (info : Info),
      (∀ name ∈ names, Path.IsName name) → socket.sysfs.Linkless kernel.tree names →
        ((socket.translate ⟨.add, FileTree.placePath names, subsystem, devname⟩).run kernel).ending =
          .returned (some (.added info)) →
            (socket.translate ⟨.remove, FileTree.placePath names, subsystem, devname'⟩).run later =
              ⟨.returned (some (.removed info.key)), later, []⟩ ∧
            ∀ {ω : Type} (watch : Watch ω) (roster : Roster ω) (id : RecordId)
              (between : List Notice), .added id ∈ (watch.apply roster (.added info)).2 →
                .removed info.key ∉ between →
                  .removed id ∈ (watch.applyAll (watch.apply roster (.added info)).1
                    (between ++ [.removed info.key])).2) := by
  refine ⟨?_, ?_, ?_⟩
  · intro sysfs tree filter found info hwell hfound hinfo
    obtain ⟨hzero, path, hinspect⟩ := (hoare_enumerate filter tree rfl).2 found hfound info hinfo
    refine ⟨run_read (inspect_key hwell hzero hinspect), fun socket devname kernel hadmits => ?_⟩
    exact UeventSocket.run_translate_remove (Family.ofSubsystem?_subsystem _) hadmits devname kernel
  · intro sysfs tree names family info hnames hlinks h
    exact key_of_deviceAt hnames hlinks h
  · intro socket kernel later names subsystem devname devname' info hnames hlinks h
    obtain ⟨family, hsubsystem, hadmits, hdevice⟩ := UeventSocket.translate_add_cases h
    have hkey := key_of_deviceAt hnames hlinks hdevice
    refine ⟨?_, fun watch roster id between => Watch.removed_of_added⟩
    rw [hkey]
    exact UeventSocket.run_translate_remove hsubsystem hadmits devname' later

/-- A serial port of a USB device. The root of the device tree is a link, and so is the entry of the
port in the class directory. -/
def Sysfs.portTree : FileTree where
  nodes := [
    (["dev"], .directory), (["dev", "ttyACM0"], .file []), (["sys"], .link "mnt/"),
    (["mnt"], .directory), (["mnt", "class"], .directory), (["mnt", "class", "tty"], .directory),
    (["mnt", "class", "tty", "ttyACM0"], .link "../../devices/1-1/1-1:1.0/ttyACM0"),
    (["mnt", "devices"], .directory), (["mnt", "devices", "1-1"], .directory),
    (["mnt", "devices", "1-1", "idVendor"], .file [0x31, 0x36, 0x63, 0x30]),
    (["mnt", "devices", "1-1", "idProduct"], .file [0x30, 0x34, 0x38, 0x33]),
    (["mnt", "devices", "1-1", "busnum"], .file [0x31]),
    (["mnt", "devices", "1-1", "devpath"], .file [0x31]),
    (["mnt", "devices", "1-1", "1-1:1.0"], .directory),
    (["mnt", "devices", "1-1", "1-1:1.0", "bInterfaceNumber"], .file [0x30, 0x30]),
    (["mnt", "devices", "1-1", "1-1:1.0", "ttyACM0"], .directory)]

namespace Sysfs

/-- The roots, with a slash too many. -/
def portRoots : Sysfs :=
  ⟨"/sys/", "/dev"⟩

/-- The names of the port below the root. -/
def portNames : List String :=
  ["devices", "1-1", "1-1:1.0", "ttyACM0"]

/-- What is known of the port. -/
def port : Info where
  key := "/devices/1-1/1-1:1.0/ttyACM0"
  family := .serial
  location := "usb-1-1"
  path := "/dev/ttyACM0"
  vid := 0x16c0
  pid := 0x0483

theorem inspect_port :
    portRoots.inspect portTree "/sys/class/tty/ttyACM0" .serial = .ok port := by
  simp only [inspect, nearestWith?, nodeName?, identify, hexAttribute, requiredAttribute, attribute?,
    interfaceNumber?, FileTree.isFile, FileTree.isThere, FileTree.readText, FileTree.read,
    FileTree.resolve, FileTree.follow, FileTree.walk_eq_walkLinks]
  decide +kernel

theorem classEntries_port :
    portRoots.classEntries portTree .serial = .ok ["/sys/class/tty/ttyACM0"] := by
  simp only [classEntries, FileTree.list, FileTree.resolve, FileTree.follow,
    FileTree.walk_eq_walkLinks]
  decide +kernel

theorem enumerate_port :
    (portRoots.enumerate { family := some .serial }).run portTree = ⟨.returned [port], portTree, []⟩ := by
  have hget : (Action.get : Action FileTree FileTree).run portTree =
      ⟨.returned portTree, portTree, []⟩ := rfl
  have hrequire : (Action.require (.ok ["/sys/class/tty/ttyACM0"]) : Action FileTree _).run portTree =
      ⟨.returned ["/sys/class/tty/ttyACM0"], portTree, []⟩ := rfl
  have hpaths : (["/sys/class/tty/ttyACM0"].mapM (portRoots.read · .serial)).run portTree =
      ⟨.returned [some port], portTree, []⟩ := Action.run_mapM_singleton (run_read inspect_port)
  have hfamily : (portRoots.enumerateFamily { family := some .serial } .serial).run portTree =
      ⟨.returned [port], portTree, []⟩ := by
    rw [enumerateFamily, Action.run_bind_returned hget, classEntries_port,
      Action.run_bind_returned hrequire, Action.run_bind_returned hpaths]
    rfl
  have hone : Family.all.filter ({ family := some .serial } : Filter).admits = [.serial] := by decide
  rw [enumerate, hone, Action.run_bind_returned (Action.run_mapM_singleton hfamily)]
  rfl

theorem linkless_port : portRoots.Linkless portTree portNames := by
  have hroot : portTree.follow portRoots.root = .ok ["mnt"] := by
    simp only [FileTree.follow, FileTree.walk_eq_walkLinks]
    decide +kernel
  have hfinal : ∀ names ∈ portNames.inits, portTree.isFinal (["mnt"] ++ names) = true := by
    decide
  intro root h before name target hstart
  obtain rfl := Except.ok.inj (hroot.symm.trans h)
  intro hlink
  have hend := hfinal _ ((List.mem_inits _ _).2 hstart)
  rw [← List.append_assoc, FileTree.isFinal, hlink] at hend
  cases hend

/-- A socket on which the port is announced. -/
def portSocket : UeventSocket :=
  ⟨3, portRoots, {}⟩

theorem identity_agrees_port :
    portTree.WellFormed ∧
    ((portRoots.enumerate { family := some .serial }).run portTree).ending = .returned [port] ∧
    (portRoots.deviceAt port.key .serial).run portTree = ⟨.returned (some port), portTree, []⟩ ∧
    (∀ name ∈ portNames, Path.IsName name) ∧ portRoots.Linkless portTree portNames ∧
    port.key = FileTree.placePath portNames ∧
    ((portSocket.translate ⟨.add, FileTree.placePath portNames, "tty", none⟩).run
      { tree := portTree }).ending = .returned (some (.added port)) ∧
    (portSocket.translate ⟨.remove, FileTree.placePath portNames, "tty", none⟩).run {} =
      ⟨.returned (some (.removed port.key)), {}, []⟩ := by
  have hwell : portTree.WellFormed := ⟨by decide, by decide⟩
  have hfound : ((portRoots.enumerate { family := some .serial }).run portTree).ending =
      .returned [port] := by rw [enumerate_port]
  obtain ⟨hlisted, hnamed, hevents⟩ := identity_agrees
  have hback := (hlisted portRoots portTree _ [port] port hwell hfound List.mem_cons_self).1
  have hnames : ∀ name ∈ portNames, Path.IsName name := by decide
  have hpath : FileTree.placePath portNames = port.key := by decide
  have hdevice : ((portRoots.deviceAt (FileTree.placePath portNames) .serial).run portTree).ending =
      .returned (some port) := by
    rw [hpath, show Family.serial = port.family from rfl, hback]
  have hkey := hnamed portRoots portTree portNames .serial port hnames linkless_port hdevice
  have hadd : ((portSocket.translate ⟨.add, FileTree.placePath portNames, "tty", none⟩).run
      { tree := portTree }).ending = .returned (some (.added port)) := by
    have hsubsystem : Family.ofSubsystem? "tty" = some port.family := by decide
    have hpasses : portSocket.filter.passes port = true := by decide
    have htold : (portSocket.translate ⟨.add, port.key, "tty", none⟩).run { tree := portTree } =
        ⟨.returned (some (.added port)), { tree := portTree }, []⟩ :=
      UeventSocket.run_translate_add hsubsystem hpasses none hback
    rw [hpath, htold]
  have hgone := (hevents portSocket { tree := portTree } {} portNames "tty" none none port hnames
    linkless_port hadd).1
  exact ⟨hwell, hfound, hback, hnames, linkless_port, hkey, hadd, hgone⟩

end Sysfs

end Hotplug
