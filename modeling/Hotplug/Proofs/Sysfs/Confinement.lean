import Hotplug.Proofs.Sysfs.Listing
/-!
# Devices inside the roots

Three paths are put together from a root and a name that comes from elsewhere: the entry of a class
directory, the path that an event names, and the node that a `uevent` file names. The first two are followed
to a place without links, and places outside the root of the device tree are passed over. Whatever the links
and the files of the tree, what is known of a device therefore comes from directories inside the root. The
third is not looked at: the name of the node can lead out of the directory of the nodes, or to that directory
itself. Nor is it made sure that the place of a device is a directory. A device has at most one of these two
faults, since a plain file has no `uevent` file in it.

## Main definitions

* `Hotplug.Path.Below`, `Hotplug.Path.StaysBelow`: paths below a directory, and the names that make them.
* `Hotplug.Sysfs.Rooted`: what comes from inside the root of the device tree in any case.
* `Hotplug.Sysfs.Confined`: what comes from inside the roots altogether.
* `Hotplug.Sysfs.Yields`: the devices that are found, in either way.

## Main statements

* `Hotplug.Path.below_join_iff`: which names make paths below a directory.
* `Hotplug.Sysfs.isDirectory_of_nodeName?`: only a directory names a node.
* `Hotplug.Sysfs.Provenance.rooted`: what is known of a device comes from inside the root.
* `Hotplug.Sysfs.confined_iff`
-/

namespace Hotplug

/-! ### Paths below a directory -/

namespace Path

/-- A path goes on behind another one, by one step at least and never up. -/
def Below (base path : String) : Prop :=
  ∃ below, steps path = steps base ++ below ∧ below ≠ [] ∧ ".." ∉ below

/-- What makes a name one of something below a directory: it has a step other than `.` and goes nowhere up.
A name that makes a path of its own, as an absolute one does, has to be below the directory by itself. -/
def StaysBelow (base name : String) : Prop :=
  if isAbsolute name || base.isEmpty then Below base name
  else (∃ step ∈ split name.toList, step ≠ ".") ∧ ".." ∉ split name.toList

variable {base name : String}

theorem split_ne_nil_of_relative (hbase : base ≠ "") (h : isAbsolute base = false) :
    split base.toList ≠ [] := by
  obtain ⟨c, rest, hchars⟩ := List.exists_cons_of_ne_nil (show base.toList ≠ [] by simpa using hbase)
  have hc : c ≠ '/' := by simpa [isAbsolute, hchars] using h
  rw [hchars]
  exact split_ne_nil hc rest

theorem steps_join (hbase : base ≠ "") (hname : isAbsolute name = false) :
    steps (join base name) = steps base ++ (split name.toList).filter (· ≠ ".") := by
  obtain ⟨before, hsplit, -, hjoin⟩ := toList_join hbase hname
  have hall : split (join base name).toList = split base.toList ++ split name.toList := by
    rw [hjoin, split_append, hsplit]
  simp only [steps, hall, isAbsolute_join hbase hname, List.filter_append]
  cases habsolute : isAbsolute base with
  | true => simp
  | false =>
    -- Only a first name `.` counts as a step, and the first name is that of the base.
    rw [List.head?_append_of_ne_nil _ (split_ne_nil_of_relative hbase habsolute)]
    simp only [Bool.false_eq_true, if_false]
    split <;> simp

theorem below_join_iff : Below base (join base name) ↔ StaysBelow base name := by
  by_cases h : (isAbsolute name || base.isEmpty) = true
  · rw [StaysBelow, if_pos h, join, if_pos h]
  · have hparts : isAbsolute name = false ∧ base ≠ "" := by simpa using h
    rw [StaysBelow, if_neg h, Below, steps_join hparts.2 hparts.1]
    constructor
    · rintro ⟨below, heq, hne, hup⟩
      obtain rfl := List.append_cancel_left heq
      refine ⟨by simpa using hne, fun hmem => hup ?_⟩
      simpa using hmem
    · rintro ⟨hstep, hup⟩
      exact ⟨_, rfl, by simpa using hstep, fun hmem => hup (List.mem_filter.1 hmem).1⟩

theorem IsName.split (h : IsName name) : split name.toList = [name] := by
  have hone : ∀ other ∈ [name], IsName other := by simpa using h
  simpa using split_intercalate hone

theorem IsName.isAbsolute (h : IsName name) : isAbsolute name = false := by
  have hone : ∀ other ∈ [name], IsName other := by simpa using h
  simpa using isAbsolute_intercalate hone

/-- A name that stands for itself is one of something below any directory. -/
theorem IsName.staysBelow (h : IsName name) (base : String) : StaysBelow base name := by
  rw [StaysBelow]
  split
  · next hempty =>
    obtain rfl : base = "" := by simpa [h.isAbsolute] using hempty
    have hsteps : steps name = [name] := by simp [steps, h.isAbsolute, h.split, h.ne_same]
    exact ⟨[name], hsteps, by simp, by simpa using h.ne_up.symm⟩
  · rw [h.split]
    exact ⟨⟨name, List.mem_cons_self, h.ne_same⟩, by simpa using h.ne_up.symm⟩

end Path

namespace FileTree

variable {tree : FileTree} {place : Place}

theorem names_placePath {names : List String} (h : ∀ name ∈ names, Path.IsName name) (hne : names ≠ []) :
    Path.names (placePath names) = names := by
  have hjoin : placePath names = Path.join "/" (String.intercalate "/" names) := by
    rw [Path.join, Path.isAbsolute_intercalate h]
    rfl
  rw [hjoin, Path.names_join (by decide) h, if_neg hne]
  rfl

/-- Only a directory has something in it. -/
theorem isDirectory_of_follow_child (hwell : tree.WellFormed) (hreal : tree.Real place) {name : String}
    (hname : Path.IsName name) {there : Place}
    (h : tree.follow (placePath (place ++ [name])) = .ok there) : tree.isDirectory place = true := by
  have hplace : ∀ other ∈ place, Path.IsName other := fun other hmem =>
    (hwell.named_of_real hreal other hmem).1
  have hnames : ∀ other ∈ place ++ [name], Path.IsName other :=
    List.forall_mem_append.2 ⟨hplace, by simpa using hname⟩
  obtain ⟨-, left, hwalks⟩ := follow_eq_ok h
  have horigin : tree.origin (placePath (place ++ [name])) = [] := by
    rw [origin, if_pos (by simp [Path.isAbsolute, placePath])]
  rw [names_placePath hnames (by simp), horigin] at hwalks
  obtain ⟨_, middle, hfirst, hsecond⟩ := hwalks.of_append
  -- The walk to the place itself is the one along its names.
  have hstraight : Walks tree linkLimit [] place linkLimit ([] ++ place) := hreal.walks hplace linkLimit
  obtain rfl : middle = place := Except.ok.inj (hfirst.walk.symm.trans hstraight.walk)
  exact hsecond.isDirectory

theorem exists_follow_of_readText {path text : String} (h : tree.readText path = .ok text) :
    ∃ there, tree.follow path = .ok there := by
  rw [readText, read, resolve] at h
  split at h
  · cases h
  · split at h
    · cases h
    · next there hresolve =>
      split at hresolve
      · cases hresolve
      · exact ⟨there, hresolve⟩

/-- What is at a real place, the root apart, is a directory or a file. -/
theorem Real.isDirectory_or_file {root : Place} {names : List String} (h : tree.Real (root ++ names))
    (hne : names ≠ []) : tree.isDirectory (root ++ names) = true ∨
      ∃ contents, tree.node? (root ++ names) = some (.file contents) := by
  obtain ⟨before, last, rfl⟩ := (List.eq_nil_or_concat' names).resolve_left hne
  rw [← List.append_assoc] at h ⊢
  have hfinal := (h _ last (List.prefix_refl _)).2
  obtain ⟨node, hnode⟩ := exists_of_isFinal hfinal
  rw [isFinal, hnode] at hfinal
  cases node with
  | file contents => exact .inr ⟨contents, hnode⟩
  | directory => exact .inl (by rw [FileTree.isDirectory, hnode]; rfl)
  | link target => cases hfinal

end FileTree

namespace Sysfs

variable {sysfs : Sysfs} {tree : FileTree} {path : String} {family : Family} {info : Info}
  {root place inner : FileTree.Place} {names : List String}

/-! ### The directory of a device -/

theorem Between.isDirectory (h : Between root place inner) (hreal : tree.Real place) :
    tree.isDirectory inner = true := by
  obtain ⟨_ | ⟨name, rest⟩, rfl⟩ := h.above
  · exact (h.ne_place (List.append_nil inner).symm).elim
  · exact (hreal inner name ⟨rest, by simp⟩).1

/-- A device whose `uevent` file names a node has a directory. -/
theorem isDirectory_of_nodeName? (hwell : tree.WellFormed) (hreal : tree.Real place) {name : String}
    (h : nodeName? tree place = some name) : tree.isDirectory place = true := by
  rw [nodeName?] at h
  split at h
  · next htext =>
    obtain ⟨there, hfollow⟩ := FileTree.exists_follow_of_readText htext
    exact FileTree.isDirectory_of_follow_child hwell hreal (by decide) hfollow
  · cases h

/-! ### One device -/

/-- The key of a device consists of the names of a place inside the root, and leads back there. What else
is known of it, its node apart, is what directories strictly between the root and that place say. -/
structure Rooted (sysfs : Sysfs) (tree : FileTree) (info : Info) (root : FileTree.Place)
    (names : List String) : Prop where
  follow_root : tree.follow sysfs.root = .ok root
  real : tree.Real (root ++ names)
  ne_root : names ≠ []
  key : info.key = FileTree.placePath names
  follow_key : tree.follow (Path.join sysfs.root (Path.relative info.key)) = .ok (root ++ names)
  interface : ∃ interface, Between root (root ++ names) interface ∧ tree.isDirectory interface = true ∧
    interfaceNumber? tree interface = some info.interface
  device : ∃ device, Between root (root ++ names) device ∧ tree.isDirectory device = true ∧
    identify tree device = .ok (info.vid, info.pid, info.location) ∧
    info.manufacturer = attribute? tree device "manufacturer" ∧
    info.product = attribute? tree device "product" ∧
    info.serialNumber = attribute? tree device "serial"

/-- Nothing that is known of a device comes from outside: its key names a directory inside the root, other
directories between the two say what it is, and its node is there and below the directory of the nodes. -/
def Confined (sysfs : Sysfs) (tree : FileTree) (info : Info) : Prop :=
  ∃ root names, sysfs.Rooted tree info root names ∧ tree.isDirectory (root ++ names) = true ∧
    tree.isThere info.path = true ∧ Path.Below sysfs.devRoot info.path

theorem Rooted.unique {root' : FileTree.Place} {names' : List String}
    (h : sysfs.Rooted tree info root names) (h' : sysfs.Rooted tree info root' names') :
    root = root' ∧ names = names' := by
  obtain rfl := Except.ok.inj (h.follow_root.symm.trans h'.follow_root)
  exact ⟨rfl, List.append_cancel_left (Except.ok.inj (h.follow_key.symm.trans h'.follow_key))⟩

theorem Provenance.rooted {directory interface device : FileTree.Place} {name : String}
    (hwell : tree.WellFormed)
    (h : sysfs.Provenance tree path info root directory interface device name) :
    ∃ names, directory = root ++ names ∧ sysfs.Rooted tree info root names := by
  obtain ⟨names, rfl⟩ := h.inside
  have hreal := hwell.real_of_follow h.follow_path
  have hnames : ∀ name ∈ names, Path.IsName name := fun name hname =>
    (hwell.named_of_real hreal name (List.mem_append_right root hname)).1
  have hinterface := between_of_nearestWith? h.nearest_interface
  have hdevice := between_of_nearestWith? h.nearest_device
  have hne : names ≠ [] := by
    rintro rfl
    exact hdevice.ne (List.append_nil root)
  have hkey : info.key = FileTree.placePath names := by rw [h.key, List.drop_left]; rfl
  refine ⟨names, rfl, h.follow_root, hreal, hne, hkey, ?_, ?_, ?_⟩
  · rw [hkey, FileTree.placePath, Path.relative_intercalate hnames]
    exact FileTree.follow_below h.follow_root hreal hnames hne
  · exact ⟨interface, hinterface, hinterface.isDirectory hreal, h.number⟩
  · exact ⟨device, hdevice, hdevice.isDirectory hreal, h.identity, h.manufacturer, h.product,
      h.serialNumber⟩

/-- A device that was found, in a class directory or at the path of an event. -/
inductive Yields (sysfs : Sysfs) (tree : FileTree) (info : Info) : Prop
  | listed {filter : Filter} {found : List Info}
    (hfound : ((sysfs.enumerate filter).run tree).ending = .returned found) (hinfo : info ∈ found)
  | lookedUp {devpath : String} {family : Family}
    (hfound : ((sysfs.deviceAt devpath family).run tree).ending = .returned (some info))

theorem Yields.inspect (h : sysfs.Yields tree info) :
    ∃ path family, sysfs.inspect tree path family = .ok info := by
  cases h with
  | listed hfound hinfo =>
    obtain ⟨-, path, hinspect⟩ := (hoare_enumerate _ tree rfl).2 _ hfound info hinfo
    exact ⟨path, info.family, hinspect⟩
  | lookedUp hfound =>
    rw [deviceAt] at hfound
    exact ⟨_, _, inspect_of_read hfound⟩

/-- A device that is found has its key, and all that is known of it but its node, from inside the root of the
device tree: from a place that the key names, which is a directory or a plain file, and from directories
between the two. Its node is there, under a name that its `uevent` file gives or that is the last of the
place. It is confined exactly if the place is a directory and the name stays below the directory of the
nodes; one of the two is always so. -/
theorem confined_iff (hwell : tree.WellFormed) (h : sysfs.Yields tree info) :
    ∃ root names name, sysfs.Rooted tree info root names ∧
      (tree.isDirectory (root ++ names) = true ∨
        ∃ contents, tree.node? (root ++ names) = some (.file contents)) ∧
      info.path = Path.join sysfs.devRoot name ∧ tree.isThere info.path = true ∧
      (nodeName? tree (root ++ names) = some name ∧ tree.isDirectory (root ++ names) = true ∨
        nodeName? tree (root ++ names) = none ∧ names.getLast? = some name ∧
          Path.StaysBelow sysfs.devRoot name) ∧
      (sysfs.Confined tree info ↔
        tree.isDirectory (root ++ names) = true ∧ Path.StaysBelow sysfs.devRoot name) := by
  obtain ⟨path, family, hinspect⟩ := h.inspect
  obtain ⟨-, root, directory, interface, device, name, known⟩ := provenance_of_inspect hinspect
  obtain ⟨names, rfl, hrooted⟩ := known.rooted hwell
  refine ⟨root, names, name, hrooted, hrooted.real.isDirectory_or_file hrooted.ne_root, known.node_path,
    known.there, ?_, ?_⟩
  · have hname := known.node_name
    cases hnode : nodeName? tree (root ++ names) with
    | some other =>
      rw [hnode] at hname
      cases hname
      exact .inl ⟨rfl, isDirectory_of_nodeName? hwell hrooted.real hnode⟩
    | none =>
      -- The name is then that of an entry of the tree, which leads nowhere else.
      rw [hnode] at hname
      have hlast : names.getLast? = some name := by
        rw [← List.getLast?_append_of_ne_nil root hrooted.ne_root]
        exact hname
      have hmem := List.mem_append_right root (List.mem_of_getLast? hlast)
      exact .inr ⟨rfl, hlast, (hwell.named_of_real hrooted.real name hmem).1.staysBelow _⟩
  · rw [← Path.below_join_iff, ← known.node_path]
    constructor
    · rintro ⟨root', names', hrooted', hdirectory, -, hbelow⟩
      -- The key leads back to one place, so it is this one that is a directory.
      obtain ⟨rfl, rfl⟩ := hrooted.unique hrooted'
      exact ⟨hdirectory, hbelow⟩
    · rintro ⟨hdirectory, hbelow⟩
      exact ⟨root, names, hrooted, hdirectory, known.there, hbelow⟩

/-- The port, whose node has the name of its directory, is confined. -/
theorem confined_iff_port :
    portTree.WellFormed ∧ portRoots.Yields portTree port ∧ portRoots.Confined portTree port := by
  have hwell : portTree.WellFormed := ⟨by decide, by decide⟩
  have hfound : ((portRoots.enumerate { family := some .serial }).run portTree).ending =
      .returned [port] := by rw [enumerate_port]
  have hyields : portRoots.Yields portTree port := .listed hfound List.mem_cons_self
  obtain ⟨root, names, name, hrooted, -, -, -, hname, hconfined⟩ := confined_iff hwell hyields
  refine ⟨hwell, hyields, hconfined.2 ?_⟩
  have hplace : root ++ names = "mnt" :: portNames := by
    have hfollow : portTree.follow (Path.join portRoots.root (Path.relative port.key)) =
        .ok ("mnt" :: portNames) := by
      simp only [FileTree.follow, FileTree.walk_eq_walkLinks]
      decide +kernel
    exact Except.ok.inj (hrooted.follow_key.symm.trans hfollow)
  have hnameless : nodeName? portTree ("mnt" :: portNames) = none := by
    simp only [nodeName?, FileTree.readText, FileTree.read, FileTree.resolve, FileTree.follow,
      FileTree.walk_eq_walkLinks]
    decide +kernel
  rw [hplace, hnameless] at hname
  refine ⟨by rw [hplace]; decide, ?_⟩
  rcases hname with ⟨h, -⟩ | ⟨-, -, hbelow⟩
  · cases h
  · exact hbelow

/-- A port whose `uevent` file names a file beside the directory of the nodes, and a device whose entry
leads to a plain file. -/
def strayTree : FileTree where
  nodes := [
    (["sys"], .directory), (["sys", "class"], .directory), (["sys", "class", "tty"], .directory),
    (["sys", "d"], .directory), (["sys", "d", "idVendor"], .file [0x31]),
    (["sys", "d", "idProduct"], .file [0x32]), (["sys", "d", "busnum"], .file [0x31]),
    (["sys", "d", "devpath"], .file [0x31]), (["sys", "d", "i"], .directory),
    (["sys", "d", "i", "bInterfaceNumber"], .file [0x30]), (["sys", "d", "i", "t"], .directory),
    (["sys", "d", "i", "t", "uevent"], .file [0x44, 0x45, 0x56, 0x4e, 0x41, 0x4d, 0x45, 0x3d, 0x2e, 0x2e,
      0x2f, 0x73, 0x65, 0x63, 0x72, 0x65, 0x74, 0x0a]),
    (["sys", "class", "tty", "t"], .link "../../d/i/t"), (["secret"], .file []), (["dev"], .directory),
    (["sys", "class", "hidraw"], .directory), (["sys", "d", "i", "h"], .file []),
    (["sys", "class", "hidraw", "h"], .link "../../d/i/h"), (["dev", "h"], .file [])]

/-- Roots that are found from where the program runs. -/
def strayRoots : Sysfs :=
  ⟨"sys", "dev"⟩

/-- What is known of the port. -/
def strayPort : Info where
  key := "/d/i/t"
  family := .serial
  location := "usb-1-1"
  path := "dev/../secret"
  vid := 1
  pid := 2

/-- What is known of the device. -/
def strayFile : Info :=
  { strayPort with key := "/d/i/h", family := .hid, path := "dev/h" }

theorem classEntries_stray :
    strayRoots.classEntries strayTree .hid = .ok ["sys/class/hidraw/h"] ∧
    strayRoots.classEntries strayTree .serial = .ok ["sys/class/tty/t"] := by
  simp only [classEntries, FileTree.list, FileTree.resolve, FileTree.follow,
    FileTree.walk_eq_walkLinks]
  decide +kernel

theorem inspect_stray :
    strayRoots.inspect strayTree "sys/class/hidraw/h" .hid = .ok strayFile ∧
    strayRoots.inspect strayTree "sys/class/tty/t" .serial = .ok strayPort := by
  simp only [inspect, nearestWith?, nodeName?, identify, hexAttribute, requiredAttribute, attribute?,
    interfaceNumber?, FileTree.isFile, FileTree.isThere, FileTree.readText, FileTree.read,
    FileTree.resolve, FileTree.follow, FileTree.walk_eq_walkLinks]
  decide +kernel

theorem enumerate_stray :
    ((strayRoots.enumerate .any).run strayTree).ending = .returned [strayFile, strayPort] := by
  rw [(strayRoots.ends_enumerate strayTree .any).1, Ending.ofCheck_eq_returned_iff,
    listing_any_of_classEntries classEntries_stray.1 classEntries_stray.2]
  simp only [List.filterMap_cons, List.filterMap_nil, inspect_stray]
  rfl

/-- The node of the port is not below the directory of the nodes, and the key of the device does not name
a directory. -/
theorem enumerate_unconfined : strayTree.WellFormed ∧
    ((strayRoots.enumerate .any).run strayTree).ending = .returned [strayFile, strayPort] ∧
    ¬strayRoots.Confined strayTree strayFile ∧ ¬strayRoots.Confined strayTree strayPort := by
  refine ⟨⟨by decide, by decide⟩, enumerate_stray, ?_, ?_⟩
  · rintro ⟨root, names, hrooted, hdirectory, -⟩
    have hfollow : strayTree.follow (Path.join strayRoots.root (Path.relative strayFile.key)) =
        .ok ["sys", "d", "i", "h"] := by
      simp only [FileTree.follow, FileTree.walk_eq_walkLinks]
      decide +kernel
    rw [Except.ok.inj (hrooted.follow_key.symm.trans hfollow)] at hdirectory
    exact absurd hdirectory (by decide)
  · rintro ⟨-, -, -, -, -, below, heq, -, hup⟩
    have hsteps : ["dev"] ++ ["..", "secret"] = ["dev"] ++ below := heq
    rw [← List.append_cancel_left hsteps] at hup
    exact hup (by decide)

end Sysfs

end Hotplug
