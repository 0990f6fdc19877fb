import Hotplug.Proofs.Sysfs.Identity
import Hotplug.Proofs.Uevent.Decoding
/-!
# Places on the bus

The text of a place on the bus runs bus number and port path together, and the dash between them looks like
the dashes that the dots of the port path became. It can be read back all the same, as long as bus numbers and
port paths are written the way the kernel writes them: the first dash behind the prefix is the one between
them, and all dashes behind it were dots.

## Main definitions

* `Hotplug.Sysfs.IsBusNumber`, `Hotplug.Sysfs.IsPortPath`: what the kernel does not write in them.
* `Hotplug.Sysfs.port?`: the bus number and the port path that a text stands for.
* `Hotplug.Sysfs.OnPort`: the port that a device hangs on.

## Main statements

* `Hotplug.Sysfs.port?_location`: what was written is read back.
* `Hotplug.Sysfs.exists_onPort`: every device that is found hangs on a port, and its location is of that port.
* `Hotplug.Sysfs.locations_identify_ports`
-/

namespace Hotplug

namespace Sysfs

/-! ### Reading a place back -/

/-- The kernel writes the number of a bus in digits, with neither dash nor dot. -/
structure IsBusNumber (busnum : String) : Prop where
  no_dash : '-' ∉ busnum.toList
  no_dot : '.' ∉ busnum.toList

/-- The kernel writes the path to a port in numbers with dots between them, any number of them, and without
a dash. -/
def IsPortPath (devpath : String) : Prop :=
  '-' ∉ devpath.toList

instance (busnum : String) : Decidable (IsBusNumber busnum) :=
  decidable_of_iff ('-' ∉ busnum.toList ∧ '.' ∉ busnum.toList)
    ⟨fun h => ⟨h.1, h.2⟩, fun h => ⟨h.no_dash, h.no_dot⟩⟩

instance (devpath : String) : Decidable (IsPortPath devpath) :=
  inferInstanceAs (Decidable ('-' ∉ devpath.toList))

/-- A dot becomes a dash. -/
def dash (c : Char) : Char :=
  if c = '.' then '-' else c

/-- A dash becomes a dot. -/
def undash (c : Char) : Char :=
  if c = '-' then '.' else c

/-- The bus number and the port path that a text stands for: what is before and behind the first dash after
the prefix, with dots for the dashes of the port path. -/
def port? (text : String) : Option (String × String) := do
  let (busnum, devpath) ← Text.cutAt? '-' (text.toList.drop "usb-".length)
  return (String.ofList busnum, String.ofList (devpath.map undash))

variable {busnum devpath : String}

theorem map_dash_of_no_dot {cs : List Char} (h : '.' ∉ cs) : cs.map dash = cs := by
  have hkept : ∀ c ∈ cs, dash c = c := fun c hc => if_neg (ne_of_mem_of_not_mem hc h)
  simpa using List.map_congr_left hkept

theorem map_undash_map_dash {cs : List Char} (h : '-' ∉ cs) : (cs.map dash).map undash = cs := by
  have hback : ∀ c ∈ cs, undash (dash c) = c := by
    intro c hc
    have hne : c ≠ '-' := ne_of_mem_of_not_mem hc h
    rw [dash]
    split
    · next hdot => exact hdot.symm
    · exact if_neg hne
  calc (cs.map dash).map undash
      = cs.map (undash ∘ dash) := List.map_map
    _ = cs.map id := List.map_congr_left hback
    _ = cs := List.map_id cs

theorem toList_location (h : IsBusNumber busnum) :
    (location busnum devpath).toList =
      "usb-".toList ++ (busnum.toList ++ '-' :: devpath.toList.map dash) := by
  have hprefix : "usb-".toList.map dash = "usb-".toList := by decide
  have hall : (location busnum devpath).toList = ("usb-" ++ busnum ++ "-" ++ devpath).toList.map dash :=
    String.toList_ofList
  simp only [hall, String.toList_append, List.map_append, hprefix, map_dash_of_no_dot h.no_dot,
    List.append_assoc]
  rfl

/-- The text of a place is read back. -/
theorem port?_location (hbus : IsBusNumber busnum) (hpath : IsPortPath devpath) :
    port? (location busnum devpath) = some (busnum, devpath) := by
  rw [port?, toList_location hbus, List.drop_left' (by rfl), Text.cutAt?_append hbus.no_dash]
  simp [map_undash_map_dash hpath]

/-- A port has one text. -/
theorem location_inj {busnum' devpath' : String} (hbus : IsBusNumber busnum) (hpath : IsPortPath devpath)
    (hbus' : IsBusNumber busnum') (hpath' : IsPortPath devpath') :
    location busnum devpath = location busnum' devpath' ↔ busnum = busnum' ∧ devpath = devpath' := by
  constructor
  · intro h
    have hread := congrArg port? h
    rw [port?_location hbus hpath, port?_location hbus' hpath'] at hread
    exact Prod.mk.inj (Option.some.inj hread)
  · rintro ⟨rfl, rfl⟩
    rfl

/-- A dash in a bus number or in a port path, or a dot in a bus number, may stand for something else. -/
example : location "1-2" "3" = location "1" "2.3" ∧ location "1" "2-3" = location "1" "2.3" ∧
    location "1.2" "3" = location "1" "2.3" := by decide

/-! ### Devices on ports -/

variable {sysfs : Sysfs} {tree : FileTree} {path : String} {family : Family} {info : Info}

theorem attribute?_of_requiredAttribute {directory : FileTree.Place} {name value : String}
    (h : requiredAttribute tree directory name = .ok value) :
    attribute? tree directory name = some value := by
  rw [requiredAttribute] at h
  split at h
  · next hvalue => rwa [Except.ok.inj h] at hvalue
  · cases h

/-- What the directory of a USB device says of its place is the text of the bus number and of the port path
that stand in it. -/
theorem location_of_identify {directory : FileTree.Place} {vid pid : UInt16} {place : String}
    (h : identify tree directory = .ok (vid, pid, place)) :
    ∃ busnum devpath, attribute? tree directory "busnum" = some busnum ∧
      attribute? tree directory "devpath" = some devpath ∧ place = location busnum devpath := by
  obtain ⟨_, -, h⟩ := eq_ok_of_bind h
  obtain ⟨_, -, h⟩ := eq_ok_of_bind h
  obtain ⟨busnum, hbusnum, h⟩ := eq_ok_of_bind h
  obtain ⟨devpath, hdevpath, h⟩ := eq_ok_of_bind h
  cases h
  exact ⟨busnum, devpath, attribute?_of_requiredAttribute hbusnum,
    attribute?_of_requiredAttribute hdevpath, rfl⟩

/-- The device that a path leads to hangs on a port: its bus number and port path stand in the directory of
the USB device that it is a part of. -/
def OnPort (sysfs : Sysfs) (tree : FileTree) (path : String) (info : Info) (busnum devpath : String) :
    Prop :=
  ∃ root directory interface device name,
    sysfs.Provenance tree path info root directory interface device name ∧
    attribute? tree device "busnum" = some busnum ∧ attribute? tree device "devpath" = some devpath

theorem exists_onPort (h : sysfs.inspect tree path family = .ok info) :
    ∃ busnum devpath, sysfs.OnPort tree path info busnum devpath := by
  obtain ⟨-, root, directory, interface, device, name, hknown⟩ := provenance_of_inspect h
  obtain ⟨busnum, devpath, hbusnum, hdevpath, -⟩ := location_of_identify hknown.identity
  exact ⟨busnum, devpath, root, directory, interface, device, name, hknown, hbusnum, hdevpath⟩

theorem onPort_of_inspect {root directory device : FileTree.Place}
    (h : sysfs.inspect tree path family = .ok info) (hroot : tree.follow sysfs.root = .ok root)
    (hdirectory : tree.follow path = .ok directory)
    (hdevice : nearestWith? tree root directory ["idVendor", "busnum"] = some device)
    (hbusnum : attribute? tree device "busnum" = some busnum)
    (hdevpath : attribute? tree device "devpath" = some devpath) :
    sysfs.OnPort tree path info busnum devpath := by
  obtain ⟨-, _, _, interface, _, name, hknown⟩ := provenance_of_inspect h
  obtain rfl := Except.ok.inj (hknown.follow_root.symm.trans hroot)
  obtain rfl := Except.ok.inj (hknown.follow_path.symm.trans hdirectory)
  obtain rfl := Option.some.inj (hknown.nearest_device.symm.trans hdevice)
  exact ⟨_, _, interface, _, name, hknown, hbusnum, hdevpath⟩

theorem OnPort.location_eq (h : sysfs.OnPort tree path info busnum devpath) :
    info.location = location busnum devpath := by
  obtain ⟨_, _, _, device, _, hknown, hbusnum, hdevpath⟩ := h
  obtain ⟨busnum', devpath', hbusnum', hdevpath', hplace⟩ := location_of_identify hknown.identity
  obtain rfl := Option.some.inj (hbusnum'.symm.trans hbusnum)
  obtain rfl := Option.some.inj (hdevpath'.symm.trans hdevpath)
  exact hplace

/-- Ports have texts of their own: those of two ports are the same only if bus number and port path are.
Every device that is found hangs on a port, and two of them have the same location, be it in other trees or
under other roots, exactly if they hang on the same port, as long as the kernel writes bus numbers and port
paths as it does. -/
theorem locations_identify_ports :
    (∀ busnum busnum' devpath devpath', IsBusNumber busnum → IsBusNumber busnum' →
      IsPortPath devpath → IsPortPath devpath' → location busnum devpath = location busnum' devpath' →
        busnum = busnum' ∧ devpath = devpath') ∧
    (∀ sysfs tree path family info, Sysfs.inspect sysfs tree path family = .ok info →
      ∃ busnum devpath, sysfs.OnPort tree path info busnum devpath) ∧
    ∀ sysfs sysfs' tree tree' path path' info info' busnum busnum' devpath devpath',
      Sysfs.OnPort sysfs tree path info busnum devpath →
      Sysfs.OnPort sysfs' tree' path' info' busnum' devpath' →
      IsBusNumber busnum → IsBusNumber busnum' → IsPortPath devpath → IsPortPath devpath' →
        (info.location = info'.location ↔ busnum = busnum' ∧ devpath = devpath') := by
  refine ⟨fun _ _ _ _ hbus hbus' hpath hpath' => (location_inj hbus hpath hbus' hpath').1,
    fun _ _ _ _ _ => exists_onPort, ?_⟩
  intro _ _ _ _ _ _ _ _ _ _ _ _ hport hport' hbus hbus' hpath hpath'
  rw [hport.location_eq, hport'.location_eq]
  exact location_inj hbus hpath hbus' hpath'

/-- Two serial ports whose ports have the same digits in the same order. -/
def alikeTree : FileTree where
  nodes := [
    (["dev"], .directory), (["dev", "ttyACM0"], .file []), (["dev", "ttyACM1"], .file []),
    (["sys"], .directory), (["sys", "1-12.3"], .directory), (["sys", "11-2.3"], .directory),
    (["sys", "1-12.3", "idVendor"], .file [0x31]), (["sys", "1-12.3", "idProduct"], .file [0x32]),
    (["sys", "1-12.3", "busnum"], .file [0x31]),
    (["sys", "1-12.3", "devpath"], .file [0x31, 0x32, 0x2e, 0x33]),
    (["sys", "1-12.3", "bInterfaceNumber"], .file [0x30]), (["sys", "1-12.3", "ttyACM0"], .directory),
    (["sys", "11-2.3", "idVendor"], .file [0x31]), (["sys", "11-2.3", "idProduct"], .file [0x32]),
    (["sys", "11-2.3", "busnum"], .file [0x31, 0x31]),
    (["sys", "11-2.3", "devpath"], .file [0x32, 0x2e, 0x33]),
    (["sys", "11-2.3", "bInterfaceNumber"], .file [0x30]), (["sys", "11-2.3", "ttyACM1"], .directory)]

/-- The roots of both. -/
def alikeRoots : Sysfs :=
  ⟨"/sys", "/dev"⟩

/-- What is known of the one on the first bus. -/
def alikeFirst : Info where
  key := "/1-12.3/ttyACM0"
  family := .serial
  location := "usb-1-12-3"
  path := "/dev/ttyACM0"
  vid := 1
  pid := 2

/-- What is known of the other. -/
def alikeOther : Info :=
  { alikeFirst with key := "/11-2.3/ttyACM1", location := "usb-11-2-3", path := "/dev/ttyACM1" }

theorem inspect_alike :
    alikeRoots.inspect alikeTree "/sys/1-12.3/ttyACM0" .serial = .ok alikeFirst ∧
    alikeRoots.inspect alikeTree "/sys/11-2.3/ttyACM1" .serial = .ok alikeOther := by
  simp only [inspect, nearestWith?, nodeName?, identify, hexAttribute, requiredAttribute, attribute?,
    interfaceNumber?, FileTree.isFile, FileTree.isThere, FileTree.readText, FileTree.read,
    FileTree.resolve, FileTree.follow, FileTree.walk_eq_walkLinks]
  decide +kernel

theorem follow_alike : alikeTree.follow alikeRoots.root = .ok ["sys"] ∧
    alikeTree.follow "/sys/1-12.3/ttyACM0" = .ok ["sys", "1-12.3", "ttyACM0"] ∧
    alikeTree.follow "/sys/11-2.3/ttyACM1" = .ok ["sys", "11-2.3", "ttyACM1"] := by
  simp only [FileTree.follow, FileTree.walk_eq_walkLinks]
  decide +kernel

theorem attribute_alike :
    attribute? alikeTree ["sys", "1-12.3"] "busnum" = some "1" ∧
    attribute? alikeTree ["sys", "1-12.3"] "devpath" = some "12.3" ∧
    attribute? alikeTree ["sys", "11-2.3"] "busnum" = some "11" ∧
    attribute? alikeTree ["sys", "11-2.3"] "devpath" = some "2.3" := by
  simp only [attribute?, FileTree.readText, FileTree.read, FileTree.resolve, FileTree.follow,
    FileTree.walk_eq_walkLinks]
  decide +kernel

theorem nearest_alike :
    nearestWith? alikeTree ["sys"] ["sys", "1-12.3", "ttyACM0"] ["idVendor", "busnum"] =
      some ["sys", "1-12.3"] ∧
    nearestWith? alikeTree ["sys"] ["sys", "11-2.3", "ttyACM1"] ["idVendor", "busnum"] =
      some ["sys", "11-2.3"] := by
  simp only [nearestWith?, FileTree.isFile, FileTree.resolve, FileTree.follow,
    FileTree.walk_eq_walkLinks]
  decide +kernel

theorem onPort_alike :
    alikeRoots.OnPort alikeTree "/sys/1-12.3/ttyACM0" alikeFirst "1" "12.3" ∧
    alikeRoots.OnPort alikeTree "/sys/11-2.3/ttyACM1" alikeOther "11" "2.3" := by
  obtain ⟨hroot, hfirst, hother⟩ := follow_alike
  obtain ⟨hbusnum, hdevpath, hbusnum', hdevpath'⟩ := attribute_alike
  exact ⟨onPort_of_inspect inspect_alike.1 hroot hfirst nearest_alike.1 hbusnum hdevpath,
    onPort_of_inspect inspect_alike.2 hroot hother nearest_alike.2 hbusnum' hdevpath'⟩

theorem locations_identify_ports_alike :
    IsBusNumber "1" ∧ IsBusNumber "11" ∧ IsPortPath "12.3" ∧ IsPortPath "2.3" ∧
    location "1" "12.3" ≠ location "11" "2.3" ∧
    alikeRoots.inspect alikeTree "/sys/1-12.3/ttyACM0" .serial = .ok alikeFirst ∧
    (∃ busnum devpath, alikeRoots.OnPort alikeTree "/sys/1-12.3/ttyACM0" alikeFirst busnum devpath) ∧
    alikeRoots.OnPort alikeTree "/sys/1-12.3/ttyACM0" alikeFirst "1" "12.3" ∧
    alikeRoots.OnPort alikeTree "/sys/11-2.3/ttyACM1" alikeOther "11" "2.3" ∧
    alikeFirst.location ≠ alikeOther.location := by
  have hbus : IsBusNumber "1" := by decide
  have hbus' : IsBusNumber "11" := by decide
  have hpath : IsPortPath "12.3" := by decide
  have hpath' : IsPortPath "2.3" := by decide
  have hapart : ¬("1" = "11" ∧ "12.3" = "2.3") := by decide
  obtain ⟨hfirst, hother⟩ := onPort_alike
  obtain ⟨htexts, hfound, hdevices⟩ := locations_identify_ports
  refine ⟨hbus, hbus', hpath, hpath', fun h => hapart (htexts _ _ _ _ hbus hbus' hpath hpath' h),
    inspect_alike.1, hfound _ _ _ _ _ inspect_alike.1, hfirst, hother, fun h => hapart ?_⟩
  exact (hdevices _ _ _ _ _ _ _ _ _ _ _ _ hfirst hother hbus hbus' hpath hpath').1 h

end Sysfs

end Hotplug
