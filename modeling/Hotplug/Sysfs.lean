import Hotplug.Action
import Hotplug.Device
import Hotplug.FileTree.Basic
import Hotplug.Text.Blank
/-!
# Devices in the kernel's device tree

The kernel describes devices in a tree of directories. Each family has a class directory with one
entry per device, a link into the directory of the device. The directories above that one belong to
what the device is part of: the nearest with an interface number is the USB interface, the nearest
with a vendor number and a bus number is the USB device. What has no such directories above it is no
USB device and is passed over.

## Main definitions

* `Hotplug.Sysfs`: the two roots.
* `Hotplug.Sysfs.inspect`: what is known of the device at a path, or why it is passed over.
* `Hotplug.Sysfs.deviceAt`, `Hotplug.Sysfs.enumerate`
* `Hotplug.Sysfs.location`: the text of a place on the bus.
-/

namespace Hotplug

/-- The kernel's name for a family. -/
def Family.subsystem : Family → String
  | .hid => "hidraw"
  | .serial => "tty"

/-- The family that the kernel calls by a name. -/
def Family.ofSubsystem? (name : String) : Option Family :=
  if name = "hidraw" then some .hid else if name = "tty" then some .serial else none

/-- Where the kernel's device tree and the device nodes are. -/
structure Sysfs where
  /-- The root of the device tree. -/
  root : String
  /-- The directory of the device nodes. -/
  devRoot : String
  deriving DecidableEq, Repr

namespace Sysfs

/-- Why an entry is passed over. -/
inductive Skip
  /-- The entry leads nowhere. -/
  | notThere
  /-- The entry leads out of the device tree. -/
  | outside
  /-- No directory above belongs to a USB interface. -/
  | noInterface
  /-- No directory above belongs to a USB device. -/
  | noDevice
  /-- The device has no name. -/
  | noName
  /-- The device has no node. -/
  | noNode
  /-- An attribute of the device makes no sense. -/
  | malformed (reason : Malformed)
  /-- The interface has no number. -/
  | noInterfaceNumber
  deriving DecidableEq, Repr

/-- What is said about an entry that is passed over. Most are passed over in silence. -/
def Skip.diagnostics : Skip → List Diagnostic
  | noNode => [.nodeMissing]
  | malformed reason => [.deviceSkipped reason]
  | _ => []

/-- The text of a place on the bus: bus number and port path, with every dot turned into a dash. -/
def location (busnum devpath : String) : String :=
  String.ofList (("usb-" ++ busnum ++ "-" ++ devpath).toList.map fun c => if c = '.' then '-' else c)

/-- What a directory of the tree says under a name: the text of the file without blanks at its ends,
if anything is left. -/
def attribute? (tree : FileTree) (directory : FileTree.Place) (name : String) : Option String :=
  match tree.readText (FileTree.placePath (directory ++ [name])) with
  | .ok text =>
    let value := Text.trim text
    if value.isEmpty then none else some value
  | .error _ => none

/-- An attribute that has to be there. -/
def requiredAttribute (tree : FileTree) (directory : FileTree.Place) (name : String) :
    Except Malformed String :=
  match attribute? tree directory name with
  | some value => .ok value
  | none => .error (.badAttribute name "")

/-- An attribute that has to be a number of four hexadecimal digits at most. -/
def hexAttribute (tree : FileTree) (directory : FileTree.Place) (name : String) :
    Except Malformed UInt16 := do
  let value ← requiredAttribute tree directory name
  match Number.read? 16 0x10000 value.toList with
  | some number => .ok (.ofNat number)
  | none => .error (.badAttribute name value)

/-- The places above a place that are below a root, nearest first. -/
def above (root place : FileTree.Place) : List FileTree.Place :=
  match place with
  | [] => []
  | name :: rest =>
    let parent := (name :: rest).dropLast
    if root.isPrefixOf parent ∧ parent ≠ root then parent :: above root parent else []
  termination_by place.length
  decreasing_by simp

/-- The nearest place above, below the root, whose directory has all the given files. -/
def nearestWith? (tree : FileTree) (root place : FileTree.Place) (files : List String) :
    Option FileTree.Place :=
  (above root place).find? fun directory =>
    files.all fun file => tree.isFile (FileTree.placePath (directory ++ [file]))

/-- The name of the device node that the kernel gives, in the first line of the `uevent` file that
gives one. -/
def nodeName? (tree : FileTree) (directory : FileTree.Place) : Option String :=
  match tree.readText (FileTree.placePath (directory ++ ["uevent"])) with
  | .ok text =>
    (Text.lines text.toList).findSome? fun line =>
      if "DEVNAME=".toList.isPrefixOf line then some (String.ofList (line.drop 8)) else none
  | .error _ => none

/-- The number of an interface: its attribute, or else what follows the last dot of the directory's
name. -/
def interfaceNumber? (tree : FileTree) (directory : FileTree.Place) : Option UInt8 :=
  let read : Option Nat := do
    Number.read? 16 0x100 (← attribute? tree directory "bInterfaceNumber").toList
  let named : Option Nat := do
    Number.read? 10 0x100 (((← directory.getLast?).toList.splitOn '.').getLastD [])
  (read <|> named).map UInt8.ofNat

/-- What the directory of a USB device says of it: vendor, product and place on the bus. -/
def identify (tree : FileTree) (directory : FileTree.Place) :
    Except Malformed (UInt16 × UInt16 × String) := do
  let vid ← hexAttribute tree directory "idVendor"
  let pid ← hexAttribute tree directory "idProduct"
  let busnum ← requiredAttribute tree directory "busnum"
  let devpath ← requiredAttribute tree directory "devpath"
  return (vid, pid, location busnum devpath)

/-- A value that has to be there for an entry not to be passed over. -/
def orSkip (skip : Skip) : Option α → Except Skip α
  | some value => .ok value
  | none => .error skip

/-- What is known of the device whose directory a path leads to, or why it is passed over. -/
def inspect (sysfs : Sysfs) (tree : FileTree) (path : String) (family : Family) :
    Except Skip Info := do
  if path.toList.contains '\x00' then throw .notThere
  let directory ← orSkip .notThere (tree.follow path).toOption
  let root ← orSkip .notThere (tree.follow sysfs.root).toOption
  if !root.isPrefixOf directory then throw .outside
  let interface ← orSkip .noInterface (nearestWith? tree root directory ["bInterfaceNumber"])
  let device ← orSkip .noDevice (nearestWith? tree root directory ["idVendor", "busnum"])
  let name ← orSkip .noName (nodeName? tree directory <|> directory.getLast?)
  let node := Path.join sysfs.devRoot name
  if !tree.isThere node then throw .noNode
  let (vid, pid, location) ← (identify tree device).mapError .malformed
  let number ← orSkip .noInterfaceNumber (interfaceNumber? tree interface)
  return {
    key := "/" ++ String.intercalate "/" (directory.drop root.length)
    family, location, interface := number, path := node, vid, pid
    manufacturer := attribute? tree device "manufacturer"
    product := attribute? tree device "product"
    serialNumber := attribute? tree device "serial" }

/-- What is known of the device at a path, with the diagnostics on the way. -/
def read (sysfs : Sysfs) (path : String) (family : Family) : Action FileTree (Option Info) := do
  match sysfs.inspect (← Action.get) path family with
  | .ok info => return some info
  | .error skip =>
    for diagnostic in skip.diagnostics do Action.say (.diagnostic diagnostic)
    return none

/-- What is known of the device that an event names by its path below the root. -/
def deviceAt (sysfs : Sysfs) (devpath : String) (family : Family) :
    Action FileTree (Option Info) :=
  sysfs.read (Path.join sysfs.root (Path.relative devpath)) family

/-- The class directory of a family. -/
def classPath (sysfs : Sysfs) (family : Family) : String :=
  Path.join (Path.join sysfs.root "class") family.subsystem

/-- The entries of a class directory in ascending order. A missing directory has none. -/
def classEntries (sysfs : Sysfs) (tree : FileTree) (family : Family) :
    Except Failure (List String) :=
  let path := sysfs.classPath family
  match tree.list path with
  | .ok names => .ok ((names.mergeSort (· ≤ ·)).map (Path.join path))
  | .error (.number errno) =>
    if errno = .noEntry then .ok []
    else .error (.ofErrno ("read_dir('" ++ path ++ "')") errno)
  | .error other => .error (.ofSystemError ("read_dir('" ++ path ++ "')") other)

/-- The devices of one family that pass a filter, in the order of their entries. -/
def enumerateFamily (sysfs : Sysfs) (filter : Filter) (family : Family) :
    Action FileTree (List Info) := do
  let paths ← Action.require (sysfs.classEntries (← Action.get) family)
  let found ← paths.mapM (sysfs.read · family)
  return (found.filterMap id).filter filter.passes

/-- The devices that pass a filter, human interface devices first. A family that the filter keeps out
is not looked at. -/
def enumerate (sysfs : Sysfs) (filter : Filter) : Action FileTree (List Info) := do
  let found ← (Family.all.filter filter.admits).mapM (sysfs.enumerateFamily filter)
  return found.flatten

end Sysfs

end Hotplug
