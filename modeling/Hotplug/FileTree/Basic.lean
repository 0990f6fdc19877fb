import Hotplug.Bytes
import Hotplug.Errno
import Hotplug.FileTree.Path
import Hotplug.Text.Utf8
/-!
# File trees

Directories, files and symbolic links, and how a path finds its way among them. A place in the tree
is the list of names that leads to it from the root without any link. Links are followed where a path
goes on behind them, and at its end if asked; no path follows more than forty of them. A path to a
new file may end in a name that is not there yet, also behind a link.

## Main definitions

* `Hotplug.FileTree`, `Hotplug.FileTree.Place`
* `Hotplug.FileTree.Ending`: how the end of a path is read.
* `Hotplug.FileTree.resolve`: the place that a path leads to.
* `Hotplug.FileTree.follow`: the same without a bound on the length of the path.
* `Hotplug.FileTree.readText`, `Hotplug.FileTree.list`
-/

namespace Hotplug

/-- What there can be at a place. -/
inductive FileTree.Node
  /-- A file with its contents. -/
  | file (contents : Bytes)
  | directory
  /-- A symbolic link with its target. -/
  | link (target : String)
  deriving DecidableEq, Repr

/-- The names that lead to a place from the root, without any link. -/
abbrev FileTree.Place := List String

/-- A tree of directories, files and links. -/
structure FileTree where
  /-- What is where, the root apart. -/
  nodes : List (FileTree.Place × FileTree.Node) := []
  /-- The directory in which relative paths start. -/
  home : FileTree.Place := []
  deriving DecidableEq, Repr

namespace FileTree

/-- How the end of a path is read. -/
inductive Ending
  /-- A link at the end counts as what it leads to. -/
  | target
  /-- A link at the end counts as itself. -/
  | link
  /-- A link at the end counts as what it leads to, and nothing need be there. -/
  | fresh
  deriving DecidableEq, Repr

/-- How many links one path may follow. -/
def linkLimit : Nat := 40

/-- How many bytes a name may have. -/
def nameLimit : Nat := 255

/-- How many bytes are too many for a path in a call. -/
def pathLimit : Nat := 4096

/-- What is at a place. The root is a directory. -/
def node? (tree : FileTree) (place : Place) : Option Node :=
  if place = [] then some .directory else tree.nodes.lookup place

/-- Whether there is a directory at a place. -/
def isDirectory (tree : FileTree) (place : Place) : Bool :=
  tree.node? place == some .directory

/-- The names in a directory, in the order in which they came into being. -/
def children (tree : FileTree) (place : Place) : List String :=
  tree.nodes.filterMap fun (p, _) =>
    match p.getLast? with
    | some name => if p = place ++ [name] then some name else none
    | none => none

/-- Why nothing is there under a name, in a directory that does not have it. -/
def missing (name : String) : Errno :=
  if nameLimit < name.utf8ByteSize then .nameTooLong else .noEntry

/-- Follows names from a place. `links` is how many links may still be followed. -/
def walk (tree : FileTree) (ending : Ending) (links : Nat) (at_ : Place) (names : List String) :
    Except Errno Place :=
  match names with
  | [] => .ok at_
  | name :: rest =>
    if !tree.isDirectory at_ then .error .notDirectory
    else if name = "." then walk tree ending links at_ rest
    else if name = ".." then walk tree ending links at_.dropLast rest
    else
      match tree.node? (at_ ++ [name]) with
      | none =>
        if rest = [] ∧ ending = .fresh ∧ name.utf8ByteSize ≤ nameLimit then .ok (at_ ++ [name])
        else .error (missing name)
      | some (.link target) =>
        if rest = [] ∧ ending = .link then .ok (at_ ++ [name])
        else
          match links with
          | 0 => .error .linkLoop
          | more + 1 =>
            walk tree ending more (if Path.isAbsolute target then [] else at_)
              (Path.names target ++ rest)
      | some _ => walk tree ending links (at_ ++ [name]) rest
  termination_by (links, names.length)

/-- Where a path starts. -/
def origin (tree : FileTree) (path : String) : Place :=
  if Path.isAbsolute path then [] else tree.home

/-- The place that a path leads to, however long the path is. -/
def follow (tree : FileTree) (path : String) (ending : Ending := .target) : Except Errno Place :=
  if path.isEmpty then .error .noEntry
  else tree.walk ending linkLimit (tree.origin path) (Path.names path)

/-- The place that a path leads to. A call takes no path that is too long. -/
def resolve (tree : FileTree) (path : String) (ending : Ending := .target) : Except Errno Place :=
  if pathLimit ≤ path.utf8ByteSize then .error .nameTooLong else tree.follow path ending

/-- The text of a path as an absolute one. -/
def placePath (place : Place) : String :=
  "/" ++ String.intercalate "/" place

/-- Whether a path leads to anything. -/
def isThere (tree : FileTree) (path : String) : Bool :=
  !path.toList.contains '\x00' && (tree.resolve path).toOption.isSome

/-- Whether a path leads to a file. -/
def isFile (tree : FileTree) (path : String) : Bool :=
  match tree.resolve path with
  | .ok place => match tree.node? place with
    | some (.file _) => true
    | _ => false
  | .error _ => false

/-- What a call says about a path that holds a zero character. -/
def zeroInPath : SystemError :=
  .kind .other "file name contained an unexpected NUL byte"

/-- The contents of the file that a path leads to. -/
def read (tree : FileTree) (path : String) : Except SystemError (Bytes) :=
  if path.toList.contains '\x00' then .error zeroInPath
  else match tree.resolve path with
    | .error errno => .error (.number errno)
    | .ok place => match tree.node? place with
      | some (.file contents) => .ok contents
      | _ => .error (.number .isDirectory)

/-- The text of the file that a path leads to. -/
def readText (tree : FileTree) (path : String) : Except SystemError String := do
  match Text.ofUtf8? (← tree.read path) with
  | some text => .ok text
  | none => .error (.kind .invalidData "stream did not contain valid UTF-8")

/-- The names in the directory that a path leads to. -/
def list (tree : FileTree) (path : String) : Except SystemError (List String) :=
  if path.toList.contains '\x00' then .error zeroInPath
  else match tree.resolve path with
    | .error errno => .error (.number errno)
    | .ok place =>
      if tree.isDirectory place then .ok (tree.children place)
      else .error (.number .notDirectory)

end FileTree

end Hotplug
