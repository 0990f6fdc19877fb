import Hotplug.FileTree.Basic
/-!
# Changing file trees

Making directories, files and links, and removing them. Directories on the way are made as needed. A
file is written where a link leads, also if nothing is there yet; no directory is made that way. What
cannot be done leaves the tree as it is.

## Main definitions

* `Hotplug.FileTree.Edit`, `Hotplug.FileTree.apply`
-/

namespace Hotplug.FileTree

/-- A change of a tree. -/
inductive Edit
  /-- Makes a directory. -/
  | directory (path : String)
  /-- Writes a file. -/
  | file (path : String) (contents : Bytes)
  /-- Makes a symbolic link. -/
  | link (path target : String)
  /-- Removes a link, a file, or a directory with everything in it. -/
  | remove (path : String)
  deriving DecidableEq, Repr

/-- Puts a node at a place. -/
def put (tree : FileTree) (place : Place) (node : Node) : FileTree :=
  if (tree.node? place).isSome then
    { tree with
      nodes := tree.nodes.map fun (p, n) => if p = place then (p, node) else (p, n) }
  else { tree with nodes := tree.nodes ++ [(place, node)] }

/-- Takes everything at and below a place out. -/
def prune (tree : FileTree) (place : Place) : FileTree :=
  { tree with nodes := tree.nodes.filter fun (p, _) => !place.isPrefixOf p }

/-- Follows names from a directory and makes those that are not there. The place reached, if every
name on the way is a directory in the end. -/
def makeDirectories (tree : FileTree) (at_ : Place) : List String → FileTree × Option Place
  | [] => (tree, some at_)
  | name :: rest =>
    match tree.walk .target linkLimit at_ [name, "."] with
    | .ok place => tree.makeDirectories place rest
    | .error errno =>
      if errno = .noEntry ∧ (tree.node? (at_ ++ [name])).isNone then
        (tree.put (at_ ++ [name]) .directory).makeDirectories (at_ ++ [name]) rest
      else (tree, none)

/-- The names of a path, the last one apart, and the last one. -/
def splitLast (path : String) : List String × Option String :=
  let names := Path.split path.toList
  (names.dropLast, names.getLast?)

/-- Makes what leads to a path, then does something in that directory. A slash at the end asks for a
directory, which nothing but a directory can become. -/
def within (tree : FileTree) (path : String) (edit : FileTree → Place → String → FileTree) :
    FileTree :=
  match splitLast path with
  | (_, none) => tree
  | (before, some name) =>
    match tree.makeDirectories (tree.origin path) before with
    | (made, some place) =>
      if path.toList.getLast? = some '/' then made else edit made place name
    | (made, none) => made

/-- Whether a link with a name and a target can be made at a place. -/
def takesLink (tree : FileTree) (place : Place) (name target : String) : Bool :=
  match tree.walk .link linkLimit place [name] with
  | .ok _ => false
  | .error errno => !target.isEmpty && errno == .noEntry

/-- Applies a change. -/
def apply (tree : FileTree) : Edit → FileTree
  | .directory path => (tree.makeDirectories (tree.origin path) (Path.split path.toList)).1
  | .file path contents =>
    tree.within path fun made place name =>
      match made.walk .fresh linkLimit place [name] with
      | .ok target => if made.isDirectory target then made else made.put target (.file contents)
      | .error _ => made
  | .link path target =>
    tree.within path fun made place name =>
      if made.takesLink place name target then made.put (place ++ [name]) (.link target) else made
  | .remove path =>
    match tree.resolve path .link with
    | .ok place => tree.prune place
    | .error _ => tree

/-- Applies changes in order. -/
def applyAll (tree : FileTree) (edits : List Edit) : FileTree :=
  edits.foldl apply tree

end Hotplug.FileTree
