import Hotplug.Proofs.FileTree.Walking
/-!
# Directories in another order

Two trees that differ in nothing but the order in which directories list their names. Every path leads to
the same place in both, and says the same there.

## Main definitions

* `Hotplug.FileTree.Reordered`

## Main statements

* `Hotplug.FileTree.Reordered.of_perm`: entries that came into being in another order.
* `Hotplug.FileTree.Reordered.walk`, `Hotplug.FileTree.Reordered.list`
-/

namespace Hotplug

namespace FileTree

variable {tree other : FileTree}

/-- The trees have the same at every place, and every directory lists the same names in some order. -/
structure Reordered (tree other : FileTree) : Prop where
  home : tree.home = other.home
  node? : ∀ place, tree.node? place = other.node? place
  children : ∀ place, (tree.children place).Perm (other.children place)

theorem lookup_eq_of_perm {nodes others : List (Place × Node)} (h : nodes.Perm others)
    (hnodup : (nodes.map (·.1)).Nodup) (place : Place) : nodes.lookup place = others.lookup place := by
  induction h with
  | nil => rfl
  | cons entry _ ih => rw [List.lookup_cons, List.lookup_cons, ih (List.nodup_cons.1 hnodup).2]
  | swap first second rest =>
    have hne : second.1 ≠ first.1 := fun heq => (List.nodup_cons.1 hnodup).1 (by simp [heq])
    rw [List.lookup_cons, List.lookup_cons, List.lookup_cons, List.lookup_cons]
    by_cases hfirst : place = first.1
    · subst hfirst
      rw [beq_self_eq_true, beq_false_of_ne hne.symm]
    · rw [beq_false_of_ne hfirst]
  | trans hfirst _ ih ih' => rw [ih hnodup, ih' ((hfirst.map _).nodup_iff.1 hnodup)]

/-- Trees whose entries came into being in another order. -/
theorem Reordered.of_perm (hhome : tree.home = other.home) (hnodes : tree.nodes.Perm other.nodes)
    (hnodup : (tree.nodes.map (·.1)).Nodup) : Reordered tree other where
  home := hhome
  node? place := by rw [FileTree.node?, FileTree.node?, lookup_eq_of_perm hnodes hnodup]
  children _ := hnodes.filterMap _

namespace Reordered

variable (h : Reordered tree other)

include h

theorem isDirectory (place : Place) : tree.isDirectory place = other.isDirectory place := by
  rw [FileTree.isDirectory, FileTree.isDirectory, h.node?]

theorem walkNames (ending : Ending) (behind : Place → String → List String → Except Errno Place)
    (at_ : Place) (names : List String) :
    tree.walkNames ending behind at_ names = other.walkNames ending behind at_ names := by
  induction names generalizing at_ with
  | nil => rfl
  | cons name rest ih => simp only [FileTree.walkNames, h.isDirectory, h.node?, ih]

theorem walk (ending : Ending) (links : Nat) (at_ : Place) (names : List String) :
    tree.walk ending links at_ names = other.walk ending links at_ names := by
  rw [walk_eq_walkLinks]
  induction links generalizing at_ names with
  | zero => exact h.walkNames ending _ at_ names
  | succ links ih =>
    rw [walkLinks, walkLinks, h.walkNames]
    congr 1
    funext at_ target rest
    exact ih _ _

theorem follow (path : String) (ending : Ending) : tree.follow path ending = other.follow path ending := by
  rw [FileTree.follow, FileTree.follow, origin, origin, h.home, h.walk]

theorem resolve (path : String) (ending : Ending) :
    tree.resolve path ending = other.resolve path ending := by
  rw [FileTree.resolve, FileTree.resolve, h.follow]

theorem isThere (path : String) : tree.isThere path = other.isThere path := by
  rw [FileTree.isThere, FileTree.isThere, h.resolve]

theorem isFile (path : String) : tree.isFile path = other.isFile path := by
  simp only [FileTree.isFile, h.resolve, h.node?]

theorem readText (path : String) : tree.readText path = other.readText path := by
  simp only [FileTree.readText, FileTree.read, h.resolve, h.node?]

/-- A listing fails in both trees alike, or gives the same names in some order. -/
theorem list (path : String) : tree.list path = other.list path ∨
    ∃ names names', tree.list path = .ok names ∧ other.list path = .ok names' ∧ names.Perm names' := by
  simp only [FileTree.list, h.resolve, h.isDirectory]
  split
  · exact .inl rfl
  · split
    · exact .inl rfl
    · next place _ =>
      split
      · exact .inr ⟨_, _, rfl, rfl, h.children place⟩
      · exact .inl rfl

end Reordered

end FileTree

end Hotplug
