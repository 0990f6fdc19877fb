import Mathlib.Data.List.Basic
import Mathlib.Data.List.Induction
import Hotplug.FileTree.Basic
/-!
# Walks through a file tree

What a successful walk did, as a relation with one rule for each kind of step. Walks can be put
together and taken apart, and never end behind a link: the place reached is *real*, which means that
every name that leads to it is that of a file or a directory in a directory. A real place is found
again by its names.

## Main definitions

* `Hotplug.Path.IsName`: a name that stands for itself in a path.
* `Hotplug.FileTree.WellFormed`: the entries have such names, and each lies in a directory.
* `Hotplug.FileTree.Walks`: the relation.
* `Hotplug.FileTree.Real`

## Main statements

* `Hotplug.Path.names_join`: the names of a path below another one.
* `Hotplug.FileTree.walk_eq_ok_iff`: the walks of the relation are those of the function.
* `Hotplug.FileTree.Walks.append`, `Hotplug.FileTree.Walks.of_append`
* `Hotplug.FileTree.follow_below`, `Hotplug.FileTree.eq_of_follow_below`: what the path of a place
  below another one leads to.
-/

namespace Hotplug

/-! ### Names -/

namespace Path

/-- A name that stands for itself in a path. -/
structure IsName (name : String) : Prop where
  ne_empty : name ≠ ""
  unbroken : '/' ∉ name.toList
  ne_same : name ≠ "."
  ne_up : name ≠ ".."

instance (name : String) : Decidable (IsName name) :=
  decidable_of_iff (name ≠ "" ∧ '/' ∉ name.toList ∧ name ≠ "." ∧ name ≠ "..")
    ⟨fun ⟨hempty, hslash, hsame, hup⟩ => ⟨hempty, hslash, hsame, hup⟩,
      fun h => ⟨h.ne_empty, h.unbroken, h.ne_same, h.ne_up⟩⟩

theorem split_append (a b : List Char) : split (a ++ '/' :: b) = split a ++ split b := by
  simp only [split, List.splitOn_append_cons_self, List.filter_append, List.map_append]

theorem split_append_slash (a : List Char) : split (a ++ ['/']) = split a := by
  rw [split_append]
  exact List.append_nil _

section Intercalate

variable {names : List String}

theorem splitOn_intercalate (h : ∀ name ∈ names, IsName name) (hne : names ≠ []) :
    (String.intercalate "/" names).toList.splitOn '/' = names.map String.toList := by
  rw [String.toList_intercalate]
  refine List.splitOn_intercalate '/' ?_ (by simpa using hne)
  intro chars hchars
  obtain ⟨name, hname, rfl⟩ := List.mem_map.1 hchars
  exact (h name hname).unbroken

theorem split_intercalate (h : ∀ name ∈ names, IsName name) :
    split (String.intercalate "/" names).toList = names := by
  by_cases hne : names = []
  · subst hne
    rfl
  · have hkept : (names.map String.toList).filter (!·.isEmpty) = names.map String.toList := by
      refine List.filter_eq_self.2 fun chars hchars => ?_
      obtain ⟨name, hname, rfl⟩ := List.mem_map.1 hchars
      simpa using (h name hname).ne_empty
    rw [split, splitOn_intercalate h hne, hkept, List.map_map]
    simp [Function.comp_def]

/-- Joined names neither begin nor end with a slash: one more piece would be empty. -/
theorem ends_intercalate (h : ∀ name ∈ names, IsName name) :
    (String.intercalate "/" names).toList.head? ≠ some '/' ∧
      (String.intercalate "/" names).toList.getLast? ≠ some '/' := by
  by_cases hne : names = []
  · subst hne
    decide
  · have hpieces := splitOn_intercalate h hne
    have hfull : [] ∉ names.map String.toList := by
      intro hmem
      obtain ⟨name, hname, hnil⟩ := List.mem_map.1 hmem
      exact (h name hname).ne_empty (by simpa using hnil)
    constructor
    · intro hhead
      obtain ⟨rest, hrest⟩ := List.head?_eq_some_iff.1 hhead
      rw [hrest, ← List.nil_append ('/' :: rest), List.splitOn_append_cons_self] at hpieces
      exact hfull (hpieces ▸ by simp)
    · intro hlast
      obtain ⟨before, hbefore⟩ := List.getLast?_eq_some_iff.1 hlast
      rw [hbefore, List.splitOn_append_cons_self] at hpieces
      exact hfull (hpieces ▸ by simp)

theorem relative_intercalate (h : ∀ name ∈ names, IsName name) :
    relative ("/" ++ String.intercalate "/" names) = String.intercalate "/" names := by
  have hhead := (ends_intercalate h).1
  have hdrop : (String.intercalate "/" names).toList.dropWhile (· == '/') =
      (String.intercalate "/" names).toList := by
    cases hchars : (String.intercalate "/" names).toList with
    | nil => rfl
    | cons c rest =>
      rw [hchars] at hhead
      exact List.dropWhile_cons_of_neg (by simpa using hhead)
  rw [relative, String.toList_append]
  change String.ofList ((String.intercalate "/" names).toList.dropWhile (· == '/')) = _
  rw [hdrop, String.ofList_toList]

theorem isAbsolute_intercalate (h : ∀ name ∈ names, IsName name) :
    isAbsolute (String.intercalate "/" names) = false := by
  simpa [isAbsolute] using (ends_intercalate h).1

variable {base name : String}

/-- The characters of a path as seen from another one. A slash at the end of the other one counts. -/
theorem toList_join (hbase : base ≠ "") (hname : isAbsolute name = false) :
    ∃ before, split before = split base.toList ∧
      (before ++ ['/']).head? = base.toList.head? ∧
      (join base name).toList = before ++ '/' :: name.toList := by
  have hlist : base.toList ≠ [] := by simpa using hbase
  rw [join, hname, Bool.false_or, if_neg (by simpa using hbase)]
  by_cases hslash : base.toList.getLast? = some '/'
  · obtain ⟨before, hbefore⟩ := List.getLast?_eq_some_iff.1 hslash
    refine ⟨before, ?_, ?_, ?_⟩
    · rw [hbefore, split_append_slash]
    · rw [hbefore]
    · rw [if_pos (by simpa using hslash), String.toList_append, hbefore, List.append_assoc]
      rfl
  · refine ⟨base.toList, rfl, ?_, ?_⟩
    · rw [List.head?_append_of_ne_nil _ hlist]
    · rw [if_neg (by simpa using hslash), String.toList_append, String.toList_append,
        List.append_assoc]
      rfl

theorem join_ne_empty (hbase : base ≠ "") (hname : isAbsolute name = false) : join base name ≠ "" := by
  obtain ⟨before, -, -, hjoin⟩ := toList_join hbase hname
  intro hempty
  simp [hempty] at hjoin

theorem isAbsolute_join (hbase : base ≠ "") (hname : isAbsolute name = false) :
    isAbsolute (join base name) = isAbsolute base := by
  obtain ⟨before, -, hhead, hjoin⟩ := toList_join hbase hname
  rw [isAbsolute, isAbsolute, hjoin, ← hhead]
  cases before <;> rfl

/-- The names of a path below another one. -/
theorem names_join (hbase : base ≠ "") (h : ∀ name ∈ names, IsName name) :
    Path.names (join base (String.intercalate "/" names)) =
      split base.toList ++ if names = [] then ["."] else names := by
  obtain ⟨before, hsplit, -, hjoin⟩ := toList_join hbase (isAbsolute_intercalate h)
  rw [Path.names, hjoin]
  simp only [split_append, hsplit, split_intercalate h, List.append_assoc]
  congr 1
  by_cases hne : names = []
  · subst hne
    simp
  · have hlast : (before ++ '/' :: (String.intercalate "/" names).toList).getLast? =
        (String.intercalate "/" names).toList.getLast? := by
      have hchars : (String.intercalate "/" names).toList ≠ [] := by
        intro hnil
        have hsplit := split_intercalate h
        rw [hnil] at hsplit
        exact hne hsplit.symm
      rw [List.getLast?_append_of_ne_nil _ (List.cons_ne_nil _ _), ← List.singleton_append,
        List.getLast?_append_of_ne_nil _ hchars]
    rw [hlast, if_neg (by simpa using (ends_intercalate h).2), if_neg hne, List.append_nil]

end Intercalate

theorem split_ne_nil {c : Char} (hc : c ≠ '/') (rest : List Char) : split (c :: rest) ≠ [] := by
  obtain ⟨piece, pieces, hpieces⟩ := List.exists_cons_of_ne_nil (List.splitOn_ne_nil '/' rest)
  rw [split, List.splitOn_cons_eq_if_modifyHead, if_neg (by simpa using hc), hpieces]
  simp

theorem mem_join {base name : String} {c : Char} (h : c ∈ (join base name).toList) :
    c ∈ base.toList ∨ c = '/' ∨ c ∈ name.toList := by
  rw [join] at h
  split at h
  · exact .inr (.inr h)
  · split at h
    · rw [String.toList_append, List.mem_append] at h
      exact h.imp_right .inr
    · rw [String.toList_append, String.toList_append, List.mem_append, List.mem_append] at h
      rcases h with (h | h) | h
      · exact .inl h
      · exact .inr (.inl (by simpa using h))
      · exact .inr (.inr h)

theorem mem_join_left {base name : String} {c : Char} (hname : isAbsolute name = false)
    (h : c ∈ base.toList) : c ∈ (join base name).toList := by
  have hbase : base ≠ "" := by
    rintro rfl
    simp at h
  rw [join, hname, Bool.false_or, if_neg (by simpa using hbase)]
  split <;> simp [h]

theorem mem_intercalate {names : List String} {c : Char}
    (h : c ∈ (String.intercalate "/" names).toList) : c = '/' ∨ ∃ name ∈ names, c ∈ name.toList := by
  induction names with
  | nil => simp at h
  | cons name rest ih =>
    cases rest with
    | nil => exact .inr ⟨name, List.mem_cons_self, by simpa using h⟩
    | cons other rest =>
      rw [String.intercalate_cons_cons, String.toList_append, String.toList_append, List.mem_append,
        List.mem_append] at h
      rcases h with (h | h) | h
      · exact .inr ⟨name, List.mem_cons_self, h⟩
      · exact .inl (by simpa using h)
      · refine (ih h).imp_right ?_
        rintro ⟨found, hfound, hc⟩
        exact ⟨found, List.mem_cons_of_mem _ hfound, hc⟩

/-- A path below another one has the characters of both, and slashes. -/
theorem not_mem_join {base : String} {names : List String} {c : Char} (hc : c ≠ '/')
    (hbase : c ∉ base.toList) (hnames : ∀ name ∈ names, c ∉ name.toList) :
    c ∉ (join base (String.intercalate "/" names)).toList := by
  intro hmem
  rcases mem_join hmem with h | h | h
  · exact hbase h
  · exact hc h
  · rcases mem_intercalate h with h | ⟨name, hname, h⟩
    · exact hc h
    · exact hnames name hname h

/-- A path is its names, and asks for a directory if it ends with a slash. -/
theorem names_eq (path : String) :
    Path.names path = split path.toList ∨ Path.names path = split path.toList ++ ["."] := by
  rw [Path.names]
  split
  · exact .inr rfl
  · exact .inl (List.append_nil _)

end Path

namespace FileTree

variable {tree : FileTree}

/-- Every entry has names that stand for themselves and hold no zero character, and lies in a
directory. -/
structure WellFormed (tree : FileTree) : Prop where
  named : ∀ entry ∈ tree.nodes, ∀ name ∈ entry.1, Path.IsName name ∧ '\x00' ∉ name.toList
  nested : ∀ entry ∈ tree.nodes, tree.isDirectory entry.1.dropLast = true

/-! ### Walks -/

/-- What is at a place that is not a link. -/
def isFinal (tree : FileTree) (place : Place) : Bool :=
  match tree.node? place with
  | none | some (.link _) => false
  | some _ => true

/-- Names lead from a place to another, with so many links left before and after. -/
inductive Walks (tree : FileTree) : Nat → Place → List String → Nat → Place → Prop
  | nil {links at_} : Walks tree links at_ [] links at_
  | same {links at_ rest left there} (hdirectory : tree.isDirectory at_ = true)
    (hrest : Walks tree links at_ rest left there) : Walks tree links at_ ("." :: rest) left there
  | up {links at_ rest left there} (hdirectory : tree.isDirectory at_ = true)
    (hrest : Walks tree links at_.dropLast rest left there) :
    Walks tree links at_ (".." :: rest) left there
  | through {links at_ name rest left there target} (hdirectory : tree.isDirectory at_ = true)
    (hsame : name ≠ ".") (hup : name ≠ "..") (hlink : tree.node? (at_ ++ [name]) = some (.link target))
    (hrest : Walks tree links (if Path.isAbsolute target then [] else at_)
      (Path.names target ++ rest) left there) : Walks tree (links + 1) at_ (name :: rest) left there
  | into {links at_ name rest left there} (hdirectory : tree.isDirectory at_ = true)
    (hsame : name ≠ ".") (hup : name ≠ "..") (hfinal : tree.isFinal (at_ ++ [name]) = true)
    (hrest : Walks tree links (at_ ++ [name]) rest left there) :
    Walks tree links at_ (name :: rest) left there

theorem Walks.of_walk {links : Nat} {at_ there : Place} {names : List String}
    (h : tree.walk .target links at_ names = .ok there) : ∃ left, Walks tree links at_ names left there := by
  induction links, at_, names using walk.induct tree .target with
  | case1 links at_ =>
    rw [FileTree.walk] at h
    cases h
    exact ⟨_, .nil⟩
  | case2 links at_ name rest hnot =>
    rw [FileTree.walk, if_pos hnot] at h
    cases h
  | case3 links at_ rest hdirectory ih =>
    rw [FileTree.walk, if_neg hdirectory, if_pos rfl] at h
    obtain ⟨left, hrest⟩ := ih h
    exact ⟨left, .same (by simpa using hdirectory) hrest⟩
  | case4 links at_ rest hdirectory hsame ih =>
    rw [FileTree.walk, if_neg hdirectory, if_neg hsame, if_pos rfl] at h
    obtain ⟨left, hrest⟩ := ih h
    exact ⟨left, .up (by simpa using hdirectory) hrest⟩
  | case5 links at_ name rest hdirectory hsame hup hnone hfresh => cases hfresh.2.1
  | case6 links at_ name rest hdirectory hsame hup hnone hfresh =>
    rw [FileTree.walk, if_neg hdirectory, if_neg hsame, if_neg hup, hnone] at h
    simp at h
  | case7 links at_ name rest hdirectory hsame hup target hlink hend => cases hend.2
  | case8 at_ name rest hdirectory hsame hup target hlink hend =>
    rw [FileTree.walk, if_neg hdirectory, if_neg hsame, if_neg hup, hlink] at h
    simp at h
  | case9 at_ name rest hdirectory hsame hup target hlink hend more ih =>
    rw [FileTree.walk, if_neg hdirectory, if_neg hsame, if_neg hup, hlink] at h
    simp only [reduceCtorEq, and_false, if_false] at h
    obtain ⟨left, hrest⟩ := ih h
    exact ⟨left, .through (by simpa using hdirectory) hsame hup hlink hrest⟩
  | case10 links at_ name rest hdirectory hsame hup node hfinal hnode ih =>
    rw [FileTree.walk, if_neg hdirectory, if_neg hsame, if_neg hup, hnode] at h
    have hplain : tree.isFinal (at_ ++ [name]) = true := by
      rw [isFinal, hnode]
      cases node <;> first | rfl | exact (hfinal _ rfl).elim
    obtain ⟨left, hrest⟩ := ih (by cases node <;> first | exact h | exact (hfinal _ rfl).elim)
    exact ⟨left, .into (by simpa using hdirectory) hsame hup hplain hrest⟩

theorem Walks.walk {links left : Nat} {at_ there : Place} {names : List String}
    (h : Walks tree links at_ names left there) : tree.walk .target links at_ names = .ok there := by
  induction h with
  | nil => rw [FileTree.walk]
  | same hdirectory _ ih => rw [FileTree.walk, if_neg (by simpa using hdirectory), if_pos rfl, ih]
  | up hdirectory _ ih =>
    rw [FileTree.walk, if_neg (by simpa using hdirectory), if_neg (by decide), if_pos rfl, ih]
  | through hdirectory hsame hup hlink _ ih =>
    rw [FileTree.walk, if_neg (by simpa using hdirectory), if_neg hsame, if_neg hup, hlink]
    simpa using ih
  | @into links at_ name rest left there hdirectory hsame hup hfinal _ ih =>
    rw [isFinal] at hfinal
    cases hnode : tree.node? (at_ ++ [name]) with
    | none =>
      rw [hnode] at hfinal
      cases hfinal
    | some node =>
      rw [hnode] at hfinal
      rw [FileTree.walk, if_neg (by simpa using hdirectory), if_neg hsame, if_neg hup, hnode]
      cases node with
      | link target => cases hfinal
      | file | directory => exact ih

/-- One walk after another. -/
theorem Walks.append {links left last : Nat} {at_ place there : Place} {names more : List String}
    (h : Walks tree links at_ names left place) (hmore : Walks tree left place more last there) :
    Walks tree links at_ (names ++ more) last there := by
  induction h with
  | nil => exact hmore
  | same hdirectory _ ih => exact .same hdirectory (ih hmore)
  | up hdirectory _ ih => exact .up hdirectory (ih hmore)
  | through hdirectory hsame hup hlink _ ih =>
    exact .through hdirectory hsame hup hlink (by simpa using ih hmore)
  | into hdirectory hsame hup hfinal _ ih => exact .into hdirectory hsame hup hfinal (ih hmore)

/-- A walk stops on its way wherever its names are cut. -/
theorem Walks.of_append {links last : Nat} {at_ there : Place} {names more : List String}
    (h : Walks tree links at_ (names ++ more) last there) :
    ∃ left place, Walks tree links at_ names left place ∧ Walks tree left place more last there := by
  generalize hall : names ++ more = all at h
  induction h generalizing names with
  | nil =>
    obtain ⟨rfl, rfl⟩ := List.append_eq_nil_iff.1 hall
    exact ⟨_, _, .nil, .nil⟩
  | same hdirectory hrest ih =>
    rcases List.append_eq_cons_iff.1 hall with ⟨rfl, rfl⟩ | ⟨names, rfl, rfl⟩
    · exact ⟨_, _, .nil, .same hdirectory hrest⟩
    · obtain ⟨left, place, hnames, hmore⟩ := ih rfl
      exact ⟨left, place, .same hdirectory hnames, hmore⟩
  | up hdirectory hrest ih =>
    rcases List.append_eq_cons_iff.1 hall with ⟨rfl, rfl⟩ | ⟨names, rfl, rfl⟩
    · exact ⟨_, _, .nil, .up hdirectory hrest⟩
    · obtain ⟨left, place, hnames, hmore⟩ := ih rfl
      exact ⟨left, place, .up hdirectory hnames, hmore⟩
  | through hdirectory hsame hup hlink hrest ih =>
    rcases List.append_eq_cons_iff.1 hall with ⟨rfl, rfl⟩ | ⟨names, rfl, rfl⟩
    · exact ⟨_, _, .nil, .through hdirectory hsame hup hlink hrest⟩
    · obtain ⟨left, place, hnames, hmore⟩ := ih (List.append_assoc _ _ _)
      exact ⟨left, place, .through hdirectory hsame hup hlink hnames, hmore⟩
  | into hdirectory hsame hup hfinal hrest ih =>
    rcases List.append_eq_cons_iff.1 hall with ⟨rfl, rfl⟩ | ⟨names, rfl, rfl⟩
    · exact ⟨_, _, .nil, .into hdirectory hsame hup hfinal hrest⟩
    · obtain ⟨left, place, hnames, hmore⟩ := ih rfl
      exact ⟨left, place, .into hdirectory hsame hup hfinal hnames, hmore⟩

theorem Walks.isDirectory {links left : Nat} {at_ there : Place} {name : String} {rest : List String}
    (h : Walks tree links at_ (name :: rest) left there) : tree.isDirectory at_ = true := by
  cases h <;> assumption

/-! ### Real places -/

/-- Every name that leads to the place is that of a file or a directory in a directory. -/
def Real (tree : FileTree) (place : Place) : Prop :=
  ∀ before name, before ++ [name] <+: place →
    tree.isDirectory before = true ∧ tree.isFinal (before ++ [name]) = true

theorem Real.root : Real tree [] := by
  intro before name h
  simp at h

theorem Real.dropLast {place : Place} (h : Real tree place) : Real tree place.dropLast :=
  fun before name hbefore => h before name (hbefore.trans (List.dropLast_prefix place))

theorem Real.concat {place : Place} {name : String} (h : Real tree place)
    (hdirectory : tree.isDirectory place = true) (hfinal : tree.isFinal (place ++ [name]) = true) :
    Real tree (place ++ [name]) := by
  intro before other hbefore
  rcases List.prefix_concat_iff.1 hbefore with heq | hbefore
  · obtain ⟨rfl, hname⟩ := List.append_inj' heq rfl
    cases hname
    exact ⟨hdirectory, hfinal⟩
  · exact h before other hbefore

theorem Walks.real {links left : Nat} {at_ there : Place} {names : List String}
    (h : Walks tree links at_ names left there) (hreal : Real tree at_) : Real tree there := by
  induction h with
  | nil => exact hreal
  | same _ _ ih => exact ih hreal
  | up _ _ ih => exact ih hreal.dropLast
  | through _ _ _ _ _ ih =>
    refine ih ?_
    split
    · exact Real.root
    · exact hreal
  | into hdirectory _ _ hfinal _ ih => exact ih (hreal.concat hdirectory hfinal)

theorem mem_of_node? {place : Place} {node : Node} (hne : place ≠ [])
    (h : tree.node? place = some node) : (place, node) ∈ tree.nodes := by
  rw [node?, if_neg hne] at h
  obtain ⟨before, after, heq, -⟩ := List.lookup_eq_some_iff.1 h
  simp [heq]

theorem isFinal_of_isDirectory {place : Place} (h : tree.isDirectory place = true) :
    tree.isFinal place = true := by
  have hnode : tree.node? place = some .directory := by simpa [isDirectory] using h
  rw [isFinal, hnode]

theorem exists_of_isFinal {place : Place} (h : tree.isFinal place = true) :
    ∃ node, tree.node? place = some node := by
  rw [isFinal] at h
  split at h
  · cases h
  · cases h
  · next node _ hnode => exact ⟨node, hnode⟩

/-- In a tree where every entry lies in a directory, directories are real. -/
theorem WellFormed.real (h : WellFormed tree) {place : Place}
    (hdirectory : tree.isDirectory place = true) : Real tree place := by
  induction place using List.reverseRecOn with
  | nil => exact Real.root
  | append_singleton place name ih =>
    have hnode : tree.node? (place ++ [name]) = some .directory := by
      simpa [FileTree.isDirectory] using hdirectory
    have hparent : tree.isDirectory place = true := by
      simpa using h.nested _ (mem_of_node? (by simp) hnode)
    exact (ih hparent).concat hparent (isFinal_of_isDirectory hdirectory)

/-- The names that lead to a real place are those of entries. -/
theorem WellFormed.named_of_real (h : WellFormed tree) {place : Place} (hreal : Real tree place) :
    ∀ name ∈ place, Path.IsName name ∧ '\x00' ∉ name.toList := by
  intro name hname
  obtain ⟨before, after, rfl⟩ := List.append_of_mem hname
  have hbefore : before ++ [name] <+: before ++ name :: after := ⟨after, by simp⟩
  obtain ⟨node, hnode⟩ := exists_of_isFinal (hreal before name hbefore).2
  exact h.named _ (mem_of_node? (by simp) hnode) name (by simp)

/-- Names lead to the real place that they name, through no link. -/
theorem Real.walks {at_ : Place} {names : List String} (h : Real tree (at_ ++ names))
    (hnames : ∀ name ∈ names, Path.IsName name) (links : Nat) :
    Walks tree links at_ names links (at_ ++ names) := by
  induction names generalizing at_ with
  | nil =>
    rw [List.append_nil]
    exact .nil
  | cons name rest ih =>
    obtain ⟨hname, hrest⟩ := List.forall_mem_cons.1 hnames
    have hall : at_ ++ name :: rest = at_ ++ [name] ++ rest := by simp
    rw [hall] at h ⊢
    obtain ⟨hdirectory, hfinal⟩ := h at_ name (List.prefix_append _ _)
    exact .into hdirectory hname.ne_same hname.ne_up hfinal (ih h hrest)

/-- A walk along names none of which is that of a link goes straight on. -/
theorem Walks.straight {links left : Nat} {at_ there : Place} {names : List String}
    (h : Walks tree links at_ names left there) (hnames : ∀ name ∈ names, Path.IsName name)
    (hlinks : ∀ before name target, before ++ [name] <+: names →
      tree.node? (at_ ++ before ++ [name]) ≠ some (.link target)) : there = at_ ++ names := by
  induction h with
  | nil => simp
  | same => exact ((hnames _ List.mem_cons_self).ne_same rfl).elim
  | up => exact ((hnames _ List.mem_cons_self).ne_up rfl).elim
  | @through links at_ name rest left there target _ _ _ hlink _ _ =>
    have h := hlinks [] name target (List.prefix_append [name] rest)
    exact (h (by simpa using hlink)).elim
  | into _ _ _ _ _ ih =>
    rw [ih (List.forall_mem_cons.1 hnames).2, List.append_assoc, List.singleton_append]
    intro before other target hbefore
    have h := hlinks (_ :: before) other target (List.cons_prefix_cons.2 ⟨rfl, hbefore⟩)
    simpa using h

/-! ### Paths -/

theorem follow_eq_ok {path : String} {place : Place} (h : tree.follow path = .ok place) :
    path ≠ "" ∧ ∃ left, Walks tree linkLimit (tree.origin path) (Path.names path) left place := by
  rw [follow] at h
  split at h
  · cases h
  · next hne => exact ⟨by simpa using hne, Walks.of_walk h⟩

theorem follow_of_walks {path : String} {place : Place} {left : Nat} (hne : path ≠ "")
    (h : Walks tree linkLimit (tree.origin path) (Path.names path) left place) :
    tree.follow path = .ok place := by
  rw [follow, if_neg (by simpa using hne)]
  exact h.walk

theorem Walks.eq_of_same {links left : Nat} {at_ there : Place}
    (h : Walks tree links at_ ["."] left there) : there = at_ := by
  generalize hnames : ["."] = names at h
  cases h with
  | nil => cases hnames
  | same _ hrest =>
    cases hnames
    cases hrest
    rfl
  | up => simp at hnames
  | through _ hsame =>
    cases hnames
    exact (hsame rfl).elim
  | into _ hsame =>
    cases hnames
    exact (hsame rfl).elim

/-- A slash at the end takes a walk no further. -/
theorem walks_split {path : String} {place : Place} (h : tree.follow path = .ok place) :
    ∃ left, Walks tree linkLimit (tree.origin path) (Path.split path.toList) left place := by
  obtain ⟨-, left, hwalks⟩ := follow_eq_ok h
  rcases Path.names_eq path with heq | heq
  · exact ⟨left, heq ▸ hwalks⟩
  · rw [heq] at hwalks
    obtain ⟨between, _, hsplit, hsame⟩ := hwalks.of_append
    obtain rfl := hsame.eq_of_same
    exact ⟨between, hsplit⟩

theorem WellFormed.real_of_follow (h : WellFormed tree) {path : String} {place : Place}
    (hfollow : tree.follow path = .ok place) : Real tree place := by
  obtain ⟨hne, -⟩ := follow_eq_ok hfollow
  obtain ⟨left, hwalks⟩ := walks_split hfollow
  obtain ⟨c, rest, hchars⟩ := List.exists_cons_of_ne_nil (show path.toList ≠ [] by simpa using hne)
  refine hwalks.real ?_
  by_cases hc : c = '/'
  · rw [origin, if_pos (by simp [Path.isAbsolute, hchars, hc])]
    exact Real.root
  · -- A relative path has a first name, which is looked for in a directory.
    obtain ⟨name, names, hnames⟩ := List.exists_cons_of_ne_nil (Path.split_ne_nil hc rest)
    rw [hchars, hnames] at hwalks
    exact h.real hwalks.isDirectory

/-- A real place below the one that a path leads to is found by its names behind the path. -/
theorem follow_below {base : String} {root : Place} {names : List String}
    (hroot : tree.follow base = .ok root) (hreal : Real tree (root ++ names))
    (hnames : ∀ name ∈ names, Path.IsName name) (hne : names ≠ []) :
    tree.follow (Path.join base (String.intercalate "/" names)) = .ok (root ++ names) := by
  obtain ⟨hbase, -⟩ := follow_eq_ok hroot
  obtain ⟨left, hwalks⟩ := walks_split hroot
  have hjoin := Path.names_join hbase hnames
  rw [if_neg hne] at hjoin
  have hbelow := hwalks.append (hreal.walks hnames left)
  have hrelative := Path.isAbsolute_intercalate hnames
  rw [← hjoin, origin, ← Path.isAbsolute_join hbase hrelative] at hbelow
  exact follow_of_walks (Path.join_ne_empty hbase hrelative) hbelow

/-- Names behind a path, none of which is that of a link, lead to the place that they name below the
one that the path leads to. -/
theorem eq_of_follow_below {base : String} {root place : Place} {names : List String}
    (hroot : tree.follow base = .ok root)
    (h : tree.follow (Path.join base (String.intercalate "/" names)) = .ok place)
    (hnames : ∀ name ∈ names, Path.IsName name)
    (hlinks : ∀ before name target, before ++ [name] <+: names →
      tree.node? (root ++ before ++ [name]) ≠ some (.link target)) : place = root ++ names := by
  obtain ⟨hbase, -⟩ := follow_eq_ok hroot
  obtain ⟨-, left, hwalks⟩ := follow_eq_ok h
  obtain ⟨_, hsplit⟩ := walks_split hroot
  rw [Path.names_join hbase hnames, origin,
    Path.isAbsolute_join hbase (Path.isAbsolute_intercalate hnames)] at hwalks
  obtain ⟨_, middle, hfirst, hsecond⟩ := hwalks.of_append
  -- The walk to the root is the same in both.
  obtain rfl : middle = root := Except.ok.inj (hfirst.walk.symm.trans hsplit.walk)
  split at hsecond
  · next hnil =>
    rw [hnil, List.append_nil]
    exact hsecond.eq_of_same
  · exact hsecond.straight hnames hlinks

/-! ### Walks that compute -/

/-- Follows names from a place up to the first link, behind which another walk goes on. -/
def walkNames (tree : FileTree) (ending : Ending)
    (behind : Place → String → List String → Except Errno Place) (at_ : Place) :
    List String → Except Errno Place
  | [] => .ok at_
  | name :: rest =>
    if !tree.isDirectory at_ then .error .notDirectory
    else if name = "." then walkNames tree ending behind at_ rest
    else if name = ".." then walkNames tree ending behind at_.dropLast rest
    else
      match tree.node? (at_ ++ [name]) with
      | none =>
        if rest = [] ∧ ending = .fresh ∧ name.utf8ByteSize ≤ nameLimit then .ok (at_ ++ [name])
        else .error (missing name)
      | some (.link target) =>
        if rest = [] ∧ ending = .link then .ok (at_ ++ [name]) else behind at_ target rest
      | some _ => walkNames tree ending behind (at_ ++ [name]) rest

/-- Follows names from a place, by recursion on the links left. -/
def walkLinks (tree : FileTree) (ending : Ending) : Nat → Place → List String → Except Errno Place
  | 0 => tree.walkNames ending fun _ _ _ => .error .linkLoop
  | more + 1 => tree.walkNames ending fun at_ target rest =>
    walkLinks tree ending more (if Path.isAbsolute target then [] else at_) (Path.names target ++ rest)

theorem walk_eq_walkLinks : @walk = @walkLinks := by
  funext tree ending links at_ names
  induction links, at_, names using walk.induct tree ending with
  | case1 links at_ => cases links <;> rw [walk] <;> rfl
  | case2 links at_ name rest hnot =>
    cases links <;> rw [walk, if_pos hnot] <;> simp only [walkLinks, walkNames, if_pos hnot]
  | case3 links at_ rest hdirectory ih =>
    rw [walk, if_neg hdirectory, if_pos rfl, ih]
    cases links <;> simp only [walkLinks, walkNames, if_neg hdirectory, if_true]
  | case4 links at_ rest hdirectory hsame ih =>
    rw [walk, if_neg hdirectory, if_neg hsame, if_pos rfl, ih]
    cases links <;> simp only [walkLinks, walkNames, if_neg hdirectory, if_neg hsame, if_true]
  | case5 links at_ name rest hdirectory hsame hup hnone hfresh =>
    rw [walk, if_neg hdirectory, if_neg hsame, if_neg hup, hnone]
    cases links <;> simp only [walkLinks, walkNames, if_neg hdirectory, if_neg hsame, if_neg hup, hnone]
  | case6 links at_ name rest hdirectory hsame hup hnone hfresh =>
    rw [walk, if_neg hdirectory, if_neg hsame, if_neg hup, hnone]
    cases links <;> simp only [walkLinks, walkNames, if_neg hdirectory, if_neg hsame, if_neg hup, hnone]
  | case7 links at_ name rest hdirectory hsame hup target hlink hend =>
    rw [walk, if_neg hdirectory, if_neg hsame, if_neg hup, hlink]
    cases links <;>
      simp only [walkLinks, walkNames, if_neg hdirectory, if_neg hsame, if_neg hup, hlink, if_pos hend]
  | case8 at_ name rest hdirectory hsame hup target hlink hend =>
    rw [walk, if_neg hdirectory, if_neg hsame, if_neg hup, hlink]
    simp only [walkLinks, walkNames, if_neg hdirectory, if_neg hsame, if_neg hup, hlink]
  | case9 at_ name rest hdirectory hsame hup target hlink hend more ih =>
    rw [walk, if_neg hdirectory, if_neg hsame, if_neg hup, hlink]
    simp only [walkLinks, walkNames, if_neg hdirectory, if_neg hsame, if_neg hup, hlink, if_neg hend]
    exact ih
  | case10 links at_ name rest hdirectory hsame hup node hfinal hnode ih =>
    rw [walk, if_neg hdirectory, if_neg hsame, if_neg hup, hnode]
    cases node with
    | link target => exact (hfinal target rfl).elim
    | file | directory =>
      rw [ih]
      cases links <;>
        simp only [walkLinks, walkNames, if_neg hdirectory, if_neg hsame, if_neg hup, hnode]

end FileTree

end Hotplug
