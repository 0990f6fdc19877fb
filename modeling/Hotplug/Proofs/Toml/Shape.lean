import Mathlib.Data.List.Nodup
import Hotplug.Proofs.Datum.RoundTrips
import Hotplug.Toml.Document
/-!
# The shape of configuration documents

A document that is in order says a table, in which each key stands once, and so do the keys of every
table inside. Its whole numbers have 64 bits.

## Main definitions

* `Hotplug.Toml.Yields`: everything that a scanner takes off has a property.
* `Hotplug.Toml.Tree.Sound`: a tree whose value a document can hold.

## Main statements

* `Hotplug.Toml.yields_value`
* `Hotplug.Toml.Tree.Sound.put`, `Hotplug.Toml.Tree.Sound.within`
* `Hotplug.Toml.exists_entries_of_document?`
-/

namespace Hotplug.Toml

variable {α β : Type}

/-! ### Trees -/

theorem entryData_eq_map (tree : Tree) :
    entryData tree = tree.map fun entry => (entry.1, entry.2.datum) := by
  induction tree with
  | nil => rfl
  | cons entry rest ih => exact congrArg ((entry.1, entry.2.datum) :: ·) ih

namespace Tree

variable {tree : Tree} {key : String} {item : Item}

/-- No key stands twice in a tree, and every item in it is a value that a document can hold. -/
structure Sound (tree : Tree) : Prop where
  names : (tree.map Prod.fst).Nodup
  items : ∀ entry ∈ tree, entry.2.datum.Fits .toml

theorem sound_nil : Sound [] :=
  ⟨.nil, nofun⟩

theorem fits_record_iff : (record tree).Fits .toml ↔ tree.Sound := by
  have hnames : (entryData tree).map Prod.fst = tree.map Prod.fst := by
    rw [entryData_eq_map, List.map_map]
    rfl
  have hitems : (∀ entry ∈ entryData tree, entry.2.Fits .toml) ↔
      ∀ entry ∈ tree, entry.2.datum.Fits .toml := by
    rw [entryData_eq_map, List.forall_mem_map]
  rw [record, Datum.fits_record_iff, hnames, hitems]
  exact ⟨fun ⟨hnodup, hall⟩ => ⟨hnodup, hall⟩, fun hsound => ⟨hsound.names, hsound.items⟩⟩

theorem fits_table_iff {origin : Origin} :
    (Item.table origin tree).datum.Fits .toml ↔ tree.Sound :=
  fits_record_iff

theorem fits_tables_iff {earlier : List Datum} :
    (Item.tables earlier tree).datum.Fits .toml ↔
      tree.Sound ∧ ∀ datum ∈ earlier, datum.Fits .toml := by
  have hall : (∀ datum ∈ (record tree :: earlier).reverse, datum.Fits .toml) ↔
      tree.Sound ∧ ∀ datum ∈ earlier, datum.Fits .toml := by
    simp only [List.mem_reverse, List.forall_mem_cons, fits_record_iff]
  exact Datum.fits_list_iff.trans hall

theorem not_mem_of_lookup (h : tree.lookup key = none) : key ∉ tree.map Prod.fst := by
  intro hmem
  obtain ⟨entry, hentry, rfl⟩ := List.mem_map.1 hmem
  have hne := List.lookup_eq_none_iff.1 h entry hentry
  simp at hne

theorem Sound.of_lookup (h : tree.Sound) (hlookup : tree.lookup key = some item) :
    item.datum.Fits .toml := by
  obtain ⟨before, after, rfl, -⟩ := List.lookup_eq_some_iff.1 hlookup
  exact h.items (key, item) (by simp)

theorem Sound.concat (h : tree.Sound) (hnew : tree.lookup key = none) (hitem : item.datum.Fits .toml) :
    Sound (tree ++ [(key, item)]) where
  names := by
    rw [List.map_append]
    refine List.nodup_append.2 ⟨h.names, List.nodup_singleton _, fun name hmem other hother heq => ?_⟩
    rw [heq, List.mem_singleton.1 hother] at hmem
    exact not_mem_of_lookup hnew hmem
  items := List.forall_mem_append.2 ⟨h.items, List.forall_mem_singleton.2 hitem⟩

theorem mem_names_set {name : String} (h : name ∈ (set tree key item).map Prod.fst) :
    name = key ∨ name ∈ tree.map Prod.fst := by
  induction tree with
  | nil => exact .inl (List.mem_singleton.1 h)
  | cons entry rest ih =>
    rw [set] at h
    split at h
    · exact (List.mem_cons.1 h).imp_right (List.mem_cons_of_mem _)
    · rcases List.mem_cons.1 h with heq | hmem
      · exact .inr (heq ▸ List.mem_cons_self)
      · exact (ih hmem).imp_right (List.mem_cons_of_mem _)

theorem Sound.set (h : tree.Sound) (hitem : item.datum.Fits .toml) : Sound (set tree key item) := by
  induction tree with
  | nil => exact ⟨List.nodup_singleton _, List.forall_mem_singleton.2 hitem⟩
  | cons entry rest ih =>
    obtain ⟨hfirst, hnames⟩ := List.nodup_cons.1 h.names
    obtain ⟨hvalue, hitems⟩ := List.forall_mem_cons.1 h.items
    rw [Tree.set]
    split
    next heq =>
      subst heq
      exact ⟨List.nodup_cons.2 ⟨hfirst, hnames⟩, List.forall_mem_cons.2 ⟨hitem, hitems⟩⟩
    next hne =>
      have hrest := ih ⟨hnames, hitems⟩
      refine ⟨List.nodup_cons.2 ⟨fun hmem => ?_, hrest.names⟩,
        List.forall_mem_cons.2 ⟨hvalue, hrest.items⟩⟩
      exact (mem_names_set hmem).elim hne hfirst

theorem Sound.concat_table {origin : Origin} {inner : Tree} (h : tree.Sound)
    (hnew : tree.lookup key = none) (hinner : inner.Sound) :
    Sound (tree ++ [(key, .table origin inner)]) :=
  h.concat hnew (fits_table_iff.2 hinner)

/-- A table in a tree is exchanged for one that comes of it. -/
theorem Sound.set_table {origin changed : Origin} {inner later : Tree} (h : tree.Sound)
    (hlookup : tree.lookup key = some (.table origin inner)) (hlater : inner.Sound → later.Sound) :
    Sound (Tree.set tree key (.table changed later)) :=
  h.set (fits_table_iff.2 (hlater (fits_table_iff.1 (h.of_lookup hlookup))))

/-- The last one of a list of tables is exchanged for one that comes of it. -/
theorem Sound.set_last {earlier : List Datum} {last later : Tree} (h : tree.Sound)
    (hlookup : tree.lookup key = some (.tables earlier last)) (hlater : last.Sound → later.Sound) :
    Sound (Tree.set tree key (.tables earlier later)) := by
  obtain ⟨hlast, hearlier⟩ := fits_tables_iff.1 (h.of_lookup hlookup)
  exact h.set (fits_tables_iff.2 ⟨hlater hlast, hearlier⟩)

/-- A value comes to stand where keys with dots lead. -/
theorem Sound.put {way : List String} {last : String} {datum : Datum} (h : tree.Sound)
    (hdatum : datum.Fits .toml) {later : Tree} (hput : put? tree way last datum = some later) :
    later.Sound := by
  induction way generalizing tree later with
  | nil =>
    rw [put?, insert?] at hput
    split at hput
    · cases hput
    next hnew =>
      cases hput
      exact h.concat hnew hdatum
  | cons key way ih =>
    rw [put?] at hput
    split at hput
    next hnew =>
      obtain ⟨inner, hinner, heq⟩ := Option.bind_eq_some_iff.1 hput
      cases heq
      exact h.concat_table hnew (ih sound_nil hinner)
    · cases hput
    next origin inner hlookup =>
      split at hput
      · cases hput
      · obtain ⟨changed, hchanged, heq⟩ := Option.bind_eq_some_iff.1 hput
        cases heq
        exact h.set_table hlookup fun hinner => ih hinner hchanged
    next earlier inner hlookup =>
      split at hput
      · cases hput
      · obtain ⟨changed, hchanged, heq⟩ := Option.bind_eq_some_iff.1 hput
        cases heq
        exact h.set_last hlookup fun hinner => ih hinner hchanged

/-- A table is changed where the keys of a header lead. -/
theorem Sound.within {change : Tree → Option Tree} {way : List String} (h : tree.Sound)
    (hchange : ∀ tree later, tree.Sound → change tree = some later → later.Sound) {later : Tree}
    (hwithin : within? change way tree = some later) : later.Sound := by
  induction way generalizing tree later with
  | nil => exact hchange tree later h hwithin
  | cons key way ih =>
    rw [within?] at hwithin
    split at hwithin
    next hnew =>
      obtain ⟨inner, hinner, heq⟩ := Option.bind_eq_some_iff.1 hwithin
      cases heq
      exact h.concat_table hnew (ih sound_nil hinner)
    · cases hwithin
    next origin inner hlookup =>
      obtain ⟨changed, hchanged, heq⟩ := Option.bind_eq_some_iff.1 hwithin
      cases heq
      exact h.set_table hlookup fun hinner => ih hinner hchanged
    next earlier inner hlookup =>
      obtain ⟨changed, hchanged, heq⟩ := Option.bind_eq_some_iff.1 hwithin
      cases heq
      exact h.set_last hlookup fun hinner => ih hinner hchanged

theorem Sound.openTable {path : KeyPath} (h : tree.Sound) {later : Tree}
    (hopen : openTable? path tree = some later) : later.Sound := by
  refine h.within (fun tree later h hchange => ?_) hopen
  split at hchange
  next hnew =>
    cases hchange
    exact h.concat_table hnew sound_nil
  next inner hlookup =>
    cases hchange
    exact h.set_table hlookup fun hinner => hinner
  · cases hchange

theorem Sound.openElement {path : KeyPath} (h : tree.Sound) {later : Tree}
    (hopen : openElement? path tree = some later) : later.Sound := by
  refine h.within (fun tree later h hchange => ?_) hopen
  split at hchange
  next hnew =>
    cases hchange
    exact h.concat hnew (fits_tables_iff.2 ⟨sound_nil, nofun⟩)
  next earlier last hlookup =>
    cases hchange
    obtain ⟨hlast, hearlier⟩ := fits_tables_iff.1 (h.of_lookup hlookup)
    have hall := List.forall_mem_cons.2 ⟨fits_record_iff.2 hlast, hearlier⟩
    exact h.set (fits_tables_iff.2 ⟨sound_nil, hall⟩)
  · cases hchange

end Tree

/-- What a fold that can fail keeps. -/
theorem keeps_foldlM (p : β → Prop) {step : β → α → Option β} {items : List α}
    (hstep : ∀ item ∈ items, ∀ b later, p b → step b item = some later → p later) {b later : β}
    (hb : p b) (h : items.foldlM step b = some later) : p later := by
  induction items generalizing b with
  | nil =>
    cases h
    exact hb
  | cons item rest ih =>
    rw [List.foldlM_cons] at h
    obtain ⟨next, hnext, hrest⟩ := Option.bind_eq_some_iff.1 h
    obtain ⟨hfirst, hothers⟩ := List.forall_mem_cons.1 hstep
    exact ih hothers (hfirst b next hb hnext) hrest

theorem Tree.sound_ofPairs {pairs : List (KeyPath × Datum)} (h : ∀ entry ∈ pairs, entry.2.Fits .toml)
    {tree : Tree} (hpairs : ofPairs? pairs = some tree) : tree.Sound :=
  keeps_foldlM Sound (fun entry hmem _ _ hsound hput => hsound.put (h entry hmem) hput) sound_nil
    hpairs

/-! ### Scanners -/

/-- Everything that a scanner takes off has a property. -/
def Yields (p : α → Prop) (scan : Scan α) : Prop :=
  ∀ text a rest, scan text = some (a, rest) → p a

section Scanners

variable {p : α → Prop} {q : β → Prop} {scan : Scan α} {value : Scan Datum}

theorem Yields.manyOnto (h : Yields p scan) {measure : List Char} {found : List α} {text : List Char}
    (hfound : ∀ a ∈ found, p a) : ∀ a ∈ (manyOnto scan measure found text).1, p a := by
  fun_induction Toml.manyOnto scan measure found text with
  | case1 => simpa using hfound
  | case2 => simpa using hfound
  | case3 => simpa using hfound
  | case4 _ _ found text _ a rest hscan ih =>
    exact ih (List.forall_mem_cons.2 ⟨h _ a rest hscan, hfound⟩)

theorem Yields.many (h : Yields p scan) (text : List Char) : ∀ a ∈ (many scan text).1, p a :=
  h.manyOnto nofun

/-- Behind something else. -/
theorem Yields.after (h : Yields p scan) (skip : List Char → Option (List Char)) :
    Yields p fun text => (skip text).bind scan := by
  intro text a rest hscan
  obtain ⟨behind, -, hbehind⟩ := Option.bind_eq_some_iff.1 hscan
  exact h behind a rest hbehind

/-- With gaps around it. -/
theorem Yields.padded (h : Yields p scan) :
    Yields p fun text => do
      let (a, rest) ← scan (skipGaps text)
      return (a, skipGaps rest) := by
  intro text a rest hscan
  obtain ⟨⟨a, behind⟩, ha, heq⟩ := Option.bind_eq_some_iff.1 hscan
  cases heq
  exact h _ a behind ha

/-- What comes first and then the others have the property. -/
theorem Yields.cons_many (h : Yields p scan) {next : Scan α} (hnext : Yields p next)
    {text rest : List Char} {first : α} (hfirst : scan text = some (first, rest)) :
    ∀ a ∈ first :: (Toml.many next rest).1, p a :=
  List.forall_mem_cons.2 ⟨h text first rest hfirst, hnext.many rest⟩

/-! ### Values -/

theorem fits_inRange {negative : Bool} {base : Nat} {digits : List Char} {value : Int}
    (h : inRange negative base digits = some value) : (Datum.whole value).Fits .toml := by
  have hlargest : (largestWhole : Int) + 1 = 2 ^ 63 := by decide
  have hbound : Dialect.toml.wholeBound = 2 ^ 63 := rfl
  refine .whole ?_
  rw [hbound, ← hlargest]
  simp only [inRange, Option.ite_none_left_eq_some] at h
  obtain ⟨-, h⟩ := h
  generalize valueOf base (digits.dropWhile (· = '0')) = size at h
  split at h
  · obtain ⟨hsize, heq⟩ := Option.ite_none_right_eq_some.1 h
    cases heq
    omega
  · obtain ⟨hsize, heq⟩ := Option.ite_none_right_eq_some.1 h
    cases heq
    omega

theorem yields_whole : Yields (fun value => (Datum.whole value).Fits .toml) whole := by
  have hmarked : ∀ base, Yields (fun value => (Datum.whole value).Fits .toml) (marked base) := by
    intro base text value rest h
    obtain ⟨⟨digits, behind⟩, -, h⟩ := Option.bind_eq_some_iff.1 h
    obtain ⟨number, hnumber, heq⟩ := Option.bind_eq_some_iff.1 h
    cases heq
    exact fits_inRange hnumber
  intro text value rest h
  unfold whole at h
  split at h
  · exact hmarked 16 _ _ _ h
  · exact hmarked 8 _ _ _ h
  · exact hmarked 2 _ _ _ h
  · obtain ⟨⟨⟨negative, digits⟩, behind⟩, -, h⟩ := Option.bind_eq_some_iff.1 h
    obtain ⟨number, hnumber, heq⟩ := Option.bind_eq_some_iff.1 h
    cases heq
    exact fits_inRange hnumber

theorem yields_number : Yields (Datum.Fits .toml) number := by
  intro text datum rest h
  simp only [number, Option.orElse_eq_orElse, Option.orElse_eq_or, Option.or_eq_some_iff] at h
  rcases h with hdate | ⟨-, hfraction | ⟨-, hwhole⟩⟩
  · obtain ⟨_, _, heq⟩ := Option.map_eq_some_iff.1 hdate
    cases heq
    exact .date rfl
  · obtain ⟨_, _, heq⟩ := Option.map_eq_some_iff.1 hfraction
    cases heq
    exact .fraction
  · obtain ⟨⟨value, behind⟩, hvalue, heq⟩ := Option.map_eq_some_iff.1 hwhole
    cases heq
    exact yields_whole _ _ _ hvalue

theorem yields_simple : Yields (Datum.Fits .toml) simple := by
  intro text datum rest h
  unfold simple at h
  split at h
  case h_5 => exact yields_number text datum rest h
  all_goals
    obtain ⟨_, _, heq⟩ := Option.map_eq_some_iff.1 h
    cases heq
    constructor

theorem Yields.pair (h : Yields (Datum.Fits .toml) value) :
    Yields (fun entry => entry.2.Fits .toml) (pair value) := by
  intro text entry rest hpair
  obtain ⟨⟨path, behind⟩, -, hpair⟩ := Option.bind_eq_some_iff.1 hpair
  obtain ⟨start, -, hpair⟩ := Option.bind_eq_some_iff.1 hpair
  obtain ⟨⟨datum, behind⟩, hdatum, heq⟩ := Option.bind_eq_some_iff.1 hpair
  cases heq
  exact h _ _ _ hdatum

theorem Yields.list (h : Yields (Datum.Fits .toml) value) :
    Yields (Datum.Fits .toml) (list value) := by
  intro text datum rest hlist
  unfold Toml.list at hlist
  dsimp only at hlist
  split at hlist
  · obtain ⟨behind, -, heq⟩ := Option.bind_eq_some_iff.1 hlist
    cases heq
    exact .list (List.forall_mem_nil _)
  next first behind hfirst =>
    obtain ⟨last, -, heq⟩ := Option.bind_eq_some_iff.1 hlist
    cases heq
    exact .list (h.padded.cons_many (h.padded.after (exactly ',')) hfirst)

theorem Yields.inlineTable (h : Yields (Datum.Fits .toml) value) :
    Yields (Datum.Fits .toml) (inlineTable value) := by
  have hmember : Yields (fun entry => entry.2.Fits .toml) fun text =>
      Toml.pair value (skipBlanks text) :=
    fun text entry rest hpair => h.pair _ entry rest hpair
  intro text datum rest htable
  unfold Toml.inlineTable at htable
  dsimp only at htable
  split at htable
  · obtain ⟨behind, -, heq⟩ := Option.bind_eq_some_iff.1 htable
    cases heq
    exact .record .nil (List.forall_mem_nil _)
  next first behind hfirst =>
    obtain ⟨entries, hentries, htable⟩ := Option.bind_eq_some_iff.1 htable
    obtain ⟨last, -, heq⟩ := Option.bind_eq_some_iff.1 htable
    cases heq
    have hall := hmember.cons_many (hmember.after (exactly ',')) hfirst
    exact Tree.fits_record_iff.2 (Tree.sound_ofPairs hall hentries)

theorem yields_valueWithin (depth : Nat) : Yields (Datum.Fits .toml) (valueWithin depth) := by
  induction depth with
  | zero => exact yields_simple
  | succ depth ih =>
    intro text datum rest h
    unfold valueWithin at h
    split at h
    · exact ih.list _ datum rest h
    · exact ih.inlineTable _ datum rest h
    · exact yields_simple text datum rest h

end Scanners

theorem yields_value : Yields (Datum.Fits .toml) value :=
  yields_valueWithin deepest

/-! ### Documents -/

/-- What a line says about values is something that a document can hold. -/
def Line.Fits (line : Line) : Prop :=
  ∀ path datum, line = .pair path datum → datum.Fits .toml

theorem yields_content : Yields Line.Fits content := by
  intro text line rest h
  unfold content at h
  split at h
  · obtain ⟨_, _, heq⟩ := Option.map_eq_some_iff.1 h
    cases heq
    exact nofun
  · obtain ⟨_, _, heq⟩ := Option.map_eq_some_iff.1 h
    cases heq
    exact nofun
  · obtain ⟨⟨entry, behind⟩, hentry, heq⟩ := Option.map_eq_some_iff.1 h
    cases heq
    intro path datum hpair
    cases hpair
    exact yields_value.pair _ _ _ hentry

theorem yields_line : Yields Line.Fits line := by
  intro text said rest h
  unfold line at h
  split at h
  · cases h
    exact nofun
  · obtain ⟨⟨said, behind⟩, hsaid, h⟩ := Option.bind_eq_some_iff.1 h
    obtain ⟨last, -, heq⟩ := Option.bind_eq_some_iff.1 h
    cases heq
    exact yields_content _ _ _ hsaid

theorem fits_lines {text : List Char} {lines : List Line} (h : lines? text = some lines) :
    ∀ line ∈ lines, line.Fits := by
  have hall := yields_line.many text
  unfold lines? at h
  split at h
  next heq =>
    cases h
    rwa [heq] at hall
  · cases h

theorem Draft.sound_add {draft later : Draft} {line : Line} (hline : line.Fits)
    (h : draft.tree.Sound) (hadd : draft.add? line = some later) : later.tree.Sound := by
  cases line with
  | blank =>
    cases hadd
    exact h
  | pair path datum =>
    obtain ⟨tree, htree, heq⟩ := Option.bind_eq_some_iff.1 hadd
    cases heq
    exact h.within (fun _ _ hsound hput => hsound.put (hline path datum rfl) hput) htree
  | table path =>
    obtain ⟨tree, htree, heq⟩ := Option.bind_eq_some_iff.1 hadd
    cases heq
    exact h.openTable htree
  | element path =>
    obtain ⟨tree, htree, heq⟩ := Option.bind_eq_some_iff.1 hadd
    cases heq
    exact h.openElement htree

/-- A document says a table, and everything in it is something that a document can hold. -/
theorem exists_entries_of_document? {text : String} {document : Datum}
    (h : document? text = some document) :
    document.Fits .toml ∧ ∃ entries, document = .record entries := by
  obtain ⟨lines, hlines, h⟩ := Option.bind_eq_some_iff.1 h
  obtain ⟨draft, hdraft, heq⟩ := Option.bind_eq_some_iff.1 h
  cases heq
  have hall := fits_lines hlines
  have hsound : draft.tree.Sound := keeps_foldlM (fun draft => draft.tree.Sound)
    (fun line hmem _ _ hsound hadd => Draft.sound_add (hall line hmem) hsound hadd) Tree.sound_nil
    hdraft
  exact ⟨Tree.fits_record_iff.2 hsound, _, rfl⟩

end Hotplug.Toml
