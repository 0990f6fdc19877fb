import Hotplug.Wait.Chunked
/-!
# Places

Lists of places in ascending order, and the places that chunks cover.

## Main definitions

* `Hotplug.Chunk.Partition`: what it takes for chunks to cut a list up.
* `Hotplug.Chunk.PartOf`: the chunk stands in a list at its place.

## Main statements

* `Hotplug.mem_sortUnique`, `Hotplug.pairwise_sortUnique`: sorting keeps the members and gives an
  ascending list.
* `Hotplug.sortUnique_of_pairwise`: a list that is ascending already stays as it is.
* `Hotplug.Chunk.flatMap_range_split`: the chunks of a list cover every place once, in order.
* `Hotplug.Chunk.partition_split`
-/

namespace Hotplug

theorem mem_insertUnique {n k : Nat} {l : List Nat} : k ∈ insertUnique n l ↔ k = n ∨ k ∈ l := by
  induction l with
  | nil => simp [insertUnique]
  | cons m rest ih =>
    rw [insertUnique]
    split
    · simp
    · split
      · next h =>
        subst h
        simp
      · rw [List.mem_cons, ih, List.mem_cons, or_left_comm]

theorem pairwise_insertUnique {n : Nat} {l : List Nat} (h : l.Pairwise (· < ·)) :
    (insertUnique n l).Pairwise (· < ·) := by
  induction l with
  | nil => exact List.pairwise_singleton _ _
  | cons m rest ih =>
    obtain ⟨hm, hrest⟩ := List.pairwise_cons.1 h
    rw [insertUnique]
    split
    · next hlt =>
      refine List.pairwise_cons.2 ⟨fun k hk => ?_, h⟩
      rcases List.mem_cons.1 hk with rfl | hk
      · exact hlt
      · exact Nat.lt_trans hlt (hm k hk)
    · split
      · exact h
      · next hlt hne =>
        refine List.pairwise_cons.2 ⟨fun k hk => ?_, ih hrest⟩
        rcases mem_insertUnique.1 hk with rfl | hk
        · omega
        · exact hm k hk

theorem mem_sortUnique {k : Nat} {l : List Nat} : k ∈ sortUnique l ↔ k ∈ l := by
  induction l with
  | nil => rfl
  | cons n rest ih =>
    change k ∈ insertUnique n (sortUnique rest) ↔ _
    rw [mem_insertUnique, ih, List.mem_cons]

theorem pairwise_sortUnique (l : List Nat) : (sortUnique l).Pairwise (· < ·) := by
  induction l with
  | nil => exact .nil
  | cons n rest ih => exact pairwise_insertUnique ih

/-- A list that is ascending already stays as it is. -/
theorem sortUnique_of_pairwise {l : List Nat} (h : l.Pairwise (· < ·)) : sortUnique l = l := by
  induction l with
  | nil => rfl
  | cons n rest ih =>
    obtain ⟨hn, hrest⟩ := List.pairwise_cons.1 h
    change insertUnique n (sortUnique rest) = _
    rw [ih hrest]
    cases rest with
    | nil => rfl
    | cons m more => rw [insertUnique, if_pos (hn m List.mem_cons_self)]

namespace Chunk

/-- The places of the objects of a chunk. -/
def range (chunk : Chunk) : List Nat :=
  List.range' chunk.start chunk.objects.length

/-- The chunks of a list cover every place once, in order. -/
theorem flatMap_range_split {size : Nat} (hsize : 0 < size) (start : Nat)
    (objects : List Waitable) :
    (split size start objects).flatMap range = List.range' start objects.length := by
  fun_induction split size start objects with
  | case1 start objects h =>
    have hnil : objects = [] := h.resolve_right (by omega)
    simp [hnil]
  | case2 start objects h ih =>
    rw [List.flatMap_cons, ih, range, List.length_take, List.length_drop]
    rcases Nat.le_total size objects.length with hle | hle
    · rw [Nat.min_eq_left hle, List.range'_append_1, Nat.add_sub_cancel' hle]
    · simp [Nat.min_eq_right hle, Nat.sub_eq_zero_of_le hle]

/-- Chunks cut a list up: they follow each other and cover every place once, none is empty or longer
than `size`, none reaches beyond the list, and each has the objects that stand at its places. -/
structure Partition (chunks : List Chunk) (size : Nat) (objects : List Waitable) : Prop where
  covers : chunks.flatMap range = List.range objects.length
  pos : ∀ chunk ∈ chunks, 0 < chunk.objects.length
  le_size : ∀ chunk ∈ chunks, chunk.objects.length ≤ size
  within : ∀ chunk ∈ chunks, chunk.start + chunk.objects.length ≤ objects.length
  part : ∀ chunk ∈ chunks, chunk.objects = (objects.drop chunk.start).take chunk.objects.length

theorem Partition.ne_nil {chunks : List Chunk} {size : Nat} {objects : List Waitable}
    (h : Partition chunks size objects) (hpos : 0 < objects.length) : chunks ≠ [] := by
  rintro rfl
  have hcovers := h.covers
  rw [List.flatMap_nil, eq_comm, List.range_eq_nil] at hcovers
  exact Nat.ne_of_gt hpos hcovers

/-- A chunk begins at some place of the list, and takes `size` objects from there on. -/
theorem exists_of_mem_split {size start : Nat} {objects : List Waitable} {chunk : Chunk}
    (h : chunk ∈ split size start objects) :
    ∃ place < objects.length,
      chunk.start = start + place ∧ chunk.objects = (objects.drop place).take size := by
  fun_induction split size start objects with
  | case1 => exact absurd h List.not_mem_nil
  | case2 start objects hne ih =>
    rcases List.mem_cons.1 h with rfl | h
    · exact ⟨0, List.length_pos_iff.2 (not_or.1 hne).1, rfl, rfl⟩
    · obtain ⟨place, hplace, hstart, hobjects⟩ := ih h
      rw [List.length_drop] at hplace
      exact ⟨size + place, by omega, by omega, by rw [hobjects, List.drop_drop]⟩

theorem partition_split {size : Nat} (hsize : 0 < size) (objects : List Waitable) :
    Partition (split size 0 objects) size objects := by
  have hlength (chunk : Chunk) (h : chunk ∈ split size 0 objects) :
      chunk.start < objects.length ∧
        chunk.objects = (objects.drop chunk.start).take size := by
    obtain ⟨place, hplace, hstart, hobjects⟩ := exists_of_mem_split h
    rw [Nat.zero_add] at hstart
    exact hstart ▸ ⟨hplace, hobjects⟩
  refine ⟨?_, fun chunk h => ?_, fun chunk h => ?_, fun chunk h => ?_, fun chunk h => ?_⟩
  · rw [flatMap_range_split hsize, List.range_eq_range']
  all_goals
    obtain ⟨hstart, hobjects⟩ := hlength chunk h
    rw [hobjects]
  · rw [List.length_take, List.length_drop]
    omega
  · exact List.length_take_le ..
  · rw [List.length_take, List.length_drop]
    omega
  · rw [List.length_take]
    exact List.take_eq_take_min

/-- The chunk has the objects that stand at its place, and does not reach beyond the list. -/
structure PartOf (chunk : Chunk) (objects : List Waitable) : Prop where
  within : chunk.start + chunk.objects.length ≤ objects.length
  part : chunk.objects = (objects.drop chunk.start).take chunk.objects.length

theorem partOf_whole (objects : List Waitable) : (whole objects).PartOf objects where
  within := Nat.le_of_eq (Nat.zero_add _)
  part := List.take_length.symm

theorem partOf_of_mem_split {size : Nat} {objects : List Waitable} (hsize : 0 < size) {chunk : Chunk}
    (h : chunk ∈ split size 0 objects) : chunk.PartOf objects :=
  have hpartition := partition_split hsize objects
  ⟨hpartition.within chunk h, hpartition.part chunk h⟩

/-- At a place of a part stands what the list has at that place. -/
theorem PartOf.getElem? {chunk : Chunk} {objects : List Waitable} (h : chunk.PartOf objects)
    {place : Nat} (hplace : place < chunk.objects.length) :
    chunk.objects[place]? = objects[chunk.start + place]? := by
  rw [h.part, List.getElem?_take_of_lt hplace, List.getElem?_drop]

end Chunk

end Hotplug
