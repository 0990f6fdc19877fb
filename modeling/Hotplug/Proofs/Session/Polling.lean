import Hotplug.Kernel.Basic
import Hotplug.Proofs.Session.Editing
import Hotplug.Proofs.Wait.Bounds
/-!
# Polling a set

A poll of a set returns numbers of entries that are there, in the order in which the entries were added,
however many objects the primitive takes in one call. A poll in chunks needs nothing of the primitive but
that it reports places of the objects that it was handed; a poll in one call needs places in order, and
the kernel reports them in order.

## Main definitions

* `Hotplug.Kernel.Shows`: the events that make an entry ready for input.
* `Hotplug.Kernel.Tells`: what an answer tells of the events that the kernel found.

## Main statements

* `Hotplug.DescriptorSet.Orderly.ids_pollWith`: what a poll of a set returns.
* `Hotplug.Kernel.native_within`, `Hotplug.Kernel.native_ascending`
* `Hotplug.Editing.pollWith_in_order`
-/

namespace Hotplug

variable {σ : Type}

/-! ### Numbers of entries -/

namespace DescriptorSet

variable {set : DescriptorSet} {places : List Nat} {count : Nat}

theorem mapM_getElem?_ids (h : ∀ place ∈ places, place < set.size) :
    places.mapM (fun place => set.ids[place]?) = some (set.idsAt places) := by
  induction places with
  | nil => rfl
  | cons place later ih =>
    obtain ⟨hplace, hlater⟩ := List.forall_mem_cons.1 h
    obtain ⟨entry, hentry⟩ : ∃ entry, set.entries[place]? = some entry :=
      ⟨_, List.getElem?_eq_getElem hplace⟩
    have hid : set.ids[place]? = some entry.id := by
      rw [ids, List.getElem?_map, hentry]
      rfl
    rw [List.mapM_cons, hid, ih hlater, idsAt, idsAt, List.filterMap_cons, hentry]
    rfl

/-- Places in ascending order have numbers in the order of the entries. -/
theorem idsAt_sublist (hwithin : ∀ place ∈ places, place < set.size)
    (hascending : places.Pairwise (· < ·)) : (set.idsAt places).Sublist set.ids := by
  -- Within bounds, looking up is indexing, and indices in order pick out a sublist.
  have hentries : places.filterMap (fun place => set.entries[place]?) =
      (places.pmap Fin.mk hwithin).map (set.entries[·]) := by
    rw [List.map_pmap]
    induction places with
    | nil => rfl
    | cons place later ih =>
      have hplace : place < set.entries.length := hwithin place List.mem_cons_self
      rw [List.filterMap_cons, List.getElem?_eq_getElem hplace, List.pmap_cons,
        ih (fun other hmem => hwithin other (List.mem_cons_of_mem _ hmem)) hascending.of_cons]
      rfl
  have hsub : (places.filterMap fun place => set.entries[place]?).Sublist set.entries := by
    rw [hentries]
    exact List.map_getElem_sublist (List.pairwise_pmap _ |>.2 (hascending.imp fun h _ _ => h))
  rw [idsAt, ← List.map_filterMap]
  exact hsub.map _

/-- A poll asks about parts of the objects of the set only. -/
theorem asks_pollWith {p : Primitive σ} (hwithin : p.Within) (set : DescriptorSet) (limit : Int) :
    Primitive.Asks set.targets (set.pollWith p.noting limit) fun _ => True := by
  unfold pollWith
  split
  · split
    · exact fun s hconfined => ⟨hconfined, nofun⟩
    · exact fun s hconfined => ⟨hconfined, fun _ _ => trivial⟩
  · exact .bind (hwithin.asks_waitAll limit set.slice) fun places _ => .pure trivial

theorem pollWith_returned {p : Primitive σ} {limit : Int} {state : σ} {found : List UInt32}
    (h : ((set.pollWith p limit).run state).ending = .returned found) :
    set.isEmpty = true ∧ found = [] ∨
      ∃ places, ((p.waitAll set.targets limit set.slice).run state).ending = .returned places ∧
        found = set.idsAt places := by
  unfold pollWith at h
  split at h
  · next hempty =>
    split at h
    · cases h
    · cases h
      exact .inl ⟨hempty, rfl⟩
  · rw [Action.run_bind_pure] at h
    cases hwait : ((p.waitAll set.targets limit set.slice).run state).ending with
    | returned places =>
      rw [hwait] at h
      cases h
      exact .inr ⟨places, rfl, rfl⟩
    | failed failure =>
      rw [hwait] at h
      cases h
    | unending =>
      rw [hwait] at h
      cases h

/-- What a poll returns are the numbers of entries that are there. If the places are reported in order,
or if the objects are taken in chunks, the numbers stand in the order of the entries, each once. -/
theorem Orderly.ids_pollWith (horderly : set.Orderly) {p : Primitive σ} (hwithin : p.Within)
    {limit : Int} {state : σ} {found : List UInt32}
    (h : ((set.pollWith p limit).run state).ending = .returned found) :
    (set.isEmpty = true ∧ found = [] ∨
      ∃ places, ((p.waitAll set.targets limit set.slice).run state).ending = .returned places ∧
        places.mapM (fun place => set.ids[place]?) = some found) ∧
      (p.Chunks set.targets ∨ p.Ascending → found.Sublist set.ids ∧ found.Nodup) := by
  obtain ⟨hempty, rfl⟩ | ⟨places, hwait, rfl⟩ := pollWith_returned h
  · exact ⟨.inl ⟨hempty, rfl⟩, fun _ => ⟨List.nil_sublist _, .nil⟩⟩
  · obtain ⟨hplaces, hascending⟩ := hwithin.placesOf_waitAll hwait
    rw [targets, List.length_map] at hplaces
    refine ⟨.inr ⟨places, hwait, mapM_getElem?_ids hplaces⟩, fun hordered => ?_⟩
    have hsub := idsAt_sublist hplaces (hascending hordered)
    exact ⟨hsub, horderly.ids.sublist hsub⟩

end DescriptorSet

/-! ### What the kernel reports -/

namespace Kernel

/-- The events that make an entry ready for input: input, an error, a hang-up, or that the descriptor is
not open. -/
def Shows (events : Nat) : Prop :=
  ∃ flag ∈ [pollIn, pollError, pollHangup, pollInvalid], events &&& flag ≠ 0

/-- What an answer tells of the events that were found: which entries are ready for input, or that no
entry had events. -/
def Tells (found : List Nat) : Readiness → Prop
  | .ready places =>
    ∀ place, place ∈ places ↔ ∃ events, found[place]? = some events ∧ Shows events
  | .timedOut => ∀ events ∈ found, events = 0
  | .interrupted => False

theorem shows_iff {events : Nat} : Shows events ↔ events &&& readyMask pollIn ≠ 0 := by
  simp only [Shows, readyMask, Nat.and_or_distrib_left, ne_eq, Nat.or_eq_zero_iff, List.mem_cons,
    List.not_mem_nil, or_false, exists_eq_or_imp, exists_eq_left]
  tauto

/-- The places of the entries with some property are some of all places, in order. -/
theorem zipIdx_filterMap_sublist (found : List Nat) (good : Nat → Prop) [DecidablePred good] :
    (found.zipIdx.filterMap fun (events, place) =>
      if good events then some place else none).Sublist (List.range found.length) := by
  have hplaces : (found.zipIdx.filterMap fun (events, place) =>
      if good events then some place else none) =
        (found.zipIdx.filter fun entry => good entry.1).map Prod.snd := by
    rw [← List.filterMap_eq_filter, List.map_filterMap]
    refine List.filterMap_congr fun entry _ => ?_
    by_cases hgood : good entry.1 <;> simp [Option.guard, hgood]
  rw [hplaces, List.range_eq_range', ← List.zipIdx_map_snd]
  exact List.filter_sublist.map _

/-- Whatever events were found, the answer tells of them, and gives places in order. -/
theorem run_readiness (found : List Nat) (kernel : Kernel) :
    ∃ answer, (readiness pollIn (.ok found)).run kernel = ⟨.returned answer, kernel, []⟩ ∧
      Tells found answer ∧ answer.Reports (PlacesOf found.length True) := by
  by_cases hnone : found.all (· = 0) = true
  · refine ⟨.timedOut, ?_, by simpa [Tells] using hnone, trivial⟩
    simp only [readiness, if_pos hnone]
    rfl
  · refine ⟨.ready (found.zipIdx.filterMap fun (events, place) =>
      if events &&& readyMask pollIn ≠ 0 then some place else none), ?_, fun place => ?_, ?_⟩
    · simp only [readiness, if_neg hnone]
      rfl
    · simp [shows_iff, List.mem_zipIdx_iff_getElem?]
    · have hsub := zipIdx_filterMap_sublist found fun events => events &&& readyMask pollIn ≠ 0
      exact ⟨fun place hmem => List.mem_range.1 (hsub.subset hmem),
        fun _ => List.pairwise_lt_range.sublist hsub⟩

theorem length_descriptors {objects : List Waitable} {fds : List Int}
    (h : Waitable.descriptors objects = .ok fds) : fds.length = objects.length := by
  induction objects generalizing fds with
  | nil =>
    cases h
    rfl
  | cons object rest ih =>
    cases object with
    | handle number => cases h
    | fd number =>
      rw [Waitable.descriptors] at h
      cases hrest : Waitable.descriptors rest with
      | error failure =>
        rw [hrest] at h
        cases h
      | ok later =>
        rw [hrest] at h
        cases h
        exact congrArg (· + 1) (ih hrest)

theorem poll_gives (fds : List Int) (wanted : Nat) (limit : Int) :
    (poll fds wanted limit).Gives fun answer => ∀ found, answer = .ok found → found.length = fds.length := by
  refine .after fun kernel => ?_
  split
  -- A script answers with the same events for every descriptor.
  · refine .after fun _ => .after fun _ => .pure fun found h => ?_
    cases hanswer : nextAnswer (.error .badDescriptor) kernel.script.polls with
    | error errno =>
      rw [hanswer] at h
      cases h
    | ok events =>
      rw [hanswer] at h
      cases h
      exact List.length_map ..
  · have hlength (found : List Nat)
        (h : (.ok (fds.map fun fd => kernel.events fd &&& readyMask wanted) :
          Except Errno (List Nat)) = .ok found) : found.length = fds.length := by
      cases h
      exact List.length_map ..
    dsimp only
    split
    · exact .pure hlength
    · split
      · exact .wait
      · exact .after fun _ => .pure hlength

/-- Of the objects that it was handed, the kernel reports places in order. -/
theorem native_call_gives (objects : List Waitable) (limit : Int) :
    (native.call objects limit).Gives (Readiness.Reports (PlacesOf objects.length True)) := by
  refine .bind (.require _) fun fds hfds => .bind (poll_gives fds _ _) fun answer hanswer => ?_
  cases answer with
  | error errno =>
    dsimp only [readiness]
    split
    · exact .pure trivial
    · split
      · exact .fail
      · exact .fail
  | ok found =>
    intro kernel answer h
    obtain ⟨told, hrun, -, hreports⟩ := run_readiness found kernel
    rw [hrun] at h
    cases h
    rw [hanswer found rfl, length_descriptors hfds] at hreports
    exact hreports

theorem native_within : native.Within := fun objects limit kernel _ h =>
  (native_call_gives objects limit kernel _ h).within

theorem native_ascending : native.Ascending := fun objects limit kernel _ h =>
  (native_call_gives objects limit kernel _ h).ascending trivial

/-- What the kernel found is what the call tells. -/
theorem ends_native_call {objects : List Waitable} {limit : Int} {kernel left : Kernel} {fds : List Int}
    {found : List Nat} (hfds : Waitable.descriptors objects = .ok fds)
    (hpoll : (poll fds pollIn (max limit (-1))).Ends kernel (.returned (.ok found)) left) :
    ∃ answer, (native.call objects limit).Ends kernel (.returned answer) left ∧ Tells found answer := by
  obtain ⟨answer, hrun, htells, -⟩ := run_readiness found left
  have hrequire : (Action.require (Waitable.descriptors objects)).Ends kernel (.returned fds)
      kernel := by
    rw [hfds]
    exact ⟨rfl, rfl⟩
  exact ⟨answer, .bind hrequire (.bind hpoll ⟨by rw [hrun], by rw [hrun]⟩), htells⟩

end Kernel

open DescriptorSet in
/-- After any changes to a set, a poll asks about parts of its objects only, has a chunk to stay with in
every round, and finds an entry at every place that the wait returns. If the objects are taken in chunks,
whatever the order in which places are reported, or if they are reported in order, then the numbers that
come of it stand in the order in which the entries were added, each once. The kernel reports places in
order, and those whose events make them ready for input. -/
theorem Editing.pollWith_in_order (desk : Desk) (slot : String) (capacity : Nat) (slice : Int)
    (edits : List Edit) {p : Primitive σ} (hwithin : p.Within) (limit : Int) (state : σ) :
    let editing := (start desk slot capacity slice).run slot edits
    ∃ set, editing.desk.sets.get? slot = some set ∧
      Primitive.Confined set.targets ((set.pollWith p.noting limit).run (state, [])).state ∧
      (∀ size, p.limit = some size → size < set.size → ∀ turn,
        let chunks := Chunk.split (max size 1) 0 set.targets
        ∃ chunk, chunks[turn % chunks.length]? = some chunk) ∧
      (∀ found, ((set.pollWith p limit).run state).ending = .returned found →
        (set.isEmpty = true ∧ found = [] ∨
          ∃ places, ((p.waitAll set.targets limit set.slice).run state).ending = .returned places ∧
            places.mapM (fun place => set.ids[place]?) = some found) ∧
          (p.Chunks set.targets ∨ p.Ascending → found.Sublist set.ids ∧ found.Nodup)) ∧
      Kernel.native.Within ∧ Kernel.native.Ascending ∧
      ∀ objects limit kernel left fds found, Waitable.descriptors objects = .ok fds →
        (Kernel.poll fds pollIn (max limit (-1))).Ends kernel (.returned (.ok found)) left →
        ∃ answer, (Kernel.native.call objects limit).Ends kernel (.returned answer) left ∧
          Kernel.Tells found answer := by
  intro editing
  obtain ⟨set, h⟩ := run_holds (start_holds desk slot capacity slice) edits
  refine ⟨set, h.filled, (asks_pollWith hwithin set limit (state, []) nofun).1,
    fun size _ hsize turn => ?_, fun found hfound => h.orderly.ids_pollWith hwithin hfound,
    Kernel.native_within, Kernel.native_ascending,
    fun _ _ _ _ _ _ hfds hpoll => Kernel.ends_native_call hfds hpoll⟩
  refine Chunk.exists_turn (Nat.le_max_right size 1) ?_ turn
  rw [targets, List.length_map]
  exact Nat.zero_lt_of_lt hsize

/-- Of the objects the last one is reported, then the first, then the last again. -/
def Primitive.outermost (limit : Option Nat) : Primitive Unit where
  limit := limit
  now := fun s => (0, s)
  sleep := fun _ s => s
  call := fun objects _ =>
    match objects.length with
    | 0 => return .timedOut
    | last + 1 => return .ready [last, 0, last]
  patience := fun _ _ => 1

theorem Primitive.outermost_within (limit : Option Nat) : (outermost limit).Within := by
  intro objects _ _ places h
  simp only [outermost] at h
  split at h
  · cases h
  · next last hlength =>
    cases h
    simp [hlength]

open DescriptorSet in
/-- Five entries, one of which came again after it was taken out, in chunks of three. -/
theorem Editing.pollWith_in_order_outermost :
    let p := Primitive.outermost (some 3)
    let edits : List Edit := [.add 9 (.handle 1), .add 4 (.handle 2), .add 7 (.handle 3),
      .add 4 (.handle 4), .add 2 (.handle 5), .remove 7, .add 1 (.handle 6), .add 7 (.handle 3)]
    p.Within ∧ ∃ set, ((start {} "mixed" 8 10).run "mixed" edits).desk.sets.get? "mixed" = some set ∧
      set.ids = [9, 4, 2, 1, 7] ∧ ((set.pollWith p (-1)).run ()).ending = .returned [9, 2, 1, 7] ∧
      [9, 2, 1, 7].Sublist set.ids ∧ ([9, 2, 1, 7] : List UInt32).Nodup := by
  intro p edits
  have hwithin : p.Within := Primitive.outermost_within _
  obtain ⟨set, hset, -, -, hids, -⟩ := pollWith_in_order {} "mixed" 8 10 edits hwithin (-1) ()
  let listed : DescriptorSet :=
    ⟨[⟨9, .handle 1⟩, ⟨4, .handle 2⟩, ⟨2, .handle 5⟩, ⟨1, .handle 6⟩, ⟨7, .handle 3⟩], 8, 10⟩
  have hlisted : ((start {} "mixed" 8 10).run "mixed" edits).desk.sets.get? "mixed" = some listed := by
    decide +kernel
  rw [Option.some.inj (hset.symm.trans hlisted)] at hids
  have hfound : ((listed.pollWith p (-1)).run ()).ending = .returned [9, 2, 1, 7] := by decide +kernel
  have hordered := (hids _ hfound).2 (.inl ⟨3, rfl, by decide⟩)
  exact ⟨hwithin, listed, hlisted, rfl, hfound, hordered⟩

end Hotplug
