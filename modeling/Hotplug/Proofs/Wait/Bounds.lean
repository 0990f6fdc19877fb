import Hotplug.Proofs.Hoare
import Hotplug.Proofs.Wait.Inquiry
/-!
# Places in bounds

A wait asks its primitive about parts of the objects. If what the primitive reports lies in the part that
it was asked about, then what comes out of the wait are places of objects. A wait in chunks puts them in
order and leaves out repetitions; a wait in one call passes on what the primitive reports.

## Main definitions

* `Hotplug.Primitive.Within`, `Hotplug.Primitive.Ascending`: what is asked of a primitive.
* `Hotplug.Primitive.Asks`: an action that asks about parts of some objects only.

## Main statements

* `Hotplug.Primitive.Within.asks_waitAll`, `Hotplug.Primitive.Within.placesOf_waitAll`
-/

namespace Hotplug

variable {σ α β : Type} {objects : List Waitable}

/-- The places that are reported are those of objects that were handed over. -/
def Primitive.Within (p : Primitive σ) : Prop :=
  ∀ objects limit state places,
    ((p.call objects limit).run state).ending = .returned (.ready places) →
      ∀ place ∈ places, place < objects.length

/-- Places are reported in ascending order, each once. -/
def Primitive.Ascending (p : Primitive σ) : Prop :=
  ∀ objects limit state places,
    ((p.call objects limit).run state).ending = .returned (.ready places) → places.Pairwise (· < ·)

/-- One call does not take all the objects. -/
def Primitive.Chunks (p : Primitive σ) (objects : List Waitable) : Prop :=
  ∃ size, p.limit = some size ∧ size < objects.length

namespace Chunk

theorem exists_turn {size : Nat} (hsize : 0 < size) (hpos : 0 < objects.length) (turn : Nat) :
    ∃ chunk, (split size 0 objects)[turn % (split size 0 objects).length]? = some chunk :=
  have hne := (partition_split hsize objects).ne_nil hpos
  ⟨_, List.getElem?_eq_getElem (Nat.mod_lt turn (List.length_pos_iff.2 hne))⟩

theorem PartOf.lt_of_mem_places {chunk : Chunk} (h : chunk.PartOf objects) {within : List Nat}
    (hwithin : ∀ place ∈ within, place < chunk.objects.length) :
    ∀ place ∈ chunk.places within, place < objects.length := by
  intro place hmem
  obtain ⟨offset, hoffset, rfl⟩ := List.mem_map.1 hmem
  exact Nat.lt_of_lt_of_le (Nat.add_lt_add_left (hwithin offset hoffset) _) h.within

end Chunk

/-- Places of so many objects, in ascending order if that is asked for. -/
structure PlacesOf (count : Nat) (ordered : Prop) (places : List Nat) : Prop where
  within : ∀ place ∈ places, place < count
  ascending : ordered → places.Pairwise (· < ·)

/-- If the answer reports places, they are good. -/
def Readiness.Reports (good : List Nat → Prop) : Readiness → Prop
  | ready places => good places
  | _ => True

theorem PlacesOf.nil (count : Nat) (ordered : Prop) : PlacesOf count ordered [] :=
  ⟨nofun, fun _ => .nil⟩

theorem placesOf_sortUnique {count : Nat} {places : List Nat} (h : ∀ place ∈ places, place < count)
    (ordered : Prop) : PlacesOf count ordered (sortUnique places) :=
  ⟨fun place hmem => h place (mem_sortUnique.1 hmem), fun _ => pairwise_sortUnique places⟩

namespace Primitive

/-- Whatever was asked so far, was asked about a part of the objects. -/
def Confined (objects : List Waitable) (s : σ × List Inquiry) : Prop :=
  ∀ inquiry ∈ s.2, inquiry.chunk.PartOf objects

/-- The action asks about parts of the objects only, and if it returns a value, that is a good one. -/
def Asks (objects : List Waitable) (action : Action (σ × List Inquiry) α) (good : α → Prop) : Prop :=
  action.Hoare (Confined objects) fun ending s =>
    Confined objects s ∧ ∀ value, ending = .returned value → good value

namespace Asks

variable {good : α → Prop}

theorem pure {value : α} (h : good value) :
    Asks objects (pure value : Action (σ × List Inquiry) α) good :=
  fun _ hconfined => ⟨hconfined, fun _ heq => by cases heq; exact h⟩

theorem wait : Asks objects (Action.wait : Action (σ × List Inquiry) α) good :=
  fun _ hconfined => ⟨hconfined, nofun⟩

theorem bind {first : Action (σ × List Inquiry) α} {next : α → Action (σ × List Inquiry) β}
    {post : β → Prop} (h : Asks objects first good)
    (hnext : ∀ value, good value → Asks objects (next value) post) :
    Asks objects (first >>= next) post :=
  Action.Hoare.bind h
    (fun value => .given (fun _ h => h.2 value rfl) fun hvalue =>
      (hnext value hvalue).strengthen fun _ h => h.1)
    (fun _ _ h => ⟨h.1, nofun⟩) fun _ h => ⟨h.1, nofun⟩

theorem mono {action : Action (σ × List Inquiry) α} {post : α → Prop} (h : Asks objects action good)
    (himp : ∀ value, good value → post value) : Asks objects action post :=
  Action.Hoare.weaken h fun _ _ h => ⟨h.1, fun value heq => himp value (h.2 value heq)⟩

end Asks

/-! ### What each part of a wait asks -/

variable {p : Primitive σ}

/-- Reading the clock asks nothing. -/
theorem Timing.asks {action : Action (σ × List Inquiry) α} (h : p.noting.Timing action) :
    Asks objects action fun _ => True := by
  cases h with
  | given value => exact .pure trivial
  | read f => exact fun _ hconfined => ⟨hconfined, fun _ _ => trivial⟩

namespace Within

variable (h : p.Within)
include h

theorem asks_ask {chunk : Chunk} (hchunk : chunk.PartOf objects) (limit : Int) :
    Asks objects (p.noting.ask chunk limit)
      (Readiness.Reports (PlacesOf chunk.objects.length p.Ascending)) := by
  intro s hconfined
  refine ⟨List.forall_mem_append.2 ⟨hconfined, List.forall_mem_singleton.2 hchunk⟩, fun answer heq => ?_⟩
  cases answer with
  | ready places =>
    exact ⟨h chunk.objects limit s.1 places heq,
      fun hascending => hascending chunk.objects limit s.1 places heq⟩
  | timedOut => trivial
  | interrupted => trivial

theorem asks_sweep {chunks : List Chunk} (hchunks : ∀ chunk ∈ chunks, chunk.PartOf objects)
    {found : List Nat} (hfound : ∀ place ∈ found, place < objects.length) :
    Asks objects (Chunked.sweep p.noting chunks found) fun answer =>
      ∀ places ∈ answer, ∀ place ∈ places, place < objects.length := by
  induction chunks generalizing found with
  | nil =>
    refine .pure fun places hmem => ?_
    cases hmem
    exact hfound
  | cons chunk rest ih =>
    obtain ⟨hchunk, hrest⟩ := List.forall_mem_cons.1 hchunks
    refine .bind (h.asks_ask hchunk 0) fun answer hanswer => ?_
    cases answer with
    | ready places =>
      exact ih hrest (List.forall_mem_append.2 ⟨hfound, hchunk.lt_of_mem_places hanswer.within⟩)
    | timedOut => exact ih hrest hfound
    | interrupted => exact .pure nofun

theorem asks_rounds {chunks : List Chunk} (hchunks : ∀ chunk ∈ chunks, chunk.PartOf objects)
    (slice : Int) (deadline : Deadline) (patience turn : Nat) {carried : List Nat}
    (hcarried : ∀ place ∈ carried, place < objects.length) (ordered : Prop) :
    Asks objects (Chunked.rounds p.noting chunks slice deadline patience turn carried)
      (Readiness.Reports (PlacesOf objects.length ordered)) := by
  -- What a wait on one chunk reports is carried into the next sweep, so it is in bounds there too.
  induction patience generalizing turn carried with
  | zero => exact .wait
  | succ more ih =>
    refine .bind (h.asks_sweep hchunks hcarried) fun found hfound => ?_
    match found, hfound with
    | none, _ => exact .pure trivial
    | some (place :: places), hfound => exact .pure (placesOf_sortUnique (hfound _ rfl) ordered)
    | some [], _ =>
      refine .bind (p.noting.timing_left deadline).asks fun remaining _ => ?_
      split
      · exact .pure trivial
      · split
        · exact .pure trivial
        · next chunk hturn =>
          have hchunk : chunk.PartOf objects := hchunks chunk (List.mem_of_getElem? hturn)
          refine .bind (h.asks_ask hchunk _) fun answer hanswer => ?_
          cases answer with
          | ready places => exact ih _ (hchunk.lt_of_mem_places hanswer.within)
          | timedOut => exact ih _ nofun
          | interrupted => exact .pure trivial

/-- An attempt in chunks puts the places in order, and so does a primitive that reports them in order. -/
theorem asks_attempt (patience : Nat) (remaining slice : Int) :
    Asks objects (p.noting.attempt patience objects remaining slice)
      (Readiness.Reports (PlacesOf objects.length (p.Chunks objects ∨ p.Ascending))) := by
  -- In one call, the order is that of the primitive.
  have direct (hwhole : ¬p.Chunks objects) :
      Asks objects (p.noting.ask (.whole objects) remaining)
        (Readiness.Reports (PlacesOf objects.length (p.Chunks objects ∨ p.Ascending))) := by
    refine (h.asks_ask (Chunk.partOf_whole objects) remaining).mono fun answer hanswer => ?_
    cases answer with
    | ready places =>
      exact ⟨hanswer.within, fun hordered => hanswer.ascending (hordered.resolve_left hwhole)⟩
    | timedOut => trivial
    | interrupted => trivial
  unfold attempt
  split
  · next size hsize =>
    split
    · refine .bind (p.noting.timing_begin remaining).asks fun deadline _ => ?_
      exact h.asks_rounds (fun chunk => Chunk.partOf_of_mem_split (Nat.le_max_right size 1)) _ _ _ _
        (List.forall_mem_nil _) _
    · next hall =>
      refine direct fun ⟨other, hother, hmore⟩ => hall ?_
      cases hsize.symm.trans hother
      exact hmore
  · next hnone =>
    refine direct fun ⟨other, hother, _⟩ => ?_
    cases hnone.symm.trans hother

theorem asks_attempts (patience : Nat) (slice : Int) (deadline : Deadline) (tries : Nat) :
    Asks objects (p.noting.attempts patience objects slice deadline tries)
      (PlacesOf objects.length (p.Chunks objects ∨ p.Ascending)) := by
  induction tries with
  | zero => exact .wait
  | succ more ih =>
    refine .bind (p.noting.timing_left deadline).asks fun remaining _ =>
      .bind (h.asks_attempt patience remaining slice) fun answer hanswer => ?_
    have again : Asks objects
        (p.noting.isOver deadline >>= fun isLate =>
          if isLate ∨ remaining = 0 then pure []
          else p.noting.attempts patience objects slice deadline more)
        (PlacesOf objects.length (p.Chunks objects ∨ p.Ascending)) := by
      refine .bind (p.noting.timing_isOver deadline).asks fun isLate _ => ?_
      split
      · exact .pure (.nil _ _)
      · exact ih
    cases answer with
    | ready places => exact .pure hanswer
    | timedOut => exact again
    | interrupted => exact again

/-- A wait asks about parts of its objects only, and returns places of its objects. They are in order if
the wait was made in chunks, or if the primitive reports them in order. -/
theorem asks_waitAll (limit slice : Int) :
    Asks objects (p.noting.waitAll objects limit slice)
      (PlacesOf objects.length (p.Chunks objects ∨ p.Ascending)) := by
  intro s
  exact Asks.bind (p.noting.timing_begin limit).asks (fun deadline _ => h.asks_attempts _ _ deadline _) s

theorem placesOf_waitAll {limit slice : Int} {state : σ} {places : List Nat}
    (hreturned : ((p.waitAll objects limit slice).run state).ending = .returned places) :
    PlacesOf objects.length (p.Chunks objects ∨ p.Ascending) places := by
  have hmirror := p.noting_mirrors.waitAll objects limit slice (state, [])
  exact (h.asks_waitAll limit slice (state, []) nofun).2 places
    ((congrArg Outcome.ending hmirror).trans hreturned)

end Within

end Primitive

end Hotplug
