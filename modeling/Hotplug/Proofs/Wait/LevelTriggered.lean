import Hotplug.Proofs.Hoare
import Hotplug.Proofs.Wait.Places
import Hotplug.Wait.Engine
/-!
# Waiting for objects that stay ready

A level-triggered primitive says of every object that is ready that it is, as often as it is asked. On
such a primitive it makes no difference how many objects one call takes: a wait returns the places of
all ready objects in ascending order, and signals only make it ask again.

A primitive is handed objects and not their places. So what it has to say is asked for only of objects
that stand together somewhere in the list that is waited for, and it may depend on the objects alone.

## Main definitions

* `Hotplug.Primitive.LevelTriggered`, `Hotplug.Primitive.ForwardClock`
* `Hotplug.Primitive.steady`: a primitive whose calls are cut short as a list says.

## Main statements

* `Hotplug.Primitive.waitAll_eq_readyPlaces`: waits in chunks and others return the ready places.
* `Hotplug.Primitive.steady_levelTriggered`, `Hotplug.Primitive.steady_levelTriggered_of_nodup`: what
  looks at the objects alone is level-triggered, for any set of places if no object is there twice.
-/

namespace Hotplug

variable {σ α β : Type}

/-- The ready ones among the first `count` places, in ascending order. -/
def readyPlaces (ready : Nat → Bool) (count : Nat) : List Nat :=
  (List.range count).filter ready

/-- The ready objects of a chunk, by their place in it. -/
def Chunk.live (ready : Nat → Bool) (chunk : Chunk) : List Nat :=
  (List.range chunk.objects.length).filter fun place => ready (chunk.start + place)

/-- What there is to say of a chunk: its ready objects, or that there are none. -/
def Chunk.level (ready : Nat → Bool) (chunk : Chunk) : Readiness :=
  match chunk.live ready with
  | [] => .timedOut
  | places => .ready places

/-- Some places of a list have an object that is ready. A primitive that is handed objects which stand
together in the list says which of them are, unless a signal cuts the call short. The signals still to
come are counted by `signals`. -/
structure Primitive.LevelTriggered (p : Primitive σ) (objects : List Waitable) (ready : Nat → Bool)
    (signals : σ → Nat) : Prop where
  /-- A call uses up a signal or answers. -/
  call : ∀ chunk : Chunk, chunk.PartOf objects → ∀ limit state,
    ((p.call chunk.objects limit).run state).ending = .returned .interrupted ∧
        signals ((p.call chunk.objects limit).run state).state < signals state ∨
      ((p.call chunk.objects limit).run state).ending = .returned (chunk.level ready) ∧
        signals ((p.call chunk.objects limit).run state).state ≤ signals state
  /-- Reading the clock brings no signals. -/
  now : ∀ state, signals (p.now state).2 ≤ signals state

/-- The clock of the primitive never goes back. -/
structure Primitive.ForwardClock (p : Primitive σ) : Prop where
  now : ∀ state, (p.now state).1 ≤ (p.now (p.now state).2).1
  call : ∀ objects limit state,
    (p.now state).1 ≤ (p.now ((p.call objects limit).run state).state).1

/-- At most so many signals are to come, and the clock reads no less than some moment. -/
structure Primitive.Keeps (p : Primitive σ) (signals : σ → Nat) (most earliest : Nat) (state : σ) :
    Prop where
  signals_le : signals state ≤ most
  earliest_le : earliest ≤ (p.now state).1

/-- The action returns an answer, unless one of the signals cuts it short. -/
def Primitive.Yields (p : Primitive σ) (signals : σ → Nat) (most earliest : Nat) (action : Action σ α)
    (cut answer : α) : Prop :=
  action.Hoare (p.Keeps signals most earliest) fun ending state =>
    p.Keeps signals most earliest state ∧
      (ending = .returned cut ∧ signals state < most ∨ ending = .returned answer)

/-- Which places of a list have an object that is ready. -/
def Waitable.readyAt (ready : Waitable → Bool) (objects : List Waitable) (place : Nat) : Bool :=
  objects[place]?.any ready

/-- The same primitive without a limit on the number of objects. -/
def Primitive.unlimited (p : Primitive σ) : Primitive σ :=
  { p with limit := none }

theorem pairwise_readyPlaces (ready : Nat → Bool) (count : Nat) :
    (readyPlaces ready count).Pairwise (· < ·) :=
  List.pairwise_lt_range.filter _

theorem readyPlaces_eq_nil {ready : Nat → Bool} {count : Nat} :
    readyPlaces ready count = [] ↔ ∀ place < count, ready place = false := by
  simp [readyPlaces]

namespace Chunk

theorem level_congr {ready other : Nat → Bool} {chunk : Chunk}
    (h : ∀ place < chunk.objects.length, ready (chunk.start + place) = other (chunk.start + place)) :
    chunk.level ready = chunk.level other := by
  have hlive : chunk.live ready = chunk.live other :=
    List.filter_congr fun place hplace => h place (List.mem_range.1 hplace)
  rw [level, level, hlive]

/-- Of objects that stand together in a list there is the same to say without the list. -/
theorem PartOf.level_readyAt {chunk : Chunk} {objects : List Waitable} (h : chunk.PartOf objects)
    (ready : Waitable → Bool) :
    (whole chunk.objects).level (Waitable.readyAt ready chunk.objects) =
      chunk.level (Waitable.readyAt ready objects) := by
  have hlive : (whole chunk.objects).live (Waitable.readyAt ready chunk.objects) =
      chunk.live (Waitable.readyAt ready objects) := by
    refine List.filter_congr fun place hplace => ?_
    rw [Waitable.readyAt, Waitable.readyAt, ← h.getElem? (List.mem_range.1 hplace)]
    exact congrArg (fun place => Option.any ready chunk.objects[place]?) (Nat.zero_add place)
  rw [level, level, hlive]

theorem places_live (ready : Nat → Bool) (chunk : Chunk) :
    chunk.places (chunk.live ready) = chunk.range.filter ready := by
  rw [places, live, range, List.range'_eq_map_range, List.filter_map]
  rfl

theorem live_whole (ready : Nat → Bool) (objects : List Waitable) :
    (whole objects).live ready = readyPlaces ready objects.length := by
  simp [live, whole, readyPlaces]

/-- The chunks of a list have the ready places of the list between them. -/
theorem flatMap_live_split {size : Nat} (hsize : 0 < size) (ready : Nat → Bool)
    (objects : List Waitable) :
    (split size 0 objects).flatMap (fun chunk => chunk.range.filter ready) =
      readyPlaces ready objects.length := by
  rw [← List.filter_flatMap, flatMap_range_split hsize, ← List.range_eq_range']
  rfl

end Chunk

theorem Deadline.remaining_of_le {moment now : Nat} (h : moment ≤ now) :
    (⟨some moment⟩ : Deadline).remaining now = 0 := by
  simp [remaining, perMilli, Nat.sub_eq_zero_of_le h]

namespace Primitive

variable {p : Primitive σ} {objects : List Waitable} {ready : Nat → Bool} {signals : σ → Nat}

/-- The limit on the number of objects has no part in being level-triggered. -/
theorem LevelTriggered.unlimited (hp : p.LevelTriggered objects ready signals) :
    p.unlimited.LevelTriggered objects ready signals :=
  ⟨hp.call, hp.now⟩

theorem ForwardClock.unlimited (hclock : p.ForwardClock) : p.unlimited.ForwardClock :=
  ⟨hclock.now, hclock.call⟩

/-- What is cut short goes on in one way, what answers in another. -/
theorem Yields.bind {most earliest : Nat} {first : Action σ α} {cut answer : α}
    {next : α → Action σ β} {post : Ending β → σ → Prop}
    (h : p.Yields signals most earliest first cut answer)
    (hcut : (next cut).Hoare
      (fun state => p.Keeps signals most earliest state ∧ signals state < most) post)
    (hanswer : (next answer).Hoare (p.Keeps signals most earliest) post) :
    (first >>= next).Hoare (p.Keeps signals most earliest) post := by
  refine .bind h (fun value state hvalue => ?_) (fun _ _ hfailed => ?_) fun _ hunending => ?_
  · rcases hvalue with ⟨hkeeps, ⟨heq, hfewer⟩ | heq⟩
    · cases heq
      exact hcut state ⟨hkeeps, hfewer⟩
    · cases heq
      exact hanswer state hkeeps
  · rcases hfailed with ⟨-, ⟨heq, -⟩ | heq⟩ <;> cases heq
  · rcases hunending with ⟨-, ⟨heq, -⟩ | heq⟩ <;> cases heq

/-- A later moment is a stronger bound on the clock. -/
theorem Keeps.earlier {most earliest moment : Nat} {state : σ}
    (h : p.Keeps signals most moment state) (hle : earliest ≤ moment) :
    p.Keeps signals most earliest state :=
  ⟨h.signals_le, Nat.le_trans hle h.earliest_le⟩

theorem Yields.earlier {most earliest moment : Nat} {action : Action σ α} {cut answer : α}
    (h : p.Yields signals most moment action cut answer) (hle : earliest ≤ moment) :
    action.Hoare (p.Keeps signals most moment) fun ending state =>
      p.Keeps signals most earliest state ∧
        (ending = .returned cut ∧ signals state < most ∨ ending = .returned answer) :=
  h.weaken fun _ _ h => ⟨h.1.earlier hle, h.2⟩

variable (hp : p.LevelTriggered objects ready signals) (hclock : p.ForwardClock)
include hp hclock

theorem Keeps.read {most earliest : Nat} {state : σ} (h : p.Keeps signals most earliest state) :
    p.Keeps signals most (p.now state).1 (p.now state).2 :=
  ⟨Nat.le_trans (hp.now state) h.signals_le, hclock.now state⟩

/-- A call says what there is to say of its chunk. -/
theorem ask_level {chunk : Chunk} (hchunk : chunk.PartOf objects) (limit : Int)
    (most earliest : Nat) :
    p.Yields signals most earliest (p.ask chunk limit) .interrupted (chunk.level ready) := by
  intro state h
  have hlater := Nat.le_trans h.earliest_le (hclock.call chunk.objects limit state)
  rcases hp.call chunk hchunk limit state with ⟨hending, hfewer⟩ | ⟨hending, hle⟩
  · have hfewer := Nat.lt_of_lt_of_le hfewer h.signals_le
    exact ⟨⟨Nat.le_of_lt hfewer, hlater⟩, .inl ⟨hending, hfewer⟩⟩
  · exact ⟨⟨Nat.le_trans hle h.signals_le, hlater⟩, .inr hending⟩

/-- Nothing is left of a deadline that is no later than the clock. -/
theorem left_level (deadline : Deadline) (most earliest : Nat) :
    (p.left deadline).Hoare (p.Keeps signals most earliest) fun ending state =>
      ∃ remaining, ending = .returned remaining ∧ p.Keeps signals most earliest state ∧
        (deadline.moment = none → remaining = -1) ∧
          (deadline.moment = some earliest → remaining = 0) := by
  obtain ⟨moment | moment⟩ := deadline
  · exact .pure fun state h => ⟨-1, rfl, h, fun _ => rfl, nofun⟩
  · intro state h
    refine ⟨_, rfl, (h.read hp hclock).earlier h.earliest_le, nofun, fun hmoment => ?_⟩
    cases hmoment
    exact Deadline.remaining_of_le h.earliest_le

/-- A limit of zero has run out when it begins. -/
theorem begin_level (limit : Int) (most earliest : Nat) :
    (p.begin limit).Hoare (p.Keeps signals most earliest) fun ending state =>
      ∃ deadline, ending = .returned deadline ∧ ∃ moment, earliest ≤ moment ∧
        p.Keeps signals most moment state ∧ (limit < 0 → deadline.moment = none) ∧
          (limit = 0 → deadline.moment = some moment) := by
  unfold begin
  split
  · exact .pure fun state h =>
      ⟨_, rfl, earliest, Nat.le_refl _, h, fun _ => rfl, fun heq => by omega⟩
  · intro state h
    refine ⟨_, rfl, _, h.earliest_le, h.read hp hclock, fun hlt => by omega, fun heq => ?_⟩
    simp [Deadline.ofLimit, heq]

theorem isOver_level (deadline : Deadline) (most earliest : Nat) :
    (p.isOver deadline).Hoare (p.Keeps signals most earliest) fun ending state =>
      ∃ isLate, ending = .returned isLate ∧ p.Keeps signals most earliest state ∧
        (deadline.moment = none → isLate = false) := by
  obtain ⟨moment | moment⟩ := deadline
  · exact .pure fun state h => ⟨false, rfl, h, fun _ => rfl⟩
  · exact fun state h => ⟨_, rfl, (h.read hp hclock).earlier h.earliest_le, nofun⟩

end Primitive

namespace Chunk

/-- What there is to say of a chunk that has ready objects. -/
theorem level_of_ne_nil {ready : Nat → Bool} {chunk : Chunk} (h : chunk.live ready ≠ []) :
    chunk.level ready = .ready (chunk.live ready) := by
  unfold level
  split
  · exact absurd ‹_› h
  · rfl

theorem level_of_eq_nil {ready : Nat → Bool} {chunk : Chunk} (h : chunk.live ready = []) :
    chunk.level ready = .timedOut := by
  rw [level, h]

/-- What there is to say of all objects, as the places to return. -/
theorem level_whole (ready : Nat → Bool) (objects : List Waitable) :
    (whole objects).level ready =
      if readyPlaces ready objects.length = [] then .timedOut
      else .ready (readyPlaces ready objects.length) := by
  have hlive := live_whole ready objects
  split
  · next hready => exact level_of_eq_nil (hlive.trans hready)
  · next hready => rw [level_of_ne_nil (hlive ▸ hready), hlive]

end Chunk

namespace Chunked

variable {p : Primitive σ} {objects : List Waitable} {ready : Nat → Bool} {signals : σ → Nat}
variable (hp : p.LevelTriggered objects ready signals) (hclock : p.ForwardClock)
include hp hclock

/-- A sweep finds the ready places of its chunks. -/
theorem sweep_level {chunks : List Chunk} (hchunks : ∀ chunk ∈ chunks, chunk.PartOf objects)
    (found : List Nat) (most earliest : Nat) :
    p.Yields signals most earliest (sweep p chunks found) none
      (some (found ++ chunks.flatMap fun chunk => chunk.range.filter ready)) := by
  induction chunks generalizing found with
  | nil =>
    rw [List.flatMap_nil, List.append_nil]
    exact .pure fun _ h => ⟨h, .inr rfl⟩
  | cons chunk rest ih =>
    obtain ⟨hchunk, hrest⟩ := List.forall_mem_cons.1 hchunks
    refine .bind (Primitive.ask_level hp hclock hchunk 0 most earliest) ?_ ?_
    · exact Action.Hoare.pure fun state h => ⟨h.1, .inl ⟨rfl, h.2⟩⟩
    · rw [List.flatMap_cons, ← List.append_assoc, ← chunk.places_live]
      by_cases hlive : chunk.live ready = []
      · rw [Chunk.level_of_eq_nil hlive, hlive]
        simp only [Chunk.places, List.map_nil, List.append_nil]
        exact ih hrest found
      · rw [Chunk.level_of_ne_nil hlive]
        exact ih hrest (found ++ chunk.places (chunk.live ready))

/-- The first round decides if some object is ready or the deadline has come. -/
theorem rounds_level {size : Nat} (hsize : 0 < size) (slice : Int)
    (deadline : Deadline) (patience turn most earliest : Nat)
    (hdecided : readyPlaces ready objects.length ≠ [] ∨ deadline.moment = some earliest) :
    p.Yields signals most earliest
      (rounds p (Chunk.split size 0 objects) slice deadline (patience + 1) turn []) .interrupted
      ((Chunk.whole objects).level ready) := by
  have hsweep := sweep_level hp hclock (fun _ => Chunk.partOf_of_mem_split hsize) [] most earliest
  rw [List.nil_append, Chunk.flatMap_live_split hsize] at hsweep
  have hlive := Chunk.live_whole ready objects
  refine .bind hsweep (Action.Hoare.pure fun state h => ⟨h.1, .inl ⟨rfl, h.2⟩⟩) ?_
  cases hready : readyPlaces ready objects.length with
  | cons place places =>
    have hsorted := sortUnique_of_pairwise (pairwise_readyPlaces ready objects.length)
    rw [hready] at hlive hsorted
    rw [Chunk.level_of_ne_nil (by simp [hlive]), hlive]
    refine Action.Hoare.pure fun state h => ⟨h, .inr ?_⟩
    rw [hsorted]
  | nil =>
    have hmoment := hdecided.resolve_left (absurd hready)
    rw [Chunk.level_of_eq_nil (hlive.trans hready)]
    refine .bind_returned (Primitive.left_level hp hclock deadline most earliest)
      fun remaining state h => ?_
    rw [if_pos (h.2.2 hmoment)]
    exact ⟨h.1, .inr rfl⟩

end Chunked

namespace Primitive

variable {p : Primitive σ} {objects : List Waitable} {ready : Nat → Bool} {signals : σ → Nat}
variable (hp : p.LevelTriggered objects ready signals) (hclock : p.ForwardClock)
include hp hclock

/-- In chunks or not, an attempt says what there is to say of all objects. -/
theorem attempt_level (patience : Nat) (remaining slice : Int)
    (most earliest : Nat)
    (hdecided : readyPlaces ready objects.length ≠ [] ∨ remaining = 0) :
    p.Yields signals most earliest (p.attempt (patience + 1) objects remaining slice) .interrupted
      ((Chunk.whole objects).level ready) := by
  have direct := ask_level hp hclock (Chunk.partOf_whole objects) remaining most earliest
  unfold attempt
  split
  · split
    · refine .bind_returned (begin_level hp hclock remaining most earliest)
        fun deadline state ⟨moment, hle, hkeeps, _, hzero⟩ => ?_
      exact (Chunked.rounds_level hp hclock (by omega) (max slice 1) deadline patience 0 most
        moment (hdecided.imp_right hzero)).earlier hle state hkeeps
    · exact direct
  · exact direct

/-- Without a deadline, each attempt that is cut short uses up a signal. -/
theorem attempts_endless (patience : Nat) (slice : Int)
    (hready : readyPlaces ready objects.length ≠ []) (tries most earliest : Nat)
    (hmost : most < tries) :
    (p.attempts (patience + 1) objects slice ⟨none⟩ tries).Hoare (p.Keeps signals most earliest)
      fun ending _ => ending = .returned (readyPlaces ready objects.length) := by
  induction tries generalizing most with
  | zero => omega
  | succ more ih =>
    refine .bind_returned (left_level hp hclock ⟨none⟩ most earliest) fun remaining => ?_
    refine .given (fun _ h => h.2.1 rfl) fun hremaining => ?_
    refine .strengthen (Yields.bind (attempt_level hp hclock patience remaining slice most
      earliest (.inl hready)) ?_ ?_) fun _ h => h.1
    · -- A signal less is to come, and the deadline never does.
      refine .given (fun _ h => Nat.zero_lt_of_lt h.2) fun hsome => ?_
      refine .strengthen (.bind_returned (isOver_level hp hclock ⟨none⟩ (most - 1) earliest)
        fun isLate => ?_) fun state h => ⟨by have := h.2; omega, h.1.earliest_le⟩
      refine .given (fun _ h => h.2 rfl) fun hlate => ?_
      rw [if_neg (by simp [hlate, hremaining])]
      exact (ih (most - 1) (by omega)).strengthen fun _ h => h.1
    · rw [Chunk.level_whole, if_neg hready]
      exact Action.Hoare.pure fun _ _ => rfl

/-- When the deadline has come and no signals do, the first attempt is the last. -/
theorem attempts_due (patience : Nat) (slice : Int) (deadline : Deadline)
    (tries earliest : Nat) (hmoment : deadline.moment = some earliest) :
    (p.attempts (patience + 1) objects slice deadline (tries + 1)).Hoare
      (p.Keeps signals 0 earliest)
      fun ending _ => ending = .returned (readyPlaces ready objects.length) := by
  refine .bind_returned (left_level hp hclock deadline 0 earliest) fun remaining => ?_
  refine .given (fun _ h => h.2.2 hmoment) fun hremaining => ?_
  refine .strengthen (Yields.bind (attempt_level hp hclock patience remaining slice 0
    earliest (.inr hremaining)) ?_ ?_) fun _ h => h.1
  · exact fun _ h => absurd h.2 (Nat.not_lt_zero _)
  · by_cases hready : readyPlaces ready objects.length = []
    · rw [Chunk.level_whole, if_pos hready, hready]
      refine .bind_returned (isOver_level hp hclock deadline 0 earliest) fun isLate => ?_
      rw [if_pos (.inr hremaining)]
      exact .pure fun _ _ => rfl
    · rw [Chunk.level_whole, if_neg hready]
      exact Action.Hoare.pure fun _ _ => rfl

/-- A wait without a limit in which some object is ready, and a look that is not disturbed. -/
theorem waitWithin_level (limit slice : Int) (state : σ)
    (h : limit < 0 ∧ readyPlaces ready objects.length ≠ [] ∨ limit = 0 ∧ signals state = 0)
    (patience : Nat) (hpatience : signals state < patience) :
    ((p.waitWithin patience objects limit slice).run state).ending =
      .returned (readyPlaces ready objects.length) := by
  have hwait : (p.waitWithin patience objects limit slice).Hoare
      (p.Keeps signals (signals state) 0)
      fun ending _ => ending = .returned (readyPlaces ready objects.length) := by
    obtain ⟨more, rfl⟩ := Nat.exists_eq_succ_of_ne_zero (Nat.ne_zero_of_lt hpatience)
    refine .bind_returned (begin_level hp hclock limit (signals state) 0)
      fun deadline later ⟨moment, _, hkeeps, hendless, hdue⟩ => ?_
    rcases h with ⟨hlimit, hready⟩ | ⟨hlimit, hsignals⟩
    · obtain ⟨_⟩ := deadline
      cases hendless hlimit
      exact attempts_endless hp hclock more slice hready _ _ moment hpatience later hkeeps
    · rw [hsignals] at hkeeps
      exact attempts_due hp hclock more slice deadline more moment (hdue hlimit) later hkeeps
  exact hwait state ⟨Nat.le_refl _, Nat.zero_le _⟩

/-- A wait on a level-triggered primitive returns the ready places in ascending order, whatever the
limit on the number of objects, and the same as without one. It does so if it may last forever and
some object is ready, after any number of signals, and if it only looks and no signal comes. As many
attempts as there are signals, and one more, are enough. -/
theorem waitAll_eq_readyPlaces (limit slice : Int) (state : σ)
    (h : limit < 0 ∧ (∃ place < objects.length, ready place = true) ∨
      limit = 0 ∧ signals state = 0) :
    (∀ patience > signals state,
      ((p.waitWithin patience objects limit slice).run state).ending =
          .returned (readyPlaces ready objects.length) ∧
        ((p.unlimited.waitWithin patience objects limit slice).run state).ending =
          .returned (readyPlaces ready objects.length)) ∧
      (p.patience limit state > signals state →
        ((p.waitAll objects limit slice).run state).ending =
            .returned (readyPlaces ready objects.length) ∧
          ((p.unlimited.waitAll objects limit slice).run state).ending =
            .returned (readyPlaces ready objects.length)) := by
  have hlevel : limit < 0 ∧ readyPlaces ready objects.length ≠ [] ∨
      limit = 0 ∧ signals state = 0 := by
    refine h.imp_left fun ⟨hlimit, place, hplace, hready⟩ => ⟨hlimit, fun hnone => ?_⟩
    rw [readyPlaces_eq_nil.1 hnone place hplace] at hready
    cases hready
  have hwithin : ∀ patience > signals state,
      ((p.waitWithin patience objects limit slice).run state).ending =
          .returned (readyPlaces ready objects.length) ∧
        ((p.unlimited.waitWithin patience objects limit slice).run state).ending =
          .returned (readyPlaces ready objects.length) := fun patience hpatience =>
    ⟨waitWithin_level hp hclock limit slice state hlevel patience hpatience,
      waitWithin_level hp.unlimited hclock.unlimited limit slice state hlevel patience
        hpatience⟩
  exact ⟨hwithin, fun hpatience => hwithin _ hpatience⟩

end Primitive

/-- Some objects are ready and stay so, and the list says which of the calls to come are cut short. The
clock stands still. -/
def Primitive.steady (limit : Option Nat) (ready : Waitable → Bool) : Primitive (List Bool) where
  limit := limit
  now := fun cuts => (0, cuts)
  sleep := fun _ cuts => cuts
  call := fun objects _ cuts =>
    ⟨.returned (if cuts.head? = some true then .interrupted
      else (Chunk.whole objects).level (Waitable.readyAt ready objects)), cuts.tail, []⟩
  patience := fun _ cuts => cuts.count true + 1

namespace Primitive

/-- What looks at the objects alone is level-triggered, whatever the list that is waited for. -/
theorem steady_levelTriggered (limit : Option Nat) (ready : Waitable → Bool)
    (objects : List Waitable) :
    (steady limit ready).LevelTriggered objects (Waitable.readyAt ready objects)
      (List.count true) where
  call chunk hchunk wait cuts := by
    match cuts with
    | [] => exact .inr ⟨congrArg Ending.returned (hchunk.level_readyAt ready), Nat.le_refl _⟩
    | false :: rest =>
      exact .inr ⟨congrArg Ending.returned (hchunk.level_readyAt ready),
        by simp [steady, Action.run, Action.under]⟩
    | true :: rest => exact .inl ⟨rfl, by simp [steady, Action.run, Action.under]⟩
  now cuts := Nat.le_refl _

/-- If no object is there twice, any places of the list may be the ready ones. -/
theorem steady_levelTriggered_of_nodup (limit : Option Nat) {objects : List Waitable}
    (hdistinct : objects.Nodup) (ready : Nat → Bool) :
    (steady limit fun object => ready (objects.idxOf object)).LevelTriggered objects ready
      (List.count true) where
  call chunk hchunk wait cuts := by
    have hlevel : chunk.level
        (Waitable.readyAt (fun object => ready (objects.idxOf object)) objects) =
          chunk.level ready := by
      refine Chunk.level_congr fun place hplace => ?_
      have hinside : chunk.start + place < objects.length :=
        Nat.lt_of_lt_of_le (Nat.add_lt_add_left hplace _) hchunk.within
      simp [Waitable.readyAt, hinside, hdistinct.idxOf_getElem]
    exact hlevel ▸ (steady_levelTriggered limit _ objects).call chunk hchunk wait cuts
  now cuts := Nat.le_refl _

theorem steady_forwardClock (limit : Option Nat) (ready : Waitable → Bool) :
    (steady limit ready).ForwardClock :=
  ⟨fun _ => Nat.le_refl _, fun _ _ _ => Nat.le_refl _⟩

/-- Five objects in chunks of two, one of them twice, and two signals while they are swept. -/
theorem waitAll_eq_readyPlaces_steady :
    let ready : Waitable → Bool := fun object => object = .handle 2 ∨ object = .fd 5
    let p := steady (some 2) ready
    let objects : List Waitable := [.handle 7, .handle 2, .fd 3, .fd 5, .handle 2]
    let cuts := [false, true, false, false, true]
    p.LevelTriggered objects (Waitable.readyAt ready objects) (List.count true) ∧ p.ForwardClock ∧
      ((-1 : Int) < 0 ∧ (∃ place < objects.length, Waitable.readyAt ready objects place = true)) ∧
      p.patience (-1) cuts > cuts.count true ∧
      ((p.waitAll objects (-1) 10).run cuts).ending = .returned [1, 3, 4] ∧
      ((p.unlimited.waitAll objects (-1) 10).run cuts).ending = .returned [1, 3, 4] := by
  intro ready p objects cuts
  have hplace : ∃ place < objects.length, Waitable.readyAt ready objects place = true :=
    ⟨1, by decide, rfl⟩
  have hpatience : p.patience (-1) cuts > cuts.count true := by decide
  exact ⟨steady_levelTriggered _ _ _, steady_forwardClock _ _, ⟨by decide, hplace⟩, hpatience,
    (waitAll_eq_readyPlaces (steady_levelTriggered _ _ _) (steady_forwardClock _ _) (-1) 10 cuts
      (.inl ⟨by decide, hplace⟩)).2 hpatience⟩

end Primitive

end Hotplug
