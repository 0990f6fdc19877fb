import Hotplug.Proofs.Wait.Expiry
import Hotplug.Proofs.Wait.Supply
/-!
# The order of questions

A wait in chunks asks in rounds. Each round asks every chunk in order without waiting, and if nothing
was reported, stays with one chunk, the next one in turn. A signal makes the wait begin anew with the
first round; nothing else does, since the rounds only end with nothing when the deadline of the whole
wait has come.

## Main definitions

* `Hotplug.Rota`: the chunks, and how long to stay with one of them.
* `Hotplug.Rota.Due`: which question is next after those since the last interruption.
* `Hotplug.Rota.Followed`: each inquiry was the next one.

## Main statements

* `Hotplug.Deadline.isPast_of_isPast_ofLimit`: a deadline made of what is left of another is no earlier.
* `Hotplug.Primitive.waitAll_in_rounds`
-/

namespace Hotplug

open Inquiry

variable {σ α β : Type}

/-- A deadline that is made of what is left of another one is no earlier, unless more is left than can
be asked for. -/
theorem Deadline.isPast_of_isPast_ofLimit {deadline : Deadline} {start later now : Nat}
    (hsoon : ∀ moment ∈ deadline.moment, moment ≤ start + longestLimit * perMilli)
    (hlater : start ≤ later)
    (h : (ofLimit (deadline.remaining start) later).isPast now = true) :
    deadline.isPast now = true := by
  obtain ⟨hfinite, hle⟩ := isPast_ofLimit.1 h
  obtain ⟨_ | moment⟩ := deadline
  · cases hfinite
  · have hmoment := hsoon moment rfl
    simp only [remaining, perMilli, longestLimit] at hle hmoment
    simp only [isPast, decide_eq_true_eq]
    omega

theorem Deadline.isPast_mono {deadline : Deadline} {earlier later : Nat}
    (h : deadline.isPast earlier = true) (hle : earlier ≤ later) : deadline.isPast later = true := by
  obtain ⟨_ | moment⟩ := deadline
  · cases h
  · exact decide_eq_true (Nat.le_trans (of_decide_eq_true h) hle)

/-- A round stays with its chunk for at least a millisecond and at most a slice. -/
theorem Chunked.blockFor_bounds {remaining slice : Int} (hslice : 1 ≤ slice) (h : remaining ≠ 0) :
    1 ≤ blockFor remaining slice ∧ blockFor remaining slice ≤ slice := by
  unfold blockFor
  split <;> omega

/-! ### The clock beside the notes -/

/-- The notes are as given, and the clock reads no less than some moment. -/
structure Primitive.At (p : Primitive σ) (earliest : Nat) (log : List Inquiry)
    (s : σ × List Inquiry) : Prop where
  log_eq : s.2 = log
  earliest_le : earliest ≤ (p.now s.1).1

/-- The action returns what a function makes of a reading of the clock, and notes nothing. -/
def Primitive.Reads (p : Primitive σ) (action : Action (σ × List Inquiry) α) (f : Nat → α) : Prop :=
  ∀ earliest log, action.Hoare (p.At earliest log) fun ending s =>
    ∃ value, ending = .returned value ∧ ∃ time ≥ earliest, value = f time ∧ p.At time log s

namespace Primitive

variable {p : Primitive σ} {earliest : Nat} {log : List Inquiry}

/-- What follows a look at the clock runs at a time that is no earlier. -/
theorem Reads.bind {action : Action (σ × List Inquiry) α} {f : Nat → α} (h : p.Reads action f)
    {next : α → Action (σ × List Inquiry) β} {post : Ending β → σ × List Inquiry → Prop}
    (hnext : ∀ time ≥ earliest, (next (f time)).Hoare (p.At time log) post) :
    (action >>= next).Hoare (p.At earliest log) post := by
  refine .bind_returned (h earliest log) fun value s hread => ?_
  obtain ⟨time, hle, rfl, hat⟩ := hread
  exact hnext time hle s hat

variable (hclock : p.ForwardClock)
include hclock

theorem reads_clock (f : Nat → α) :
    p.Reads (Action.modifyGet p.noting.now >>= fun reading => pure (f reading)) f :=
  fun _ _ s h => ⟨_, rfl, (p.now s.1).1, h.earliest_le, rfl, h.log_eq, hclock.now s.1⟩

theorem reads_begin (limit : Int) : p.Reads (p.noting.begin limit) (Deadline.ofLimit limit) := by
  unfold begin
  split
  · next hlimit =>
    refine fun earliest log => .pure fun s h => ⟨_, rfl, earliest, Nat.le_refl _, ?_, h⟩
    rw [Deadline.ofLimit, if_pos hlimit]
  · exact reads_clock hclock _

theorem reads_left (deadline : Deadline) : p.Reads (p.noting.left deadline) deadline.remaining := by
  obtain ⟨_ | moment⟩ := deadline
  · exact fun earliest log => .pure fun s h => ⟨-1, rfl, earliest, Nat.le_refl _, rfl, h⟩
  · exact reads_clock hclock _

theorem reads_isOver (deadline : Deadline) : p.Reads (p.noting.isOver deadline) deadline.isPast := by
  obtain ⟨_ | moment⟩ := deadline
  · exact fun earliest log => .pure fun s h => ⟨false, rfl, earliest, Nat.le_refl _, rfl, h⟩
  · exact reads_clock hclock _

theorem ask_at (chunk : Chunk) (limit : Int) :
    (p.noting.ask chunk limit).Hoare (p.At earliest log) fun ending s =>
      p.At earliest (log ++ [⟨chunk, limit, ending⟩]) s :=
  fun s h => ⟨congrArg (· ++ _) h.log_eq,
    Nat.le_trans h.earliest_le (hclock.call chunk.objects limit s.1)⟩

end Primitive

/-! ### Turns -/

/-- The chunks to ask in turn, how long to stay with one of them, and the limit of the whole wait. -/
structure Rota where
  chunks : List Chunk
  slice : Int
  limit : Int

/-- The rota of a wait for some objects, of which one call takes at most `size`. -/
def Rota.ofObjects (objects : List Waitable) (size : Nat) (limit slice : Int) : Rota where
  chunks := Chunk.split (max size 1) 0 objects
  slice := max slice 1
  limit := limit

namespace Rota

/-- After some inquiries since the beginning or the last interruption, it is the turn of a chunk, for
so long. Each round takes one question for each chunk and one more. -/
inductive Due (rota : Rota) (earlier : List Inquiry) (chunk : Chunk) (wait : Int) : Prop
  /-- A sweep asks the chunks in order, and does not wait. -/
  | sweep (round place : Nat) (hplace : rota.chunks[place]? = some chunk)
      (hturn : earlier.length = round * (rota.chunks.length + 1) + place) (hwait : wait = 0)
  /-- If nothing was reported, the round stays with the next chunk in turn. -/
  | stay (round : Nat) (hplace : rota.chunks[round % rota.chunks.length]? = some chunk)
      (hturn : earlier.length = round * (rota.chunks.length + 1) + rota.chunks.length)
      (hnothing : reports earlier = []) (hpos : 1 ≤ wait) (hle : wait ≤ rota.slice)
      (hendless : rota.limit < 0 → wait = rota.slice)

/-- Each inquiry was due when it was made, and a wait that only looks made one sweep. -/
structure Followed (rota : Rota) (log : List Inquiry) : Prop where
  due : ∀ earlier next later, log = earlier ++ next :: later →
    rota.Due (since earlier) next.chunk next.limit
  glance : rota.limit = 0 → log.length ≤ rota.chunks.length

/-- The rota was followed so far, and these are the inquiries since the last interruption, of which
there was none in a wait that only looks. -/
structure Stretch (rota : Rota) (log stretch : List Inquiry) : Prop extends rota.Followed log where
  since_eq : since log = stretch
  fresh : rota.limit = 0 → log = stretch

variable {rota : Rota} {log stretch : List Inquiry} {chunk : Chunk} {wait : Int}

theorem followed_nil (rota : Rota) : rota.Followed [] :=
  ⟨fun earlier _ _ h => absurd h.symm (List.append_ne_nil_of_right_ne_nil earlier (List.cons_ne_nil _ _)),
    fun _ => Nat.zero_le _⟩

/-- A wait that only looks makes one sweep, so none of its questions waits. -/
theorem Followed.limit_eq_zero (h : rota.Followed log)
    (hlimit : rota.limit = 0) {inquiry : Inquiry} (hmem : inquiry ∈ log) : inquiry.limit = 0 := by
  obtain ⟨earlier, later, rfl⟩ := List.append_of_mem hmem
  have hbrief := h.glance hlimit
  have hsince : (since earlier).length ≤ earlier.length := (List.rtakeWhile_suffix _ earlier).length_le
  rw [List.length_append, List.length_cons] at hbrief
  cases h.due earlier inquiry later rfl with
  | sweep round place hplace hturn hwait => exact hwait
  | stay round hplace hturn => omega

/-- Asking what is due follows the rota, however the call ends. -/
theorem Stretch.ask (h : rota.Stretch log stretch) (hdue : rota.Due stretch chunk wait)
    (hglance : rota.limit = 0 → stretch.length < rota.chunks.length) (ending : Ending Readiness) :
    rota.Followed (log ++ [⟨chunk, wait, ending⟩]) := by
  refine ⟨fun earlier next later heq => ?_, fun hlimit => ?_⟩
  · rcases List.eq_nil_or_concat later with rfl | ⟨later, last, rfl⟩
    · obtain ⟨rfl, hlast⟩ := List.append_inj' heq rfl
      cases hlast
      exact h.since_eq ▸ hdue
    · rw [List.concat_eq_append, ← List.cons_append, ← List.append_assoc] at heq
      exact h.due earlier next later (List.append_inj' heq rfl).1
  · rw [List.length_append, h.fresh hlimit]
    exact hglance hlimit

/-- A call that was not cut short goes on with the stretch. -/
theorem Stretch.extend (h : rota.Stretch log stretch) (hdue : rota.Due stretch chunk wait)
    (hglance : rota.limit = 0 → stretch.length < rota.chunks.length) {answer : Readiness}
    (hanswer : answer ≠ .interrupted) :
    rota.Stretch (log ++ [⟨chunk, wait, .returned answer⟩])
      (stretch ++ [⟨chunk, wait, .returned answer⟩]) where
  toFollowed := h.ask hdue hglance _
  since_eq := by
    rw [since_append_of_undisturbed, h.since_eq]
    simpa [Undisturbed, isInterrupted] using hanswer
  fresh hlimit := by rw [h.fresh hlimit]

/-- How a part of a wait leaves the notes: the rota was followed, the clock has not gone back, and
what the part answers comes with a fact about the state. -/
def Follows (rota : Rota) (p : Primitive σ) (earliest : Nat) (fact : α → σ × List Inquiry → Prop)
    (ending : Ending α) (s : σ × List Inquiry) : Prop :=
  rota.Followed s.2 ∧ ∀ answer, ending = .returned answer →
    earliest ≤ (p.now s.1).1 ∧ fact answer s

theorem Follows.returned {p : Primitive σ} {earliest : Nat} {fact : α → σ × List Inquiry → Prop}
    {answer : α} {s : σ × List Inquiry} (h : rota.Followed s.2) (hle : earliest ≤ (p.now s.1).1)
    (hfact : fact answer s) : rota.Follows p earliest fact (.returned answer) s :=
  ⟨h, fun _ heq => by cases heq; exact ⟨hle, hfact⟩⟩

theorem Follows.earlier {p : Primitive σ} {earliest time : Nat} {fact : α → σ × List Inquiry → Prop}
    {ending : Ending α} {s : σ × List Inquiry} (h : rota.Follows p time fact ending s)
    (hle : earliest ≤ time) : rota.Follows p earliest fact ending s :=
  ⟨h.1, fun answer heq => ⟨Nat.le_trans hle (h.2 answer heq).1, (h.2 answer heq).2⟩⟩

/-- Why a wait in chunks ends: there is something to return, the deadline has come, or a signal came. -/
def Concludes (p : Primitive σ) (deadline : Deadline) : Readiness → σ × List Inquiry → Prop
  | .ready _, _ => True
  | .timedOut, s => deadline.isPast (p.now s.1).1 = true
  | .interrupted, s => since s.2 = []

/-- The deadline is one of the wait: it does not come if the limit never runs out, and has come if the
wait only looks. -/
structure Fits (rota : Rota) (deadline : Deadline) (time : Nat) : Prop where
  endless : rota.limit < 0 → deadline.moment = none
  glance : rota.limit = 0 → deadline.isPast time = true

theorem Fits.mono {deadline : Deadline} {earlier later : Nat} (h : rota.Fits deadline earlier)
    (hle : earlier ≤ later) : rota.Fits deadline later :=
  ⟨h.endless, fun hlimit => Deadline.isPast_mono (h.glance hlimit) hle⟩

/-- What is left of a deadline of the wait makes another one. -/
theorem Fits.ofLimit {deadline : Deadline} {start later : Nat} (h : rota.Fits deadline start) :
    rota.Fits (.ofLimit (deadline.remaining start) later) later where
  endless hlimit := by
    obtain ⟨moment⟩ := deadline
    obtain rfl : moment = none := h.endless hlimit
    rfl
  glance hlimit := by
    rw [Deadline.remaining_eq_zero_iff.2 (h.glance hlimit), Deadline.isPast_ofLimit]
    exact ⟨Int.le_refl 0, Nat.le_of_eq (by simp)⟩

variable {p : Primitive σ} (hclock : p.ForwardClock)
include hclock

/-! ### Rounds -/

theorem sweep_follows (round : Nat) (done rest : List Chunk) (hchunks : rota.chunks = done ++ rest)
    (found : List Nat) (earliest : Nat) {log stretch : List Inquiry} (h : rota.Stretch log stretch)
    (hturn : stretch.length = round * (rota.chunks.length + 1) + done.length)
    (hfound : reports stretch = found) (hglance : rota.limit = 0 → round = 0) :
    (Chunked.sweep p.noting rest found).Hoare (p.At earliest log)
      (rota.Follows p earliest fun answer s =>
        match answer with
        | none => since s.2 = []
        | some places => ∃ longer, rota.Stretch s.2 longer ∧ reports longer = places ∧
            longer.length = round * (rota.chunks.length + 1) + rota.chunks.length) := by
  induction rest generalizing done found log stretch with
  | nil =>
    rw [List.append_nil] at hchunks
    refine .pure fun s hat => .returned ?_ hat.earliest_le ⟨stretch, ?_, hfound, hchunks ▸ hturn⟩
    · exact hat.log_eq ▸ h.toFollowed
    · exact hat.log_eq ▸ h
  | cons chunk rest ih =>
    have hlength : done.length < rota.chunks.length := by
      rw [hchunks, List.length_append, List.length_cons]
      omega
    have hdue : rota.Due stretch chunk 0 := .sweep round done.length (by simp [hchunks]) hturn rfl
    have hbrief : rota.limit = 0 → stretch.length < rota.chunks.length := by
      intro hlimit
      rw [hturn, hglance hlimit]
      omega
    refine .bind (Primitive.ask_at hclock chunk 0) (fun answer => ?_)
      (fun _ s hat => ⟨hat.log_eq ▸ h.ask hdue hbrief _, nofun⟩)
      fun s hat => ⟨hat.log_eq ▸ h.ask hdue hbrief _, nofun⟩
    -- A call that was not cut short is followed by the rest of the sweep.
    have goOn (answer : Readiness) (hanswer : answer ≠ .interrupted) (new : List Nat)
        (hnew : reported ⟨chunk, 0, .returned answer⟩ = new) :=
      ih (done ++ [chunk]) (by simp [hchunks]) (found ++ new) (h.extend hdue hbrief hanswer)
        (by simp [hturn, Nat.add_assoc]) (by simp [hfound, hnew])
    cases answer with
    | ready places => exact goOn (.ready places) nofun _ rfl
    | timedOut => exact List.append_nil found ▸ goOn .timedOut nofun [] rfl
    | interrupted =>
      refine .pure fun s hat => .returned ?_ hat.earliest_le ?_
      · exact hat.log_eq ▸ h.ask hdue hbrief _
      · exact hat.log_eq ▸ EndsInterrupted.since_eq ⟨log, _, rfl, rfl⟩

/-- The rounds follow the rota from the beginning of any of them. -/
theorem rounds_follows (hchunks : rota.chunks ≠ []) (hslice : 1 ≤ rota.slice) {deadline : Deadline}
    (patience round : Nat) (carried : List Nat) (earliest : Nat) {log stretch : List Inquiry}
    (hfits : rota.Fits deadline earliest) (h : rota.Stretch log stretch)
    (hturn : stretch.length = round * (rota.chunks.length + 1)) (hcarried : reports stretch = carried)
    (hglance : rota.limit = 0 → round = 0) :
    (Chunked.rounds p.noting rota.chunks rota.slice deadline patience round carried).Hoare
      (p.At earliest log) (rota.Follows p earliest (Concludes p deadline)) := by
  induction patience generalizing round carried earliest log stretch with
  | zero => exact .wait fun s hat => ⟨hat.log_eq ▸ h.toFollowed, nofun⟩
  | succ more ih =>
    refine .bind (sweep_follows hclock round [] rota.chunks rfl carried earliest h hturn hcarried hglance)
      (fun found s hswept => ?_) (fun _ _ h => ⟨h.1, nofun⟩) fun _ h => ⟨h.1, nofun⟩
    obtain ⟨hfollowed, hfound⟩ := hswept
    obtain ⟨hle, hfact⟩ := hfound found rfl
    match found, hfact with
    | none, hinterrupted => exact .returned hfollowed hle hinterrupted
    | some (place :: places), _ => exact .returned hfollowed hle trivial
    | some [], ⟨longer, hlonger, hnothing, hlength⟩ =>
      refine (Primitive.reads_left hclock deadline).bind (fun time htime => ?_) s ⟨rfl, hle⟩
      split
      · next hzero =>
        refine .pure fun later hat => .returned ?_ (Nat.le_trans htime hat.earliest_le) ?_
        · exact hat.log_eq ▸ hfollowed
        · exact Deadline.isPast_mono (Deadline.remaining_eq_zero_iff.1 hzero) hat.earliest_le
      · next hleft =>
        -- There is time left, so the wait does more than look, and the round stays with a chunk.
        have hlimit : rota.limit ≠ 0 := fun hlimit =>
          hleft (Deadline.remaining_eq_zero_iff.2 ((hfits.mono htime).glance hlimit))
        have hpos : 0 < rota.chunks.length := List.length_pos_iff.2 hchunks
        split
        · next hnone =>
          exact absurd (List.getElem?_eq_none_iff.1 hnone) (Nat.not_le.2 (Nat.mod_lt _ hpos))
        · next chunk hchunk =>
          obtain ⟨hone, hslice⟩ := Chunked.blockFor_bounds hslice hleft
          have hdue : rota.Due longer chunk (Chunked.blockFor (deadline.remaining time) rota.slice) := by
            refine .stay round hchunk hlength hnothing hone hslice fun hendless => ?_
            obtain ⟨moment⟩ := deadline
            obtain rfl : moment = none := hfits.endless hendless
            rfl
          have hbrief : rota.limit = 0 → longer.length < rota.chunks.length := fun h => absurd h hlimit
          refine .bind (Primitive.ask_at hclock chunk _) (fun answer => ?_)
            (fun _ s hat => ⟨hat.log_eq ▸ hlonger.ask hdue hbrief _, nofun⟩)
            fun s hat => ⟨hat.log_eq ▸ hlonger.ask hdue hbrief _, nofun⟩
          have goOn (answer : Readiness) (hanswer : answer ≠ .interrupted) (new : List Nat)
              (hnew : reported ⟨chunk, Chunked.blockFor (deadline.remaining time) rota.slice,
                .returned answer⟩ = new) :=
            (ih (round + 1) new time (hfits.mono htime) (hlonger.extend hdue hbrief hanswer)
              (by simp [hlength, Nat.succ_mul, Nat.add_assoc]) (by simp [hnothing, hnew])
              fun h => absurd h hlimit).weaken fun _ _ h => h.earlier htime
          cases answer with
          | ready places => exact goOn (.ready places) nofun _ rfl
          | timedOut => exact goOn .timedOut nofun [] rfl
          | interrupted =>
            refine .pure fun s hat => .returned ?_ (Nat.le_trans htime hat.earliest_le) ?_
            · exact hat.log_eq ▸ hlonger.ask hdue hbrief _
            · rw [Concludes, hat.log_eq]
              exact EndsInterrupted.since_eq ⟨_, _, rfl, rfl⟩

/-! ### Attempts -/

variable {objects : List Waitable} {size : Nat} {limit slice : Int}

/-- An attempt follows the rota, and ends without places only when the deadline of the whole wait has
come or a signal came. -/
theorem attempt_follows (hsize : p.limit = some size) (hmore : size < objects.length)
    (patience : Nat) {deadline : Deadline} {start : Nat} {log : List Inquiry}
    (hfits : (ofObjects objects size limit slice).Fits deadline start)
    (hsoon : ∀ moment ∈ deadline.moment, moment ≤ start + longestLimit * Deadline.perMilli)
    (h : (ofObjects objects size limit slice).Stretch log []) :
    (p.noting.attempt patience objects (deadline.remaining start) slice).Hoare (p.At start log)
      ((ofObjects objects size limit slice).Follows p start (Concludes p deadline)) := by
  have hchunked : p.noting.attempt patience objects (deadline.remaining start) slice =
      Chunked.wait p.noting patience objects size (deadline.remaining start) slice := by
    simp [Primitive.attempt, Primitive.noting, hsize, hmore]
  have hchunks : (ofObjects objects size limit slice).chunks ≠ [] :=
    (Chunk.partition_split (Nat.le_max_right size 1) objects).ne_nil (Nat.zero_lt_of_lt hmore)
  rw [hchunked]
  refine (Primitive.reads_begin hclock _).bind fun time htime => ?_
  refine (rounds_follows hclock hchunks (Int.le_max_right slice 1) patience 0 [] time hfits.ofLimit h
    (Nat.zero_mul _).symm rfl fun _ => rfl).weaken fun ending s hfollows => ⟨hfollows.1, ?_⟩
  intro answer heq
  obtain ⟨hle, hfact⟩ := hfollows.2 answer heq
  refine ⟨Nat.le_trans htime hle, ?_⟩
  cases answer with
  | ready places => trivial
  | timedOut => exact Deadline.isPast_of_isPast_ofLimit hsoon htime hfact
  | interrupted => exact hfact

theorem attempts_follows (hsize : p.limit = some size) (hmore : size < objects.length)
    (patience : Nat) {deadline : Deadline} (tries earliest : Nat) {log : List Inquiry}
    (hfits : (ofObjects objects size limit slice).Fits deadline earliest)
    (hsoon : ∀ moment ∈ deadline.moment, moment ≤ earliest + longestLimit * Deadline.perMilli)
    (h : (ofObjects objects size limit slice).Stretch log []) :
    (p.noting.attempts patience objects slice deadline tries).Hoare (p.At earliest log)
      fun _ s => (ofObjects objects size limit slice).Followed s.2 := by
  induction tries generalizing earliest log with
  | zero => exact .wait fun s hat => hat.log_eq ▸ h.toFollowed
  | succ more ih =>
    refine (Primitive.reads_left hclock deadline).bind fun start hstart => ?_
    have hsoon : ∀ moment ∈ deadline.moment, moment ≤ start + longestLimit * Deadline.perMilli :=
      fun moment hmem => Nat.le_trans (hsoon moment hmem) (Nat.add_le_add_right hstart _)
    refine .bind (attempt_follows hclock hsize hmore patience (hfits.mono hstart) hsoon h)
      (fun answer s hanswer => ?_) (fun _ _ h => h.1) fun _ h => h.1
    obtain ⟨hfollowed, hanswer⟩ := hanswer
    obtain ⟨hle, hfact⟩ := hanswer answer rfl
    -- Only after a signal is there another attempt, and then only if the wait does more than look.
    have again (hover : deadline.isPast (p.now s.1).1 = true ∨ since s.2 = []) :
        (p.noting.isOver deadline >>= fun isLate =>
          if isLate ∨ deadline.remaining start = 0 then pure []
          else p.noting.attempts patience objects slice deadline more).Hoare (p.At (p.now s.1).1 s.2)
          fun _ s => (ofObjects objects size limit slice).Followed s.2 := by
      refine (Primitive.reads_isOver hclock deadline).bind fun time htime => ?_
      split
      · exact .pure fun _ hat => hat.log_eq ▸ hfollowed
      · next hgoing =>
        obtain ⟨hnotLate, hleft⟩ := not_or.1 hgoing
        have hsince := hover.resolve_left fun hpast => hnotLate (Deadline.isPast_mono hpast htime)
        have hlater : start ≤ time := Nat.le_trans hle htime
        refine ih time (hfits.mono (Nat.le_trans hstart hlater)) ?_ ⟨hfollowed, hsince, ?_⟩
        · exact fun moment hmem =>
            Nat.le_trans (hsoon moment hmem) (Nat.add_le_add_right hlater _)
        · exact fun hlimit =>
            absurd (Deadline.remaining_eq_zero_iff.2 ((hfits.mono hstart).glance hlimit)) hleft
    cases answer with
    | ready places => exact hfollowed
    | timedOut => exact again (.inl hfact) s ⟨rfl, Nat.le_refl _⟩
    | interrupted => exact again (.inr hfact) s ⟨rfl, Nat.le_refl _⟩

end Rota

namespace Primitive

/-- How a wait for more objects than one call takes asks. The chunks cut the objects up. Since the
beginning or the last interruption, each question is the next one in rounds of a sweep and a stay; a
wait that only looks makes no more than one sweep. If the primitive has so many answers and fails after
the last, the wait ends, and asks at most once more. -/
theorem waitAll_in_rounds {p : Primitive σ} (hclock : p.ForwardClock) {objects : List Waitable}
    {size : Nat} (hsize : p.limit = some size) (hmore : size < objects.length) (limit : Int32)
    (slice : Int) (state : σ) :
    let rota := Rota.ofObjects objects size limit.toInt slice
    let log := p.inquiries objects limit.toInt slice state
    Chunk.Partition rota.chunks (max size 1) objects ∧ rota.Followed log ∧
      (limit = 0 → log.length ≤ rota.chunks.length ∧ ∀ inquiry ∈ log, inquiry.limit = 0) ∧
      ∀ left, p.Supplied left → left state < p.patience limit.toInt state →
        ((p.waitAll objects limit.toInt slice).run state).ending ≠ .unending ∧
          log.length ≤ left state + 1 := by
  intro rota log
  have hfollowed : rota.Followed log := by
    have hrun : (p.noting.waitWithin (p.patience limit.toInt state) objects limit.toInt slice).Hoare
        (p.At 0 []) fun _ s => rota.Followed s.2 := by
      refine (reads_begin hclock limit.toInt).bind fun time htime => ?_
      refine Rota.attempts_follows hclock hsize hmore _ _ time ⟨fun hendless => ?_, fun hglance => ?_⟩
        (fun moment hmem => ?_) ⟨rota.followed_nil, rfl, fun _ => rfl⟩
      · exact if_pos hendless
      · have hzero : limit.toInt = 0 := hglance
        exact Deadline.isPast_ofLimit.2 (by simp [hzero])
      · have hle := limit.toInt_lt
        simp only [Deadline.ofLimit] at hmem
        split at hmem
        · cases hmem
        · cases hmem
          simp only [Deadline.perMilli, longestLimit]
          omega
    exact hrun (state, []) ⟨rfl, Nat.zero_le _⟩
  refine ⟨Chunk.partition_split (Nat.le_max_right size 1) objects, hfollowed, fun hzero => ?_,
    fun left hleft hpatience => hleft.waitAll_ends hpatience⟩
  have hlimit : rota.limit = 0 := by
    subst hzero
    rfl
  exact ⟨hfollowed.glance hlimit, fun inquiry hmem => hfollowed.limit_eq_zero hlimit hmem⟩

/-- Three objects in chunks of two. The first round stays with the first chunk, the second would stay
with the second one, but a signal cuts its sweep short; then the rounds begin anew, and the script
ends. -/
theorem waitAll_in_rounds_script :
    let p := WaitScript.primitive (some 2)
    let objects : List Waitable := [.handle 1, .handle 2, .handle 3]
    let script : WaitScript :=
      ⟨[.ok .timedOut, .ok .timedOut, .ok .timedOut, .ok .timedOut, .ok .interrupted], []⟩
    let rota := Rota.ofObjects objects 2 25 10
    let log := p.inquiries objects 25 10 script
    p.ForwardClock ∧ p.limit = some 2 ∧ 2 < objects.length ∧
      (log.map fun inquiry => (inquiry.chunk.start, inquiry.limit)) =
        [(0, 0), (2, 0), (0, 10), (0, 0), (2, 0), (0, 0)] ∧
      rota.Followed log ∧ ((p.waitAll objects 25 10).run script).ending ≠ .unending ∧
      log.length ≤ 5 + 1 := by
  intro p objects script rota log
  have hclock : p.ForwardClock := ⟨fun _ => Nat.le_refl _, fun _ _ _ => Nat.le_refl _⟩
  obtain ⟨-, hfollowed, -, hends⟩ :=
    waitAll_in_rounds hclock (show p.limit = some 2 from rfl) (show 2 < objects.length by decide) 25 10
      script
  exact ⟨hclock, rfl, by decide, by decide +kernel, hfollowed,
    hends _ (WaitScript.supplied _) (by decide)⟩

end Primitive

end Hotplug
