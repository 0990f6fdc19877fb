import Hotplug.Proofs.Hoare
import Hotplug.Proofs.Wait.Inquiry
/-!
# Primitives that run out of answers

A primitive may have so many answers to give and fail when it is asked for more, as one that answers
from a script does. Each attempt of a wait and each round in chunks asks at least once, so the wait
ends, and it asks at most once more than there are answers.

## Main definitions

* `Hotplug.Primitive.Supplied`: how many answers there are is counted by a function of the state.
* `Hotplug.Primitive.Spends`: how many answers an action leaves, and how often it asks.

## Main statements

* `Hotplug.Primitive.Supplied.waitAll_ends`
* `Hotplug.WaitScript.supplied`
-/

namespace Hotplug

variable {σ α β : Type} {p : Primitive σ} {left : σ → Nat} {total before middle after : Nat}

/-- There are so many answers left as `left` counts: each answer uses one up, reading the clock adds
none, and no call lasts forever. -/
structure Primitive.Supplied (p : Primitive σ) (left : σ → Nat) : Prop where
  answer : ∀ objects limit state answer, ((p.call objects limit).run state).ending = .returned answer →
    left ((p.call objects limit).run state).state < left state
  ends : ∀ objects limit state, ((p.call objects limit).run state).ending ≠ .unending
  now : ∀ state, left (p.now state).2 ≤ left state

namespace Primitive

/-- Fewer than `bound` answers are left, and no more than `total` with those that were given. -/
structure Stock (left : σ → Nat) (total bound : Nat) (s : σ × List Inquiry) : Prop where
  total_le : s.2.length + left s.1 ≤ total
  lt : left s.1 < bound

/-- If fewer than `before` answers are left, the action ends after at most one question more than there
are answers in total. If it returns, fewer than `after` answers are left. -/
def Spends (left : σ → Nat) (total before after : Nat) (action : Action (σ × List Inquiry) α) : Prop :=
  action.Hoare (Stock left total before) fun ending s =>
    ending ≠ .unending ∧ s.2.length ≤ total + 1 ∧
      ∀ value, ending = .returned value → Stock left total after s

namespace Spends

theorem pure {value : α} (h : before ≤ after) :
    Spends left total before after (pure value : Action (σ × List Inquiry) α) :=
  fun _ hstock => ⟨nofun, Nat.le_succ_of_le (Nat.le_of_add_right_le hstock.total_le),
    fun _ _ => ⟨hstock.total_le, Nat.lt_of_lt_of_le hstock.lt h⟩⟩

theorem of_zero {action : Action (σ × List Inquiry) α} : Spends left total 0 after action :=
  fun _ h => absurd h.lt (Nat.not_lt_zero _)

theorem bind {first : Action (σ × List Inquiry) α} {next : α → Action (σ × List Inquiry) β}
    (h : Spends left total before middle first)
    (hnext : ∀ value, Spends left total middle after (next value)) :
    Spends left total before after (first >>= next) :=
  Action.Hoare.bind h (fun value s h => hnext value s (h.2.2 value rfl))
    (fun _ _ h => ⟨nofun, h.2.1, nofun⟩) fun _ h => absurd rfl h.1

theorem mono {action : Action (σ × List Inquiry) α} (h : Spends left total before middle action)
    (hle : middle ≤ after) : Spends left total before after action :=
  Action.Hoare.weaken h fun _ _ h =>
    ⟨h.1, h.2.1, fun value heq => ⟨(h.2.2 value heq).total_le, Nat.lt_of_lt_of_le (h.2.2 value heq).lt hle⟩⟩

end Spends

/-! ### What each part of a wait spends -/

namespace Supplied

variable (h : p.Supplied left)
include h

/-- Reading the clock uses no answer up. -/
theorem spends_timing {action : Action (σ × List Inquiry) α} (htiming : p.noting.Timing action) :
    Spends left total before before action := by
  cases htiming with
  | given value => exact .pure (Nat.le_refl _)
  | read f =>
    refine .bind (fun s hstock => ?_) fun _ => .pure (Nat.le_refl _)
    have hnow := h.now s.1
    have htotal := hstock.total_le
    exact ⟨nofun, Nat.le_succ_of_le (Nat.le_of_add_right_le htotal), fun _ _ =>
      ⟨Nat.le_trans (Nat.add_le_add_left hnow _) htotal, Nat.lt_of_le_of_lt hnow hstock.lt⟩⟩

/-- A call that returns has used an answer up; one that fails is the last. -/
theorem spends_ask (chunk : Chunk) (limit : Int) :
    Spends left total before (before - 1) (p.noting.ask chunk limit) := by
  intro s hstock
  have hlength : ((p.noting.ask chunk limit).run s).state.2.length = s.2.length + 1 :=
    List.length_append
  have htotal := hstock.total_le
  refine ⟨h.ends chunk.objects limit s.1, by omega, fun answer hreturned => ?_⟩
  have hless : left ((p.noting.ask chunk limit).run s).state.1 < left s.1 :=
    h.answer chunk.objects limit s.1 answer hreturned
  exact ⟨by omega, Nat.lt_sub_of_add_lt (Nat.lt_of_le_of_lt hless hstock.lt)⟩

theorem spends_sweep (chunks : List Chunk) (found : List Nat) :
    Spends left total before before (Chunked.sweep p.noting chunks found) := by
  induction chunks generalizing found before with
  | nil => exact .pure (Nat.le_refl _)
  | cons chunk rest ih =>
    refine .mono (.bind (h.spends_ask chunk 0) fun answer => ?_) (Nat.sub_le before 1)
    cases answer with
    | ready places => exact ih _
    | timedOut => exact ih _
    | interrupted => exact .pure (Nat.le_refl _)

/-- A sweep of at least one chunk uses an answer up. -/
theorem spends_sweep_cons (chunk : Chunk) (rest : List Chunk) (found : List Nat) :
    Spends left total before (before - 1) (Chunked.sweep p.noting (chunk :: rest) found) := by
  refine .bind (h.spends_ask chunk 0) fun answer => ?_
  cases answer with
  | ready places => exact h.spends_sweep rest _
  | timedOut => exact h.spends_sweep rest _
  | interrupted => exact .pure (Nat.le_refl _)

theorem spends_rounds {chunks : List Chunk} (hchunks : chunks ≠ []) (slice : Int)
    (deadline : Deadline) (patience turn : Nat) (carried : List Nat) (hpatience : before ≤ patience) :
    Spends left total before (before - 1)
      (Chunked.rounds p.noting chunks slice deadline patience turn carried) := by
  obtain ⟨chunk, rest, rfl⟩ := List.exists_cons_of_ne_nil hchunks
  induction patience generalizing before turn carried with
  | zero =>
    rw [Nat.le_zero.1 hpatience]
    exact .of_zero
  | succ more ih =>
    refine .bind (h.spends_sweep_cons chunk rest carried) fun found => ?_
    match found with
    | none => exact .pure (Nat.le_refl _)
    | some (place :: places) => exact .pure (Nat.le_refl _)
    | some [] =>
      refine .bind (h.spends_timing (p.noting.timing_left deadline)) fun remaining => ?_
      have again (turn : Nat) (carried : List Nat) :
          Spends left total (before - 1 - 1) (before - 1)
            (Chunked.rounds p.noting (chunk :: rest) slice deadline more turn carried) :=
        (ih turn carried (by omega)).mono (by omega)
      split
      · exact .pure (Nat.le_refl _)
      · split
        · exact .pure (Nat.le_refl _)
        · refine .bind (h.spends_ask _ _) fun answer => ?_
          cases answer with
          | ready places => exact again _ _
          | timedOut => exact again _ _
          | interrupted => exact .pure (Nat.sub_le _ _)

theorem spends_attempt (patience : Nat) (objects : List Waitable) (remaining slice : Int)
    (hpatience : before ≤ patience) :
    Spends left total before (before - 1) (p.noting.attempt patience objects remaining slice) := by
  unfold attempt
  split
  · next limit _ =>
    split
    · next hmore =>
      have hchunks := (Chunk.partition_split (Nat.le_max_right limit 1) objects).ne_nil
        (Nat.zero_lt_of_lt hmore)
      exact .bind (h.spends_timing (p.noting.timing_begin remaining)) fun deadline =>
        h.spends_rounds hchunks _ deadline _ _ _ hpatience
    · exact h.spends_ask _ _
  · exact h.spends_ask _ _

theorem spends_attempts (patience : Nat) (objects : List Waitable) (slice : Int) (deadline : Deadline)
    (tries : Nat) (htries : before ≤ tries) (hpatience : before ≤ patience) :
    Spends left total before before
      (p.noting.attempts patience objects slice deadline tries) := by
  induction tries generalizing before with
  | zero =>
    rw [Nat.le_zero.1 htries]
    exact .of_zero
  | succ more ih =>
    refine .bind (h.spends_timing (p.noting.timing_left deadline)) fun remaining =>
      .bind (h.spends_attempt patience objects remaining slice hpatience) fun answer => ?_
    have again : Spends left total (before - 1) before
        (p.noting.isOver deadline >>= fun isLate =>
          if isLate ∨ remaining = 0 then pure []
          else p.noting.attempts patience objects slice deadline more) := by
      refine .bind (h.spends_timing (p.noting.timing_isOver deadline)) fun isLate => ?_
      split
      · exact .pure (Nat.sub_le _ _)
      · exact (ih (by omega) (by omega)).mono (Nat.sub_le _ _)
    cases answer with
    | ready places => exact .pure (Nat.sub_le _ _)
    | timedOut => exact again
    | interrupted => exact again

/-- A wait on a primitive with so many answers ends, and asks at most once more than there are. -/
theorem waitAll_ends {objects : List Waitable} {limit slice : Int} {state : σ}
    (hpatience : left state < p.patience limit state) :
    ((p.waitAll objects limit slice).run state).ending ≠ .unending ∧
      (p.inquiries objects limit slice state).length ≤ left state + 1 := by
  have hspends : Spends left (left state) (p.patience limit state) (p.patience limit state)
      (p.noting.waitWithin (p.patience limit state) objects limit slice) :=
    .bind (h.spends_timing (p.noting.timing_begin limit)) fun deadline =>
      h.spends_attempts _ _ _ deadline _ (Nat.le_refl _) (Nat.le_refl _)
  have hstock : Stock left (left state) (p.patience limit state) (state, []) :=
    ⟨Nat.le_of_eq (Nat.zero_add _), hpatience⟩
  obtain ⟨hends, hlength, -⟩ := hspends (state, []) hstock
  have hmirror := p.noting_mirrors.waitAll objects limit slice (state, [])
  exact ⟨congrArg Outcome.ending hmirror ▸ hends, hlength⟩

end Supplied

end Primitive

/-- A script has as many answers as there are left in it. -/
theorem WaitScript.supplied (limit : Option Nat) :
    (primitive limit).Supplied fun script => script.answers.length where
  answer objects wait script answer h := by
    obtain ⟨_ | ⟨first, rest⟩, calls⟩ := script
    · cases h
    · cases first with
      | ok value => exact Nat.lt_succ_self _
      | error failure => cases h
  ends objects wait script := by
    obtain ⟨_ | ⟨first, rest⟩, calls⟩ := script
    · nofun
    · cases first with
      | ok value => nofun
      | error failure => nofun
  now _ := Nat.le_refl _

end Hotplug
