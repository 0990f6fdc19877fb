import Mathlib.Algebra.Group.Nat.Defs
import Mathlib.Data.List.Induction
import Hotplug.Proofs.Report.Masking
/-!
# What masks hold

Masks are acquired and released in three ways: one by one, by guards, and for whole lists of codes. All
of them come to the same two changes of the mask of one code. As long as nothing is released that was
not acquired before, the count of a code is what it was at the start, and one more for each mask of the
code that is still held, in whatever order masks are given back.

## Main definitions

* `Hotplug.MaskChange`: one mask more, or one mask fewer.
* `Hotplug.Masks.holding`: the masks that changes leave held.
* `Hotplug.Masks.InRange`: no count comes to the end of its word.
* `Hotplug.Session.maskChanges`: what commands do to masks.

## Main statements

* `Hotplug.Masks.Carries.after`, `Hotplug.Masks.carries_foldl`: one change, and any number.
* `Hotplug.Masks.count_foldl`: the count of a code is a matter of the changes of that code alone.
* `Hotplug.Session.masks_performAll`: commands come to their changes.
* `Hotplug.Session.masks_balance`
-/

namespace Hotplug

/-- What happens to the mask of a code. -/
inductive MaskChange
  /-- One mask more. -/
  | acquire (code : Code)
  /-- One mask fewer. -/
  | release (code : Code)
  deriving DecidableEq, Repr

namespace MaskChange

def code : MaskChange → Code
  | acquire code | release code => code

/-- What is held after a change, if the change gives nothing back that is not held. -/
def settle? (held : List Code) : MaskChange → Option (List Code)
  | acquire code => some (code :: held)
  | release code => if code ∈ held then some (held.erase code) else none

end MaskChange

namespace Masks

def after (masks : Masks) : MaskChange → Masks
  | .acquire code => masks.acquire code
  | .release code => masks.release code

/-- The codes of the masks that were acquired and not yet released, once for each mask. There is no
answer if one was released without one acquired before. -/
def holding (changes : List MaskChange) : Option (List Code) :=
  changes.foldlM MaskChange.settle? []

/-- At no time does a count, with what it was at the start, come to the end of its word. -/
def InRange (start : Masks) (changes : List MaskChange) : Prop :=
  ∀ earlier held, earlier <+: changes → holding earlier = some held →
    ∀ code, (start.count code).toNat + held.count code < 2 ^ 32

/-- Each count is what it was at the start, and one more for each mask held. -/
def Carries (start : Masks) (held : List Code) (masks : Masks) : Prop :=
  ∀ code, (masks.count code).toNat = (start.count code).toNat + held.count code

variable {start masks : Masks} {held later : List Code} {changes earlier : List MaskChange}
  {change : MaskChange}

theorem holding_concat (changes : List MaskChange) (change : MaskChange) :
    holding (changes ++ [change]) = (holding changes).bind change.settle? := by
  simp [holding, List.foldlM_append]

/-- What was in order as a whole was in order before. -/
theorem exists_holding_of_prefix (hearlier : earlier <+: changes) (h : holding changes = some held) :
    ∃ before, holding earlier = some before := by
  obtain ⟨rest, rfl⟩ := hearlier
  rw [holding, List.foldlM_append] at h
  obtain ⟨before, hbefore, -⟩ := Option.bind_eq_some_iff.1 h
  exact ⟨before, hbefore⟩

theorem InRange.of_prefix (h : InRange start changes) (hearlier : earlier <+: changes) :
    InRange start earlier :=
  fun first held hfirst => h first held (hfirst.trans hearlier)

/-! ### Counts -/

theorem count_acquire (masks : Masks) (code other : Code) :
    (masks.acquire code).count other =
      if other = code then masks.count other + 1 else masks.count other := by
  by_cases h : other = code <;> simp [acquire, h]

theorem release_of_zero {code : Code} (h : masks.count code = 0) : masks.release code = masks := by
  have hcount : (masks.release code).count = masks.count := by
    funext other
    by_cases hother : other = code <;> simp [release, hother, h]
  exact congrArg Masks.mk hcount

theorem toNat_count_release (masks : Masks) (code other : Code) :
    ((masks.release code).count other).toNat =
      if other = code then (masks.count other).toNat - 1 else (masks.count other).toNat := by
  by_cases hother : other = code
  · subst hother
    rw [if_pos rfl]
    by_cases hzero : masks.count other = 0
    · rw [release_of_zero hzero, hzero]
      rfl
    · have hpos : 1 ≤ masks.count other := by
        rw [UInt32.le_iff_toNat_le]
        exact Nat.one_le_iff_ne_zero.2 fun h => hzero (UInt32.toNat.inj h)
      simp [release, hzero, UInt32.toNat_sub_of_le _ _ hpos]
  · simp [release, hother]

theorem count_after_of_ne {code : Code} (h : change.code ≠ code) (masks : Masks) :
    (masks.after change).count code = masks.count code := by
  cases change with
  | acquire other => exact if_neg (Ne.symm h)
  | release other => exact if_neg fun hboth => h hboth.1.symm

theorem count_after_congr {code : Code} {masks other : Masks} (h : masks.count code = other.count code)
    (change : MaskChange) : (masks.after change).count code = (other.after change).count code := by
  cases change <;> simp [after, acquire, release, h]

/-- The count of a code is a matter of the changes of that code alone. -/
theorem count_foldl (masks : Masks) (changes : List MaskChange) (code : Code) :
    (changes.foldl after masks).count code =
      ((changes.filter (·.code = code)).foldl after masks).count code := by
  have hstart : ∀ other : Masks, masks.count code = other.count code →
      (changes.foldl after masks).count code =
        ((changes.filter (·.code = code)).foldl after other).count code := by
    induction changes generalizing masks with
    | nil => exact fun other h => h
    | cons change rest ih =>
      intro other h
      by_cases hcode : change.code = code
      · rw [List.filter_cons_of_pos (by simpa using hcode)]
        exact ih _ _ (count_after_congr h change)
      · rw [List.filter_cons_of_neg (by simpa using hcode)]
        exact ih _ _ ((count_after_of_ne hcode masks).trans h)
  exact hstart masks rfl

/-- One change, which does not bring a count to the end of its word. -/
theorem Carries.after (h : Carries start held masks) (hsettle : change.settle? held = some later)
    (hrange : ∀ code, (start.count code).toNat + later.count code < 2 ^ 32) :
    Carries start later (masks.after change) := by
  intro code
  have hcount := h code
  have hroom := hrange code
  cases change with
  | acquire other =>
    obtain rfl : other :: held = later := Option.some.inj hsettle
    change ((masks.acquire other).count code).toNat = _
    by_cases hcode : code = other
    · subst hcode
      rw [List.count_cons_self] at hroom ⊢
      rw [count_acquire, if_pos rfl, UInt32.toNat_add, UInt32.toNat_one, hcount]
      omega
    · rw [count_acquire, if_neg hcode, List.count_cons_of_ne (Ne.symm hcode), hcount]
  | release other =>
    obtain ⟨hmem, hlater⟩ := Option.ite_none_right_eq_some.1 hsettle
    obtain rfl : held.erase other = later := Option.some.inj hlater
    change ((masks.release other).count code).toNat = _
    by_cases hcode : code = other
    · subst hcode
      have hpos : 1 ≤ held.count code := List.count_pos_iff.2 hmem
      rw [toNat_count_release, if_pos rfl, List.count_erase_self, hcount]
      omega
    · rw [toNat_count_release, if_neg hcode, List.count_erase_of_ne hcode, hcount]

theorem carries_foldl (hrange : InRange start changes) (h : holding changes = some held) :
    Carries start held (changes.foldl after start) := by
  induction changes using List.reverseRecOn generalizing held with
  | nil =>
    obtain rfl : [] = held := Option.some.inj h
    exact fun code => rfl
  | append_singleton changes change ih =>
    have hnow := hrange (changes ++ [change]) held List.prefix_rfl h
    rw [holding_concat] at h
    obtain ⟨before, hbefore, hsettle⟩ := Option.bind_eq_some_iff.1 h
    rw [List.foldl_concat]
    exact (ih (hrange.of_prefix (List.prefix_append _ _)) hbefore).after hsettle hnow

theorem Carries.isMasked_iff (h : Carries start held masks) (code : Code) :
    masks.isMasked code = true ↔ start.isMasked code = true ∨ code ∈ held := by
  have hzero (other : Masks) : other.isMasked code = true ↔ 0 < (other.count code).toNat := by
    rw [isMasked, bne_iff_ne, Ne, ← UInt32.toNat_inj, UInt32.toNat_zero]
    omega
  have hmem := List.count_pos_iff (a := code) (l := held)
  rw [hzero, hzero, h code, ← hmem]
  omega

theorem Carries.eq_start (h : Carries start [] masks) : masks = start := by
  have hcount : masks.count = start.count := funext fun code => UInt32.toNat.inj (h code)
  exact congrArg Masks.mk hcount

theorem length_of_holding (h : holding changes = some held) : held.length ≤ changes.length := by
  induction changes using List.reverseRecOn generalizing held with
  | nil =>
    obtain rfl : [] = held := Option.some.inj h
    exact Nat.le_refl 0
  | append_singleton changes change ih =>
    rw [holding_concat] at h
    obtain ⟨before, hbefore, hsettle⟩ := Option.bind_eq_some_iff.1 h
    have hle := ih hbefore
    rw [List.length_append, List.length_singleton]
    cases change with
    | acquire code =>
      obtain rfl : code :: before = held := Option.some.inj hsettle
      exact Nat.succ_le_succ hle
    | release code =>
      obtain ⟨-, hlater⟩ := Option.ite_none_right_eq_some.1 hsettle
      obtain rfl : before.erase code = held := Option.some.inj hlater
      exact Nat.le_succ_of_le (Nat.le_trans List.length_erase_le hle)

/-- Few changes do not bring small counts far. -/
theorem inRange_of_length (h : ∀ code, (start.count code).toNat + changes.length < 2 ^ 32) :
    InRange start changes := by
  intro earlier held hearlier hheld code
  have hcount : held.count code ≤ held.length := List.count_le_length
  have hheldLength := length_of_holding hheld
  have hlength := hearlier.length_le
  have hroom := h code
  omega

end Masks

/-! ### Commands -/

/-- What a command on the journal does to masks, in order. A guard that replaces another masks its own
code first. -/
def JournalCommand.maskChanges (log : GuardedJournal) : JournalCommand → List MaskChange
  | mask code => [.acquire code]
  | unmask code => [.release code]
  | guard slot code => .acquire code :: ((log.guards.get? slot).map .release).toList
  | dropGuard slot => ((log.guards.get? slot).map .release).toList
  | maskAll codes => codes.map .acquire
  | unmaskAll codes => codes.map .release
  | redirect _ | isMasked _ => []

theorem JournalCommand.masks_run (log : GuardedJournal) (command : JournalCommand) :
    (command.run log).2.journal.masks = (command.maskChanges log).foldl Masks.after log.journal.masks := by
  cases command with
  | redirect | mask | unmask | isMasked => rfl
  | guard slot code =>
    simp only [run, GuardedJournal.guard, maskChanges]
    cases log.guards.get? slot <;> rfl
  | dropGuard slot =>
    simp only [run, GuardedJournal.dropGuard, maskChanges]
    cases log.guards.get? slot <;> rfl
  | maskAll codes =>
    simp only [run, GuardedJournal.onJournal, Journal.maskAll, maskChanges, List.foldl_map]
    exact (List.foldl_hom Journal.masks fun _ _ => rfl).symm
  | unmaskAll codes =>
    simp only [run, GuardedJournal.onJournal, Journal.unmaskAll, maskChanges, List.foldl_map]
    exact (List.foldl_hom Journal.masks fun _ _ => rfl).symm

/-- What a command does to masks, in order. -/
def Command.maskChanges (log : GuardedJournal) : Command → List MaskChange
  | .desk _ => []
  | .journal command => command.maskChanges log

namespace Session

def masks (session : Session) : Masks :=
  session.log.journal.masks

/-- What commands do to masks, in order. -/
def maskChanges (session : Session) : List Command → List MaskChange
  | [] => []
  | command :: rest =>
    command.maskChanges session.log ++ (session.perform command).2.maskChanges rest

theorem maskChanges_cons (session : Session) (command : Command) (rest : List Command) :
    session.maskChanges (command :: rest) =
      command.maskChanges session.log ++ (session.perform command).2.maskChanges rest := rfl

theorem masks_perform (session : Session) (command : Command) :
    (session.perform command).2.masks =
      (command.maskChanges session.log).foldl Masks.after session.masks := by
  cases command with
  | desk command => rfl
  | journal command => exact command.masks_run session.log

theorem masks_performAll (session : Session) (commands : List Command) :
    (session.performAll commands).2.masks =
      (session.maskChanges commands).foldl Masks.after session.masks := by
  induction commands generalizing session with
  | nil => rfl
  | cons command rest ih =>
    rw [maskChanges_cons, List.foldl_append, ← masks_perform]
    exact ih (session.perform command).2

theorem maskChanges_prefix (session : Session) {before commands : List Command}
    (h : before <+: commands) : session.maskChanges before <+: session.maskChanges commands := by
  induction before generalizing session commands with
  | nil => exact List.nil_prefix
  | cons command rest ih =>
    obtain ⟨tail, rfl⟩ := h
    have hrest := ih (session.perform command).2 (List.prefix_append rest tail)
    exact (List.prefix_append_right_inj _).2 hrest

/-- Masks nest, and they balance in any order. Let every mask that commands give back be one that was
acquired before, be it one by one, by a guard or for a list of codes, and let no count come to the end
of its word. Then a code is masked at any time exactly if it was at the start or a mask of it is still
held, and when nothing is held any more all masks are as they were at the start.

In any case the count of a code is a matter of what is done to that code alone, and to release a code
that is not masked changes nothing. -/
theorem masks_balance (session : Session) :
    (∀ commands all, Masks.holding (session.maskChanges commands) = some all →
      session.masks.InRange (session.maskChanges commands) →
      ∀ before, before <+: commands →
        let later := (session.performAll before).2
        ∃ held, Masks.holding (session.maskChanges before) = some held ∧
          (∀ code, (later.perform (.journal (.isMasked code))).1 = .returned (.flag true) ↔
            session.masks.isMasked code = true ∨ code ∈ held) ∧
          (held = [] → later.masks = session.masks)) ∧
    (∀ commands code, (session.performAll commands).2.masks.count code =
      (((session.maskChanges commands).filter (·.code = code)).foldl Masks.after session.masks).count
        code) ∧
    (∀ code, session.masks.count code = 0 →
      session.perform (.journal (.unmask code)) = (.returned .nothing, session)) := by
  refine ⟨fun commands all hall hrange before hbefore => ?_, fun commands code => ?_,
    fun code hzero => ?_⟩
  · have hearlier := session.maskChanges_prefix hbefore
    obtain ⟨held, hheld⟩ := Masks.exists_holding_of_prefix hearlier hall
    have hcarries := Masks.carries_foldl (hrange.of_prefix hearlier) hheld
    rw [← masks_performAll] at hcarries
    refine ⟨held, hheld, fun code => ?_, ?_⟩
    · rw [← hcarries.isMasked_iff code]
      simp [perform, JournalCommand.run, masks]
    · rintro rfl
      exact hcarries.eq_start
  · rw [masks_performAll]
    exact Masks.count_foldl session.masks _ code
  · have hmasks : session.log.journal.unmask code = session.log.journal :=
      congrArg (fun masks => { session.log.journal with masks }) (Masks.release_of_zero hzero)
    simp only [perform, JournalCommand.run, GuardedJournal.onJournal, hmasks]

/-- Masks of all three kinds that overlap, on a list that names a code twice. They are given back in
another order than they were acquired in. -/
def overlapping : List Command := [
  .journal (.guard "g" .access),
  .journal (.mask .io),
  .journal (.maskAll [.io, .io, .notFound]),
  .journal (.unmask .io),
  .journal (.guard "g" .system),
  .desk (.fail (.io "lost")),
  .journal (.unmaskAll [.io, .io, .notFound]),
  .journal (.dropGuard "g")]

/-- A session in which one code is masked from the start. -/
def quieted : Session :=
  withMasks {} (Masks.none.acquire .memory)

theorem masks_balance_overlapping :
    Masks.holding (quieted.maskChanges overlapping) = some [] ∧
      quieted.masks.InRange (quieted.maskChanges overlapping) ∧
      let midway := (quieted.performAll (overlapping.take 6)).2
      Masks.holding (quieted.maskChanges (overlapping.take 6)) =
          some [.system, .notFound, .io, .io] ∧
        (midway.perform (.journal (.isMasked .io))).1 = .returned (.flag true) ∧
        (midway.perform (.journal (.isMasked .access))).1 ≠ .returned (.flag true) ∧
        (quieted.performAll overlapping).2.masks = quieted.masks := by
  have hall : Masks.holding (quieted.maskChanges overlapping) = some [] := by decide +kernel
  have hrange : quieted.masks.InRange (quieted.maskChanges overlapping) :=
    Masks.inRange_of_length fun code => by cases code <;> decide +kernel
  have hmidway : Masks.holding (quieted.maskChanges (overlapping.take 6)) =
      some [.system, .notFound, .io, .io] := by decide +kernel
  have hbalance := (masks_balance quieted).1 overlapping [] hall hrange
  obtain ⟨held, hheld, hmasked, -⟩ := hbalance (overlapping.take 6) (List.take_prefix 6 _)
  obtain rfl := Option.some.inj (hmidway.symm.trans hheld)
  obtain ⟨none, hnone, -, hback⟩ := hbalance overlapping List.prefix_rfl
  obtain rfl := Option.some.inj (hall.symm.trans hnone)
  exact ⟨hall, hrange, hmidway, (hmasked .io).2 (.inr (by decide)),
    fun h => absurd ((hmasked .access).1 h) (by decide +kernel), hback rfl⟩

end Session

end Hotplug
