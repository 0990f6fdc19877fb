import Hotplug.Proofs.Wait.Expiry
/-!
# Time that is left

What is left of a limit never grows as time goes on, and it does not matter how often one looks: a limit
that begins anew with what was left of it runs out when it would have run out anyway. On the clock of
milliseconds this is so up to the last reading, at which limits end that would go beyond it. No step of the
calculation leaves its word.

## Main definitions

* `Hotplug.finishOf`: when a limit runs out.
* `Hotplug.remainingInWords?`: what is left of a limit, by steps that fail where they leave their word.
* `Hotplug.restarted`: what is left of a limit that begins anew again and again.

## Main statements

* `Hotplug.toInt_remainingSince_of_le`: what is left, in numbers.
* `Hotplug.remainingInWords?_eq`: no step leaves its word.
* `Hotplug.remainingSince_remainingSince`: what is left of what was left.
* `Hotplug.Deadline.remaining_rounds_up`: what is left of a deadline, up to less than a millisecond.
* `Hotplug.remaining_composes`
-/

namespace Hotplug

variable {limit longer : Int32} {start now later : UInt64}

/-! ### On the clock of milliseconds -/

/-- When a limit runs out, on a clock that stays at its last reading. -/
def finishOf (limit : Int32) (start : UInt64) : Nat :=
  min (start.toNat + limit.toInt.toNat) lastReading

theorem remainingSince_of_neg (h : limit < 0) : remainingSince limit start now = -1 :=
  if_pos h

theorem remainingSince_of_nonneg (h : 0 ≤ limit) :
    remainingSince limit start now = .ofNat (min (finishOf limit start - now.toNat) longestLimit) := by
  rw [remainingSince, if_neg (Int32.not_lt.2 h)]
  change (if finishOf limit start ≤ now.toNat then (0 : Int32)
    else .ofNat (min (finishOf limit start - now.toNat) longestLimit)) = _
  split
  · next hpast =>
    rw [Nat.sub_eq_zero_of_le hpast, Nat.zero_min]
    rfl
  · rfl

theorem toInt_remainingSince (h : 0 ≤ limit) :
    (remainingSince limit start now).toInt =
      (min (finishOf limit start - now.toNat) longestLimit : Nat) := by
  rw [remainingSince_of_nonneg h]
  exact Int32.toInt_ofNat_of_lt (Nat.lt_of_le_of_lt (Nat.min_le_right ..) (by decide))

/-- Once a limit has begun to run, no more is left than the limit, so nothing is cut off. -/
theorem toInt_remainingSince_of_le (h : 0 ≤ limit) (hle : start ≤ now) :
    (remainingSince limit start now).toInt = (finishOf limit start - now.toNat : Nat) := by
  have hstart := UInt64.le_iff_toNat_le.1 hle
  have hlimit : limit.toInt.toNat ≤ longestLimit := by
    have := limit.toInt_lt
    simp only [longestLimit]
    omega
  rw [toInt_remainingSince h, Nat.min_eq_left]
  simp only [finishOf]
  omega

theorem remainingSince_nonneg (h : 0 ≤ limit) : 0 ≤ remainingSince limit start now := by
  rw [Int32.le_iff_toInt_le, toInt_remainingSince h]
  exact Int.natCast_nonneg _

theorem remainingSince_le (h : 0 ≤ limit) (hle : start ≤ now) :
    remainingSince limit start now ≤ limit := by
  have hstart := UInt64.le_iff_toNat_le.1 hle
  have hlimit : 0 ≤ limit.toInt := Int32.le_iff_toInt_le.1 h
  rw [Int32.le_iff_toInt_le, toInt_remainingSince_of_le h hle]
  simp only [finishOf]
  omega

theorem remainingSince_antitone (hle : now ≤ later) :
    remainingSince limit start later ≤ remainingSince limit start now := by
  by_cases h : limit < 0
  · rw [remainingSince_of_neg h, remainingSince_of_neg h]
    exact Int32.le_refl _
  · have hnow := UInt64.le_iff_toNat_le.1 hle
    rw [Int32.le_iff_toInt_le, toInt_remainingSince (Int32.not_lt.1 h),
      toInt_remainingSince (Int32.not_lt.1 h)]
    omega

theorem remainingSince_mono (hle : limit ≤ longer) :
    remainingSince limit start now ≤ remainingSince longer start now := by
  by_cases h : limit < 0
  · rw [remainingSince_of_neg h]
    by_cases hlonger : longer < 0
    · rw [remainingSince_of_neg hlonger]
      exact Int32.le_refl _
    · exact Int32.le_trans (by decide) (remainingSince_nonneg (Int32.not_lt.1 hlonger))
  · have hlimit := Int32.not_lt.1 h
    have hfinish : finishOf limit start ≤ finishOf longer start := by
      have hspan := Int32.le_iff_toInt_le.1 hle
      simp only [finishOf]
      omega
    rw [Int32.le_iff_toInt_le, toInt_remainingSince hlimit,
      toInt_remainingSince (Int32.le_trans hlimit hle)]
    omega

/-- What was left runs out when the whole limit does, unless that was over before. -/
theorem finishOf_remainingSince (h : 0 ≤ limit) (hle : start ≤ now) :
    finishOf (remainingSince limit start now) now = max (finishOf limit start) now.toNat := by
  -- The clock stops at its last reading, so the new end is cut off where the old one is.
  have hnow := now.toNat_lt
  rw [finishOf, toInt_remainingSince_of_le h hle]
  simp only [finishOf, lastReading]
  omega

/-- What is left of what was left is what is left. -/
theorem remainingSince_remainingSince (hstart : start ≤ now) (hlater : now ≤ later) :
    remainingSince (remainingSince limit start now) now later = remainingSince limit start later := by
  by_cases h : limit < 0
  · rw [remainingSince_of_neg h, remainingSince_of_neg h]
    rfl
  · have hlimit := Int32.not_lt.1 h
    have hnow := UInt64.le_iff_toNat_le.1 hlater
    rw [← Int32.toInt_inj, toInt_remainingSince_of_le (remainingSince_nonneg hlimit) hlater,
      toInt_remainingSince_of_le hlimit (UInt64.le_trans hstart hlater),
      finishOf_remainingSince hlimit hstart]
    omega

/-- What is left of a limit that begins anew at each reading, every time with what was left of it. -/
def restarted (limit : Int32) (start : UInt64) : List UInt64 → Int32
  | [] => limit
  | now :: rest => restarted (remainingSince limit start now) now rest

theorem restarted_concat {restarts : List UInt64}
    (h : (start :: (restarts ++ [now])).Pairwise (· ≤ ·)) :
    restarted limit start (restarts ++ [now]) = remainingSince limit start now := by
  induction restarts generalizing limit start with
  | nil => rfl
  | cons first rest ih =>
    obtain ⟨hstart, hrest⟩ := List.pairwise_cons.1 h
    have hfirst : start ≤ first := hstart first List.mem_cons_self
    have hnow : first ≤ now := (List.pairwise_cons.1 hrest).1 now (by simp)
    rw [List.cons_append, restarted, ih hrest, remainingSince_remainingSince hfirst hnow]

/-! ### Word by word -/

/-- A number as a word of 64 bits, if it is one. -/
def word? (number : Int) : Option UInt64 :=
  if 0 ≤ number ∧ number ≤ lastReading then some (.ofNat number.toNat) else none

/-- A number as a limit, if it is one. -/
def limit? (number : Int) : Option Int32 :=
  if -longestLimit - 1 ≤ number ∧ number ≤ longestLimit then some (.ofInt number) else none

/-- The sum of two words, or the last word if there is no such word. -/
def sumOrLast (first second : UInt64) : UInt64 :=
  (word? (first.toNat + second.toNat)).getD (.ofNat lastReading)

/-- What is left of a limit, word by word. Where a step leaves its word there is no result. -/
def remainingInWords? (limit : Int32) (start now : UInt64) : Option Int32 :=
  if limit < 0 then some (-1)
  else do
    let span ← word? limit.toInt
    let finish := sumOrLast start span
    if finish ≤ now then return 0
    let left ← word? (finish.toNat - now.toNat)
    return (limit? left.toNat).getD (.ofNat longestLimit)

theorem word?_natCast {number : Nat} (h : number ≤ lastReading) :
    word? number = some (.ofNat number) :=
  if_pos ⟨Int.natCast_nonneg _, Int.ofNat_le.2 h⟩

theorem toNat_ofNat_word {number : Nat} (h : number ≤ lastReading) :
    (UInt64.ofNat number).toNat = number :=
  UInt64.toNat_ofNat_of_lt' (Nat.lt_succ_of_le h)

theorem toNat_sumOrLast (first second : UInt64) :
    (sumOrLast first second).toNat = min (first.toNat + second.toNat) lastReading := by
  by_cases h : first.toNat + second.toNat ≤ lastReading
  · rw [sumOrLast, ← Int.natCast_add, word?_natCast h, Option.getD_some, toNat_ofNat_word h,
      Nat.min_eq_left h]
  · have hnone : word? (first.toNat + second.toNat) = none := if_neg (by omega)
    rw [sumOrLast, hnone, Nat.min_eq_right (Nat.le_of_not_le h)]
    rfl

theorem limit?_natCast (number : Nat) :
    (limit? number).getD (.ofNat longestLimit) = Int32.ofNat (min number longestLimit) := by
  by_cases h : number ≤ longestLimit
  · have hsome : limit? number = some (.ofInt number) := if_pos (by omega)
    rw [hsome, Nat.min_eq_left h]
    rfl
  · have hnone : limit? number = none := if_neg (by omega)
    rw [hnone, Nat.min_eq_right (Nat.le_of_not_le h)]
    rfl

/-- No step of the calculation leaves its word. -/
theorem remainingInWords?_eq :
    remainingInWords? limit start now = some (remainingSince limit start now) := by
  by_cases h : limit < 0
  · rw [remainingInWords?, if_pos h, remainingSince_of_neg h]
  · have hlimit : 0 ≤ limit.toInt := Int32.le_iff_toInt_le.1 (Int32.not_lt.1 h)
    have hspan : limit.toInt.toNat ≤ lastReading := by
      have := limit.toInt_lt
      simp only [lastReading]
      omega
    have hword : word? limit.toInt = some (.ofNat limit.toInt.toNat) := by
      rw [← word?_natCast hspan, Int.toNat_of_nonneg hlimit]
    have hfinish : (sumOrLast start (.ofNat limit.toInt.toNat)).toNat = finishOf limit start := by
      rw [toNat_sumOrLast, toNat_ofNat_word hspan, finishOf]
    rw [remainingInWords?, if_neg h, hword, remainingSince_of_nonneg (Int32.not_lt.1 h)]
    simp only [Option.bind_eq_bind, Option.bind_some, UInt64.le_iff_toNat_le, hfinish]
    split
    · next hpast =>
      rw [Nat.sub_eq_zero_of_le hpast, Nat.zero_min]
      rfl
    · next hpast =>
      have hleft : finishOf limit start - now.toNat ≤ lastReading :=
        Nat.le_trans (Nat.sub_le ..) (Nat.min_le_right ..)
      rw [← Int.ofNat_sub (Nat.le_of_not_le hpast), word?_natCast hleft, Option.bind_some,
        toNat_ofNat_word hleft, limit?_natCast]
      rfl

/-! ### On the clock of nanoseconds -/

namespace Deadline

theorem remaining_antitone {deadline : Deadline} {now later : Nat} (hle : now ≤ later) :
    deadline.remaining later ≤ deadline.remaining now := by
  obtain ⟨_ | moment⟩ := deadline
  · exact Int.le_refl _
  · simp only [remaining, perMilli]
    omega

theorem remaining_nonneg {limit : Int} (h : 0 ≤ limit) (start now : Nat) :
    0 ≤ (ofLimit limit start).remaining now := by
  rw [ofLimit, if_neg (Int.not_lt.2 h), remaining]
  exact Int.natCast_nonneg _

theorem remaining_le {limit : Int} {start now : Nat} (h : 0 ≤ limit) (hle : start ≤ now) :
    (ofLimit limit start).remaining now ≤ limit := by
  rw [ofLimit, if_neg (Int.not_lt.2 h)]
  simp only [remaining, perMilli]
  omega

/-- The milliseconds that are left cover the nanoseconds that are left, by less than one to spare. -/
theorem remaining_rounds_up {limit : Int} {start now : Nat} (h : 0 ≤ limit) (hmost : limit ≤ longestLimit)
    (hle : start ≤ now) :
    let left := start + limit.toNat * perMilli - now
    left ≤ ((ofLimit limit start).remaining now).toNat * perMilli ∧
      ((ofLimit limit start).remaining now).toNat * perMilli < left + perMilli := by
  rw [ofLimit, if_neg (Int.not_lt.2 h)]
  simp only [remaining, perMilli]
  omega

end Deadline

/-! ### Both clocks -/

/-- How the time that is left of a limit behaves, on a clock of milliseconds that reads `start` when the
limit begins to run, then `now`, then `later`.

* No step of the calculation leaves its word.
* Of a negative limit, -1 is left.
* Of any other limit, what is left is what lies between the reading and the moment at which the limit runs
  out, or at which the clock stops. It is no more than the limit.
* What is left does not grow with time and does not shrink with the limit.
* What is left of what was left is what is left. This goes for any number of restarts.

A deadline on a clock of nanoseconds has between nothing and the limit left, and never more than before.
This is rounded up to whole milliseconds, so it is nothing exactly when the deadline has come.
-/
theorem remaining_composes (limit : Int32) (start now later : UInt64) (hstart : start ≤ now)
    (hlater : now ≤ later) :
    remainingInWords? limit start now = some (remainingSince limit start now) ∧
    (limit < 0 → remainingSince limit start now = -1) ∧
    (0 ≤ limit → 0 ≤ remainingSince limit start now ∧ remainingSince limit start now ≤ limit ∧
      (remainingSince limit start now).toInt = (finishOf limit start - now.toNat : Nat)) ∧
    remainingSince limit start later ≤ remainingSince limit start now ∧
    (∀ longer, limit ≤ longer → remainingSince limit start now ≤ remainingSince longer start now) ∧
    remainingSince (remainingSince limit start now) now later = remainingSince limit start later ∧
    (∀ restarts, (start :: (restarts ++ [now])).Pairwise (· ≤ ·) →
      restarted limit start (restarts ++ [now]) = remainingSince limit start now) ∧
    ∀ begun moment after : Nat, 0 ≤ limit → begun ≤ moment → moment ≤ after →
      let deadline := Deadline.ofLimit limit.toInt begun
      let left := begun + limit.toInt.toNat * Deadline.perMilli - moment
      0 ≤ deadline.remaining moment ∧ deadline.remaining moment ≤ limit.toInt ∧
        deadline.remaining after ≤ deadline.remaining moment ∧
        (deadline.remaining moment = 0 ↔ deadline.isPast moment = true) ∧
        left ≤ (deadline.remaining moment).toNat * Deadline.perMilli ∧
        (deadline.remaining moment).toNat * Deadline.perMilli < left + Deadline.perMilli := by
  refine ⟨remainingInWords?_eq, remainingSince_of_neg, fun h => ?_, remainingSince_antitone hlater,
    fun longer => remainingSince_mono, remainingSince_remainingSince hstart hlater,
    fun restarts => restarted_concat, fun begun moment after h hbegun hafter => ?_⟩
  · exact ⟨remainingSince_nonneg h, remainingSince_le h hstart, toInt_remainingSince_of_le h hstart⟩
  · have hlimit : 0 ≤ limit.toInt := Int32.le_iff_toInt_le.1 h
    have hmost : limit.toInt ≤ longestLimit := Int.le_of_lt_add_one limit.toInt_lt
    exact ⟨Deadline.remaining_nonneg hlimit _ _, Deadline.remaining_le hlimit hbegun,
      Deadline.remaining_antitone hafter, Deadline.remaining_eq_zero_iff,
      Deadline.remaining_rounds_up hlimit hmost hbegun⟩

/-- The longest limit begins to run in the last second of the clock, and begins anew on the way. A deadline
of the same limit is a nanosecond old. -/
theorem remaining_composes_last_second :
    let limit : Int32 := 2147483647
    let start : UInt64 := 18446744073709550616
    let now : UInt64 := 18446744073709551216
    let later : UInt64 := 18446744073709551614
    start ≤ now ∧ now ≤ later ∧ remainingInWords? limit start now = some 399 ∧
      remainingSince 399 now later = 1 ∧ remainingSince limit start later ≤ 399 ∧
      restarted limit start [start, 18446744073709551000, now] = 399 ∧
      ((Deadline.ofLimit limit.toInt 7).remaining 8 = limit.toInt ∧
        ((Deadline.ofLimit limit.toInt 7).remaining 8 = 0 ↔
          (Deadline.ofLimit limit.toInt 7).isPast 8 = true)) := by
  intro limit start now later
  have hstart : start ≤ now := by decide
  have hlater : now ≤ later := by decide
  have hnow : remainingSince limit start now = 399 := by decide
  have hafter : remainingSince limit start later = 1 := by decide
  obtain ⟨hwords, -, -, hfalls, -, hagain, hrestarts, hdeadline⟩ :=
    remaining_composes limit start now later hstart hlater
  rw [hnow] at hwords hfalls hagain hrestarts
  obtain ⟨-, -, -, hpast, -, -⟩ := hdeadline 7 8 8 (by decide) (by decide) (by decide)
  exact ⟨hstart, hlater, hwords, hagain.trans hafter, hfalls,
    hrestarts [start, 18446744073709551000] (by decide), by decide, hpast⟩

end Hotplug
