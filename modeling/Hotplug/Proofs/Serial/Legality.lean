import Mathlib.Data.List.Nodup
import Hotplug.Proofs.Serial.Configuring
/-!
# Legal line codings

Which rates and words of flags are accepted, said of the bits of the word. Nine places have a meaning.
Of the three places for the size of a character at most one may be set, and of the two for parity and
the two for flow control as well. What is accepted can be read back from the coding, so different
requests come to different codings.

## Main definitions

* `Hotplug.Serial.Flag.place`: the place of the bit that stands for a choice.
* `Hotplug.Serial.AtMostOne`: no two of some bits are set.
* `Hotplug.Serial.Legal`: the rates and flags that can be asked for.
* `Hotplug.Serial.Settings.asks`: whether a choice was made to come to a coding.

## Main statements

* `Hotplug.Serial.Flags.has_eq_bit`, `Hotplug.Serial.Flags.eq_of_has`: a choice is a bit, and the
  choices are the word.
* `Hotplug.Serial.Flags.allowed_iff`, `Hotplug.Serial.legal_iff`
* `Hotplug.Serial.Settings.asks_choose`: the flags are read back from the coding.
* `Hotplug.Serial.Settings.ofFlags_separates_legal`
-/

namespace Hotplug.Serial

/-- The place of the bit that stands for a choice. -/
def Flag.place : Flag → Nat
  | bits7 => 0
  | bits6 => 1
  | bits5 => 2
  | odd => 3
  | even => 4
  | stop2 => 5
  | xonXoff => 6
  | rtsCts => 7
  | noHangup => 8

/-- No two of the bits at some places are set. -/
def AtMostOne (word : UInt32) (places : List Nat) : Prop :=
  ∀ a ∈ places, ∀ b ∈ places, bit word a = true → bit word b = true → a = b

/-- A rate and a word of flags that can be asked for: the rate is one of those supported, no bit behind
the ninth is set, and none of the three groups is asked for two choices. -/
structure Legal (bps : UInt32) (flags : Flags) : Prop where
  rate : bps ∈ Rate.all.map Rate.bps
  known : ∀ place, bit flags.bits place = true → place < 9
  size : AtMostOne flags.bits [0, 1, 2]
  parity : AtMostOne flags.bits [3, 4]
  flowControl : AtMostOne flags.bits [6, 7]

variable {bps : UInt32} {flags other : Flags} {word : UInt32} {places : List Nat}

/-! ### Places -/

theorem bit_of_le {place : Nat} (h : 32 ≤ place) (word : UInt32) : bit word place = false :=
  BitVec.getLsbD_of_ge _ _ h

theorem AtMostOne.mono {more : UInt32} (h : AtMostOne more places)
    (hsub : ∀ place, bit word place = true → bit more place = true) : AtMostOne word places :=
  fun a ha b hb hbit hbit' => h a ha b hb (hsub a hbit) (hsub b hbit')

theorem Flag.bit_bit (flag : Flag) (place : Nat) :
    Serial.bit flag.bit place = decide (place = flag.place) := by
  by_cases hplace : place < 32
  · have hall : ∀ place < 32, Serial.bit flag.bit place = decide (place = flag.place) := by
      cases flag <;> decide
    exact hall place hplace
  · have hlt : flag.place < 32 := by cases flag <;> decide
    rw [bit_of_le (Nat.not_lt.1 hplace), eq_comm, decide_eq_false_iff_not]
    omega

theorem bit_known (place : Nat) : bit Flags.known place = decide (place < 9) := by
  by_cases hplace : place < 32
  · have hall : ∀ place < 32, bit Flags.known place = decide (place < 9) := by decide
    exact hall place hplace
  · rw [bit_of_le (Nat.not_lt.1 hplace), eq_comm, decide_eq_false_iff_not]
    omega

namespace Flags

/-- A choice is made if its bit is set. -/
theorem has_eq_bit (flags : Flags) (flag : Flag) : flags.has flag = bit flags.bits flag.place := by
  rw [has, Bool.eq_iff_iff, beq_iff_eq]
  constructor
  · intro h
    have hbit : bit flag.bit flag.place = true := by simp [Flag.bit_bit]
    exact (show Within flag.bit flags.bits from (UInt32.and_comm _ _).trans h).bit hbit
  · intro h
    refine eq_of_bit fun place _ => ?_
    rw [bit_and, Flag.bit_bit]
    by_cases hplace : place = flag.place <;> simp [hplace, h]

theorem unknown_eq_zero_iff : flags.unknown = 0 ↔ ∀ place, bit flags.bits place = true → place < 9 := by
  have hbit (place : Nat) (hplace : place < 32) :
      bit flags.unknown place = (bit flags.bits place && !decide (place < 9)) := by
    simp [unknown, bit_known, hplace]
  constructor
  · intro h place hset
    by_cases hplace : place < 32
    · have hzero := hbit place hplace
      rw [h, bit_zero, hset] at hzero
      simpa using hzero
    · rw [bit_of_le (Nat.not_lt.1 hplace)] at hset
      cases hset
  · intro h
    refine eq_of_bit fun place hplace => ?_
    rw [hbit place hplace, bit_zero]
    cases hset : bit flags.bits place with
    | false => rfl
    | true => simp [h place hset]

/-- Two words without meaningless bits are the same if they make the same choices. -/
theorem eq_of_has (h : flags.unknown = 0) (hother : other.unknown = 0)
    (hhas : ∀ flag, flags.has flag = other.has flag) : flags = other := by
  rw [unknown_eq_zero_iff] at h hother
  have hnine : ∀ place < 9, ∃ flag : Flag, flag.place = place := by
    intro place hplace
    match place with
    | 0 => exact ⟨.bits7, rfl⟩
    | 1 => exact ⟨.bits6, rfl⟩
    | 2 => exact ⟨.bits5, rfl⟩
    | 3 => exact ⟨.odd, rfl⟩
    | 4 => exact ⟨.even, rfl⟩
    | 5 => exact ⟨.stop2, rfl⟩
    | 6 => exact ⟨.xonXoff, rfl⟩
    | 7 => exact ⟨.rtsCts, rfl⟩
    | 8 => exact ⟨.noHangup, rfl⟩
  have hbits : flags.bits = other.bits := by
    refine eq_of_bit fun place _ => ?_
    by_cases hplace : place < 9
    · obtain ⟨flag, rfl⟩ := hnine place hplace
      rw [← has_eq_bit, ← has_eq_bit, hhas]
    · have hunset (word : Flags) (hknown : ∀ place, bit word.bits place = true → place < 9) :
          bit word.bits place = false :=
        Bool.eq_false_iff.2 fun hset => hplace (hknown place hset)
      rw [hunset flags h, hunset other hother]
  exact congrArg Flags.mk hbits

/-- Of the flags of a group, one choice is made at most. -/
theorem length_chosen_le_one_iff {group : Group} :
    (flags.chosen group).length ≤ 1 ↔
      ∀ a ∈ group.flags, ∀ b ∈ group.flags, flags.has a = true → flags.has b = true → a = b := by
  have hnodup : (flags.chosen group).Nodup := List.Nodup.filter _ (by cases group <;> decide)
  have hmem (flag : Flag) : flag ∈ flags.chosen group ↔ flag ∈ group.flags ∧ flags.has flag = true :=
    List.mem_filter
  constructor
  · intro h a ha b hb hhas hhas'
    have hfirst := (hmem a).2 ⟨ha, hhas⟩
    have hsecond := (hmem b).2 ⟨hb, hhas'⟩
    match hchosen : flags.chosen group with
    | [] => simp [hchosen] at hfirst
    | [only] =>
      rw [hchosen, List.mem_singleton] at hfirst hsecond
      exact hfirst.trans hsecond.symm
    | first :: second :: rest => simp [hchosen] at h
  · intro h
    match hchosen : flags.chosen group with
    | [] | [_] => simp
    | first :: second :: rest =>
      obtain ⟨hfirst, hhas⟩ := (hmem first).1 (by simp [hchosen])
      obtain ⟨hsecond, hhas'⟩ := (hmem second).1 (by simp [hchosen])
      rw [hchosen, h first hfirst second hsecond hhas hhas'] at hnodup
      simp at hnodup

theorem atMostOne_iff (group : Group) :
    AtMostOne flags.bits (group.flags.map Flag.place) ↔ (flags.chosen group).length ≤ 1 := by
  have hinj : ∀ a b : Flag, a.place = b.place ↔ a = b := by
    intro a b
    cases a <;> cases b <;> decide
  simp only [length_chosen_le_one_iff, AtMostOne, List.forall_mem_map, ← has_eq_bit, hinj]

theorem allowed_iff : flags.Allowed ↔
    (∀ place, bit flags.bits place = true → place < 9) ∧ AtMostOne flags.bits [0, 1, 2] ∧
      AtMostOne flags.bits [3, 4] ∧ AtMostOne flags.bits [6, 7] := by
  have hsize : AtMostOne flags.bits [0, 1, 2] ↔ (flags.chosen .characterSize).length ≤ 1 :=
    atMostOne_iff .characterSize
  have hparity : AtMostOne flags.bits [3, 4] ↔ (flags.chosen .parity).length ≤ 1 :=
    atMostOne_iff .parity
  have hflow : AtMostOne flags.bits [6, 7] ↔ (flags.chosen .flowControl).length ≤ 1 :=
    atMostOne_iff .flowControl
  rw [hsize, hparity, hflow, ← unknown_eq_zero_iff]
  constructor
  · exact fun h => ⟨h.known, h.single _ (by decide), h.single _ (by decide), h.single _ (by decide)⟩
  · rintro ⟨hknown, hsize, hparity, hflow⟩
    exact ⟨hknown, by simpa [Group.contested] using ⟨hsize, hparity, hflow⟩⟩

/-- What can be asked for can be asked for with fewer flags. -/
theorem Allowed.mono (h : other.Allowed)
    (hsub : ∀ place, bit flags.bits place = true → bit other.bits place = true) : flags.Allowed := by
  rw [allowed_iff] at h ⊢
  obtain ⟨hknown, hsize, hparity, hflow⟩ := h
  exact ⟨fun place hset => hknown place (hsub place hset), hsize.mono hsub, hparity.mono hsub,
    hflow.mono hsub⟩

end Flags

/-! ### Rates -/

theorem Rate.ofBps?_eq_some_iff {rate : Rate} : ofBps? bps = some rate ↔ rate.bps = bps := by
  constructor
  · intro h
    simpa using List.find?_some h
  · rintro rfl
    exact ofBps?_bps rate

theorem Rate.exists_ofBps?_iff : (∃ rate, ofBps? bps = some rate) ↔ bps ∈ all.map Rate.bps := by
  simp only [ofBps?_eq_some_iff, List.mem_map, mem_all, true_and]

theorem legal_iff : Legal bps flags ↔ (∃ rate, Rate.ofBps? bps = some rate) ∧ flags.Allowed := by
  rw [Rate.exists_ofBps?_iff, Flags.allowed_iff]
  exact ⟨fun h => ⟨h.rate, h.known, h.size, h.parity, h.flowControl⟩,
    fun ⟨hrate, hknown, hsize, hparity, hflow⟩ => ⟨hrate, hknown, hsize, hparity, hflow⟩⟩

namespace Settings

variable {settings : Settings}

theorem exists_ofFlags_iff : (∃ settings, ofFlags bps flags = .ok settings) ↔ Legal bps flags := by
  rw [legal_iff]
  constructor
  · rintro ⟨settings, h⟩
    obtain ⟨rate, hrate, hallowed, -⟩ := ofFlags_eq_ok_iff.1 h
    exact ⟨⟨rate, hrate⟩, hallowed⟩
  · rintro ⟨⟨rate, hrate⟩, hallowed⟩
    exact ⟨_, ofFlags_eq_ok_iff.2 ⟨rate, hrate, hallowed, rfl⟩⟩

/-- Whether a choice was made to come to the coding. -/
def asks (settings : Settings) : Flag → Bool
  | .bits7 => settings.dataBits == 7
  | .bits6 => settings.dataBits == 6
  | .bits5 => settings.dataBits == 5
  | .odd => settings.parity == .odd
  | .even => settings.parity == .even
  | .stop2 => settings.stopBits == 2
  | .xonXoff => settings.flowControl == .xonXoff
  | .rtsCts => settings.flowControl == .rtsCts
  | .noHangup => !settings.hangupOnClose

/-- The flags are read back from the coding that they choose. -/
theorem asks_choose (h : flags.Allowed) (rate : Rate) (flag : Flag) :
    (choose rate flags).asks flag = flags.has flag := by
  have hsingle (group : Group) (hgroup : group ∈ Group.contested) :=
    Flags.length_chosen_le_one_iff.1 (h.single group hgroup)
  have hsize := hsingle .characterSize (by decide)
  have hparity := hsingle .parity (by decide)
  have hflow := hsingle .flowControl (by decide)
  simp only [Group.flags, List.forall_mem_cons, reduceCtorEq, imp_false] at hsize hparity hflow
  cases flag <;> simp only [asks, choose]
  all_goals grind

/-- What is asked for and accepted can be read back. -/
theorem reads_back (h : ofFlags bps flags = .ok settings) :
    settings.rate.bps = bps ∧ ∀ flag, settings.asks flag = flags.has flag := by
  obtain ⟨rate, hrate, hallowed, rfl⟩ := ofFlags_eq_ok_iff.1 h
  exact ⟨Rate.ofBps?_eq_some_iff.1 hrate, asks_choose hallowed rate⟩

theorem ofFlags_injective {bps' : UInt32} (h : ofFlags bps flags = .ok settings)
    (h' : ofFlags bps' other = .ok settings) : bps = bps' ∧ flags = other := by
  obtain ⟨hrate, hasks⟩ := reads_back h
  obtain ⟨hrate', hasks'⟩ := reads_back h'
  obtain ⟨-, -, hallowed, -⟩ := ofFlags_eq_ok_iff.1 h
  obtain ⟨-, -, hallowed', -⟩ := ofFlags_eq_ok_iff.1 h'
  exact ⟨hrate.symm.trans hrate', Flags.eq_of_has hallowed.known hallowed'.known fun flag =>
    (hasks flag).symm.trans (hasks' flag)⟩

/-- A rate and a word of flags are accepted exactly if they are legal, and are refused as invalid
otherwise. A coding that is chosen has a size and stop bits that a line can have, and from it rate and
flags can be read back, so no two requests that are accepted come to one coding. Fewer flags than those
of a valid word are valid, so no further flags make a request acceptable that is refused. -/
theorem ofFlags_separates_legal :
    (∀ bps flags, (∃ settings, ofFlags bps flags = .ok settings) ↔ Legal bps flags) ∧
    (∀ bps flags, ¬ Legal bps flags → ∃ refusal, ofFlags bps flags = .error refusal ∧
      refusal.failure.code = .invalid) ∧
    (∀ bps flags settings, ofFlags bps flags = .ok settings →
      settings.dataBits ∈ [5, 6, 7, 8] ∧ settings.stopBits ∈ [1, 2] ∧ settings.rate.bps = bps ∧
        ∀ flag, settings.asks flag = bit flags.bits flag.place) ∧
    (∀ bps flags bps' flags' settings, ofFlags bps flags = .ok settings →
      ofFlags bps' flags' = .ok settings → bps = bps' ∧ flags = flags') ∧
    (∀ flags other : Flags, other.includes flags = true → other.check = .ok () →
      flags.check = .ok ()) ∧
    (∀ bps flags more refusal, ofFlags bps flags = .error refusal →
      ∃ refusal, ofFlags bps (flags ||| more) = .error refusal) := by
  refine ⟨fun bps flags => exists_ofFlags_iff, fun bps flags hillegal => ?_,
    fun bps flags settings h => ?_, fun bps flags bps' flags' settings => ofFlags_injective,
    fun flags other hincludes hcheck => ?_, fun bps flags more refusal hrefused => ?_⟩
  · cases hresult : ofFlags bps flags with
    | ok settings => exact absurd (exists_ofFlags_iff.1 ⟨settings, hresult⟩) hillegal
    | error refusal => exact ⟨refusal, rfl, rfl⟩
  · have hpossible := possible_of_ofFlags h
    obtain ⟨hrate, hasks⟩ := reads_back h
    exact ⟨hpossible.dataBits, hpossible.stopBits, hrate, fun flag =>
      (hasks flag).trans (flags.has_eq_bit flag)⟩
  · have hwithin : Within flags.bits other.bits :=
      (UInt32.and_comm _ _).trans (beq_iff_eq.1 hincludes)
    rw [Flags.check_eq_ok_iff] at hcheck ⊢
    exact hcheck.mono fun place => hwithin.bit
  · cases hresult : ofFlags bps (flags ||| more) with
    | error refusal => exact ⟨refusal, rfl⟩
    | ok settings =>
      -- The word with more flags is legal, so the word itself is.
      obtain ⟨hrate, hallowed⟩ := legal_iff.1 (exists_ofFlags_iff.1 ⟨settings, hresult⟩)
      have hsub (place : Nat) (hset : bit flags.bits place = true) :
          bit (flags ||| more).bits place = true := by
        change bit (flags.bits ||| more.bits) place = true
        rw [bit_or, hset, Bool.true_or]
      obtain ⟨accepted, haccepted⟩ := exists_ofFlags_iff.2 (legal_iff.2 ⟨hrate, hallowed.mono hsub⟩)
      rw [hrefused] at haccepted
      cases haccepted

/-- Seven data bits, even parity, two stop bits and no hangup are accepted. With odd parity besides they
are refused, and hardware flow control does not help. -/
theorem ofFlags_separates_legal_parity :
    Legal 9600 ⟨0x131⟩ ∧ (∃ settings, ofFlags 9600 ⟨0x131⟩ = .ok settings) ∧
      ¬ Legal 9600 ⟨0x139⟩ ∧
      ∃ refusal, ofFlags 9600 (⟨0x139⟩ ||| ⟨0x80⟩) = .error refusal := by
  obtain ⟨haccepted, hrefused, -, -, -, hmore⟩ := ofFlags_separates_legal
  have hlegal : Legal 9600 ⟨0x131⟩ := (haccepted 9600 ⟨0x131⟩).1 ⟨_, rfl⟩
  have hillegal : ¬ Legal 9600 ⟨0x139⟩ := fun h =>
    absurd (h.parity 3 (by decide) 4 (by decide) (by decide) (by decide)) (by decide)
  obtain ⟨refusal, hrefusal, -⟩ := hrefused 9600 ⟨0x139⟩ hillegal
  exact ⟨hlegal, ⟨_, rfl⟩, hillegal, hmore 9600 ⟨0x139⟩ ⟨0x80⟩ refusal hrefusal⟩

end Settings

end Hotplug.Serial
