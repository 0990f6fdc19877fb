import Hotplug.Serial.Line
/-!
# Line codings that flags choose

A rate and a word of flags are accepted if the rate is one of those supported, no bit of the word is
without a meaning, and no group is asked for two choices. What is chosen then is a coding that a line
can have.

## Main definitions

* `Hotplug.Serial.Flags.Allowed`: the words of flags that can be asked for.
* `Hotplug.Serial.Settings.Possible`: the codings that a line can have.

## Main statements

* `Hotplug.Serial.Settings.ofFlags_eq_ok_iff`: which rates and flags are accepted, and for what.
* `Hotplug.Serial.Settings.possible_of_ofFlags`
-/

namespace Hotplug.Serial

namespace Flags

/-- Every bit of the word has a meaning, and there is at most one choice in each group. -/
structure Allowed (flags : Flags) : Prop where
  known : flags.unknown = 0
  single : ∀ group ∈ Group.contested, (flags.chosen group).length ≤ 1

theorem check_eq_ok_iff {flags : Flags} : flags.check = .ok () ↔ flags.Allowed := by
  unfold check
  by_cases hunknown : flags.unknown = 0
  · rw [if_neg (not_not_intro hunknown)]
    cases hfound : Group.contested.find? fun group => 1 < (flags.chosen group).length with
    | some group =>
      have htwo : 1 < (flags.chosen group).length := by simpa using List.find?_some hfound
      exact ⟨nofun, fun h =>
        absurd htwo (Nat.not_lt.2 (h.single group (List.mem_of_find?_eq_some hfound)))⟩
    | none =>
      have hsingle := List.find?_eq_none.1 hfound
      exact ⟨fun _ => ⟨hunknown, fun group hmem => by simpa using hsingle group hmem⟩, fun _ => rfl⟩
  · rw [if_pos hunknown]
    exact ⟨nofun, fun h => absurd h.known hunknown⟩

end Flags

namespace Settings

variable {bps : UInt32} {flags : Flags} {settings : Settings}

theorem ofFlags_eq_ok_iff :
    ofFlags bps flags = .ok settings ↔
      ∃ rate, Rate.ofBps? bps = some rate ∧ flags.Allowed ∧ choose rate flags = settings := by
  unfold ofFlags
  cases Rate.ofBps? bps with
  | none => simp
  | some rate =>
    rw [← Flags.check_eq_ok_iff]
    cases hcheck : flags.check <;> simp [Except.map]

/-- Codings that a line can have. -/
structure Possible (settings : Settings) : Prop where
  dataBits : settings.dataBits ∈ [5, 6, 7, 8]
  stopBits : settings.stopBits ∈ [1, 2]

theorem possible_choose (rate : Rate) (flags : Flags) : (choose rate flags).Possible where
  dataBits := by
    dsimp only [choose]
    split
    · decide
    split
    · decide
    split <;> decide
  stopBits := by
    dsimp only [choose]
    split <;> decide

theorem possible_of_ofFlags (h : ofFlags bps flags = .ok settings) : settings.Possible := by
  obtain ⟨rate, -, -, rfl⟩ := ofFlags_eq_ok_iff.1 h
  exact possible_choose rate flags

end Settings

end Hotplug.Serial
